import StageChain.Number.Numeral
import StageChain.Value.Basic

/-!
# Plain scalars

What a text without quotes stands for in YAML 1.1: a truth value, null, a whole number in one of
four bases, a double, or the text itself. Underscores between digits are dropped. A number in base
two or sixteen may consist of underscores alone; then it cannot be read.

* `resolve_empty`: an empty scalar is null.
-/

namespace StageChain.Yaml

/-- The words for truth and falsehood, each in small letters, capitalised or in capitals. -/
def truths : List (String × Bool) :=
  [("yes", true), ("Yes", true), ("YES", true), ("no", false), ("No", false), ("NO", false),
    ("true", true), ("True", true), ("TRUE", true), ("false", false), ("False", false),
    ("FALSE", false), ("on", true), ("On", true), ("ON", true), ("off", false), ("Off", false),
    ("OFF", false)]

/-- The words for null. -/
def nulls : List String := ["", "~", "null", "Null", "NULL"]

/-- A sign, if there is one: whether it is a minus, and the rest. -/
def takeSign : List Char → Bool × List Char
  | '-' :: cs => (true, cs)
  | '+' :: cs => (false, cs)
  | cs => (false, cs)

/-- Whether every character is an underscore or of the given class. -/
def allDigits (isMember : Char → Bool) (cs : List Char) : Bool :=
  cs.all fun c => c = '_' || isMember c

/-- The digits without the underscores between them. -/
def dropUnderscores (cs : List Char) : List Char := cs.filter (· != '_')

/-- Whether the character is a digit in base two. -/
def isBinaryDigit (c : Char) : Bool := c = '0' || c = '1'

/-- Whether the character is a digit in base eight. -/
def isOctalDigit (c : Char) : Bool := '0' ≤ c && c ≤ '7'

/-- Whether the character is a digit in base sixteen. -/
def isHexDigit (c : Char) : Bool :=
  isDigit c || ('a' ≤ c && c ≤ 'f') || ('A' ≤ c && c ≤ 'F')

/-- The base of a whole number and its digits, which may be underscores alone. -/
def wholeParts? : List Char → Option (Nat × List Char)
  | '0' :: 'b' :: d :: ds =>
    if allDigits isBinaryDigit (d :: ds) then some (2, dropUnderscores (d :: ds)) else none
  | '0' :: 'x' :: d :: ds =>
    if allDigits isHexDigit (d :: ds) then some (16, dropUnderscores (d :: ds)) else none
  | '0' :: ds => if allDigits isOctalDigit ds then some (8, '0' :: dropUnderscores ds) else none
  | d :: ds =>
    if isDigit d && allDigits isDigit ds then some (10, dropUnderscores (d :: ds)) else none
  | [] => none

/-- An exponent with its sign, which must be there; no text at all is the exponent zero. -/
def exponent? : List Char → Option Int
  | [] => some 0
  | e :: s :: ds =>
    if (e = 'e' ∨ e = 'E') ∧ (s = '+' ∨ s = '-') ∧ ds ≠ [] ∧ ds.all isDigit = true then
      some (signed (s = '-') (readNat 10 ds))
    else none
  | _ => none

/-- A number with a point, without its sign. Before the point stands a digit or nothing, and if
nothing, a digit must follow the point. -/
def pointed? (negative : Bool) (cs : List Char) : Option Double :=
  let isPart (c : Char) : Bool := isDigit c || c = '_'
  let whole := cs.takeWhile isPart
  match cs.dropWhile isPart with
  | '.' :: rest =>
    let fraction := rest.takeWhile isPart
    let wellFormed := match whole, fraction with
      | [], d :: _ => isDigit d
      | d :: _, _ => isDigit d
      | [], [] => false
    if wellFormed then
      (exponent? (rest.dropWhile isPart)).map fun e =>
        .ofNumeral negative (dropUnderscores whole) (dropUnderscores fraction) e
    else none
  | _ => none

/-- A double: a number with a point, an infinity, or what is not a number. A number that starts
with its point, and what is not a number, have no sign. -/
def double? (cs : List Char) : Option Double :=
  let (negative, body) := takeSign cs
  if body ∈ [".inf".toList, ".Inf".toList, ".INF".toList] then some (.infinite negative)
  else if cs ∈ [".nan".toList, ".NaN".toList, ".NAN".toList] then some .nan
  else if body.head? = some '.' ∧ body.length < cs.length then none
  else pointed? negative body

/-- What a plain scalar stands for. -/
inductive Meaning where
  /-- The scalar is this value. -/
  | value (v : Value)
  /-- The scalar has the form of a number in this base and no digit. -/
  | noDigits (base : Nat)
  /-- The scalar asks for a default value or for the entries of another mapping. -/
  | special
  deriving DecidableEq, Inhabited

/-- The meaning of a plain scalar. -/
def resolve (cs : List Char) : Meaning :=
  let s := String.ofList cs
  match truths.lookup s with
  | some b => .value (.bool b)
  | none =>
    if s ∈ nulls then .value .null
    else if s = "=" ∨ s = "<<" then .special
    else match double? cs with
      | some d => .value (.float d)
      | none =>
        let (negative, body) := takeSign cs
        match wholeParts? body with
        | some (base, []) => .noDigits base
        | some (base, ds) => .value (.int (signed negative (readNat base ds)))
        | none => .value (.text s)

theorem resolve_empty : resolve [] = .value .null := by decide

end StageChain.Yaml
