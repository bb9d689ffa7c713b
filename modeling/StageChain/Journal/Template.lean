import StageChain.Number.Numeral
import StageChain.Number.Rounded
import StageChain.Value.Printed

/-!
# Message templates

A message may be a template whose marks stand for arguments: `%s` for the running text of a value,
`%r` for its text between quotes, `%d` for a whole number, and others. Marks may name an entry of
a mapping, and give a width, a precision and a sign. A template that does not fit its arguments
makes no message.

* `fill?_literal`: a text without marks and arguments is its own message.
-/

namespace StageChain.Template

/-- The arguments of a template: several in a row, or one mapping from which marks select. -/
inductive Supply where
  | several (left : List Value)
  /-- `current` is the value that the next mark without a name stands for. -/
  | mapping (entries : List (Value × Value)) (current : Option Value)

namespace Supply

/-- The arguments in a list. A single mapping that is not empty is one to select from; until then
it stands for itself. -/
def ofList : List Value → Supply
  | [.map (e :: es)] => mapping (e :: es) (some (.map (e :: es)))
  | args => several args

/-- The next argument. -/
def next? : Supply → Option (Value × Supply)
  | several (v :: vs) => some (v, several vs)
  | several [] => none
  | mapping es current => current.map fun v => (v, mapping es none)

/-- The arguments after a mark has named one. -/
def select? (name : String) : Supply → Option Supply
  | several _ => none
  | mapping es _ => (Value.field? name es).map fun v => mapping es (some v)

/-- Whether no argument is left that a mark should have stood for. -/
def isSpent : Supply → Bool
  | several vs => vs.isEmpty
  | mapping _ _ => true

end Supply

/-- A mark: where padding goes and with what, how a number shows its sign, the least width, the
precision and the letter of the mark. -/
structure Mark where
  left : Bool
  zeros : Bool
  plus : Bool
  blank : Bool
  alternate : Bool
  width : Nat
  precision : Option Nat
  letter : Char

/-- The flags of a mark. -/
def isFlag (c : Char) : Bool := "-0+ #".toList.contains c

/-- The whole number that a value is. -/
def integer? : Value → Option Int
  | .int i => some i
  | .bool b => some (if b then 1 else 0)
  | _ => none

/-- A number that a mark gives by its digits or, by an asterisk, as the next argument. -/
def number? (cs : List Char) (args : Supply) : Option (Int × List Char × Supply) :=
  match cs with
  | '*' :: cs => do
    let (v, args) ← args.next?
    return (← integer? v, cs, args)
  | cs => some (readNat 10 (cs.takeWhile isDigit), cs.dropWhile isDigit, args)

/-- A number of a mark that is below a bound. -/
def measure? (bound : Nat) (cs : List Char) (args : Supply) : Option (Int × List Char × Supply) :=
  (number? cs args).filter fun r => r.1.natAbs < bound

/-- The name at the start of a text, up to the closing bracket that belongs to it; `depth` brackets
are open inside the name. -/
def name? : (depth : Nat) → List Char → Option (List Char × List Char)
  | _, [] => none
  | 0, ')' :: cs => some ([], cs)
  | depth + 1, ')' :: cs => (name? depth cs).map fun (n, cs) => (')' :: n, cs)
  | depth, c :: cs =>
    (name? (if c = '(' then depth + 1 else depth) cs).map fun (n, cs) => (c :: n, cs)

/-- The arguments after the name that a mark may start with, and the rest of the template. -/
def selected? (cs : List Char) (args : Supply) : Option (List Char × Supply) :=
  match cs with
  | '(' :: cs => do
    let (name, cs) ← name? 0 cs
    return (cs, ← args.select? (String.ofList name))
  | cs => some (cs, args)

/-- The precision of a mark, if it gives one; a negative one is none. -/
def precision? (cs : List Char) (args : Supply) : Option (Option Nat × List Char × Supply) :=
  match cs with
  | '.' :: cs => do
    let (n, cs, args) ← measure? (Nat.pow 2 31) cs args
    return (some n.toNat, cs, args)
  | cs => some (none, cs, args)

/-- A mark after its sign, the rest of the template, and the arguments left. A negative width asks
for padding on the right. -/
def mark? (cs : List Char) (args : Supply) : Option (Mark × List Char × Supply) := do
  let (cs, args) ← selected? cs args
  let flags := cs.takeWhile isFlag
  let (width, cs, args) ← measure? (Nat.pow 2 63) (cs.dropWhile isFlag) args
  let (precision, cs, args) ← precision? cs args
  -- a letter for the size of a number is passed over
  let cs := match cs with
    | 'h' :: cs | 'l' :: cs | 'L' :: cs => cs
    | cs => cs
  match cs with
  | [] => none
  | c :: rest =>
    return (⟨flags.contains '-' || width < 0, flags.contains '0', flags.contains '+',
      flags.contains ' ', flags.contains '#', width.natAbs, precision, c⟩, rest, args)

/-- A text brought to the width of a mark. -/
def Mark.pad (m : Mark) (cs : List Char) : List Char :=
  let room := List.replicate (m.width - cs.length) ' '
  if m.left then cs ++ room else room ++ cs

/-- A number with its sign and what stands before its digits, brought to the width of a mark. -/
def Mark.padNumber (m : Mark) (negative : Bool) (lead digits : List Char) : List Char :=
  let sign := if negative then ['-'] else if m.plus then ['+'] else if m.blank then [' '] else []
  if m.zeros && !m.left then
    let room := m.width - (sign.length + lead.length + digits.length)
    sign ++ lead ++ List.replicate room '0' ++ digits
  else m.pad (sign ++ lead ++ digits)

/-- A text in ASCII: other characters are escaped. -/
def ascii (cs : List Char) : List Char :=
  cs.flatMap fun c => if c.toNat < 127 then [c] else Text.numericEscape c.toNat

/-- The whole number that a value stands for where one is asked for. -/
def whole? : Value → Option Int
  | .int i => some i
  | .bool b => some (if b then 1 else 0)
  | .float d => d.truncate?
  | _ => none

/-- Digits of a number in a base, at least as many as the precision says. -/
def Mark.digits (m : Mark) (base n : Nat) : List Char :=
  let ds := Nat.toDigits base n
  List.replicate (m.precision.getD 0 - ds.length) '0' ++ ds

/-- A double in the form that the letter of a mark asks for. -/
def Mark.double (m : Mark) (d : Double) : List Char :=
  let precision := m.precision.getD 6
  let (negative, body) : Bool × List Char := match d with
    | .nan => (false, ['n', 'a', 'n'])
    | .infinite negative => (negative, ['i', 'n', 'f'])
    | .finite negative mantissa exponent =>
      let (num, den) := Double.ratio mantissa exponent
      (negative, match m.letter.toLower with
        | 'f' => Rounded.full m.alternate precision num den
        | 'e' => Rounded.scientific m.alternate precision num den
        | _ => Rounded.general m.alternate precision num den)
  m.padNumber negative [] (if m.letter.isUpper then body.map Char.toUpper else body)

/-- The double that a value stands for where one is asked for. -/
def double? : Value → Option Double
  | .float d => some d
  | v => (integer? v).bind Double.ofInt?

/-- The text of an argument at a mark. -/
def Mark.fill? (m : Mark) (v : Value) : Option (List Char) :=
  let text (s : List Char) : Option (List Char) :=
    some (m.pad (match m.precision with
      | some n => s.take n
      | none => s))
  let based (base : Nat) (lead : List Char) (upper : Bool) : Option (List Char) :=
    (integer? v).map fun i =>
      let ds := m.digits base i.natAbs
      m.padNumber (i < 0) (if m.alternate then lead else [])
        (if upper then ds.map Char.toUpper else ds)
  match m.letter with
  | 's' => text v.plain.toList
  | 'r' => text v.quoted.toList
  | 'a' => text (ascii v.quoted.toList)
  | 'd' | 'i' | 'u' => (whole? v).map fun i => m.padNumber (i < 0) [] (m.digits 10 i.natAbs)
  | 'x' => based 16 ['0', 'x'] false
  | 'X' => based 16 ['0', 'X'] true
  | 'o' => based 8 ['0', 'o'] false
  | 'f' | 'F' | 'e' | 'E' | 'g' | 'G' => (double? v).map m.double
  | 'c' => match v with
    | .text s => if s.length = 1 then some (m.pad s.toList) else none
    | v => (integer? v).bind fun i =>
      if 0 ≤ i ∧ i < 0x110000 then some (m.pad [Char.ofNat i.toNat]) else none
  | _ => none

/-- The message of a template, and the arguments left; at most `fuel` characters of the template are
read. Two percent signs in a row stand for one. -/
def run? : (fuel : Nat) → List Char → Supply → Option (List Char × Supply)
  | 0, _, _ => none
  | fuel + 1, cs, args => match cs with
    | [] => some ([], args)
    -- with anything between the two signs this would be a mark
    | '%' :: '%' :: cs => do
      let (out, args) ← run? fuel cs args
      return ('%' :: out, args)
    | '%' :: cs => do
      let (m, cs, args) ← mark? cs args
      let (v, args) ← args.next?
      let text ← m.fill? v
      let (out, args) ← run? fuel cs args
      return (text ++ out, args)
    | c :: cs => do
      let (out, args) ← run? fuel cs args
      return (c :: out, args)

/-- The message of a template with its arguments. Without arguments a template is a plain text. -/
def fill? (template : String) (args : List Value) : Option String :=
  if args.isEmpty then some template
  else do
    let (out, left) ← run? (template.length + 1) template.toList (.ofList args)
    if left.isSpent then return String.ofList out else none

theorem fill?_literal (template : String) : fill? template [] = some template := rfl

end StageChain.Template
