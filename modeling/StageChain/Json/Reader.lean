import StageChain.Number.Numeral
import StageChain.Text.Hex
import StageChain.Value.Basic

/-!
# Reading JSON

JSON with the numbers `NaN`, `Infinity` and `-Infinity`. A number with a point or an exponent is a
double, any other a whole number of any size. In a mapping a repeated key keeps its first place and
takes the last value. Control characters inside texts, commas before a closing bracket, comments and
anything after the value are errors. Half of a pair of units reads as the replacement character.

* `read?_empty`: an empty text is no value.
-/

namespace StageChain.Json

/-- The blanks of JSON. -/
def isSpace (c : Char) : Bool := c = ' ' || c = '\t' || c = '\n' || c = '\r'

/-- The text from its first character that is not blank. -/
def skipSpace (cs : List Char) : List Char := cs.dropWhile isSpace

/-- The code unit in four digits, and the rest. -/
def readUnit? : List Char → Option (Nat × List Char)
  | a :: b :: c :: d :: cs => (Text.readHex? [a, b, c, d]).map (·, cs)
  | _ => none

/-- The character of a code point, or the replacement character for half of a pair. -/
def charOfUnit (n : Nat) : Char := if 0xd800 ≤ n ∧ n < 0xe000 then '\ufffd' else Char.ofNat n

/-- The character after the mark of a code unit, and the rest. -/
def readEscapedUnit? (cs : List Char) : Option (Char × List Char) := do
  let (n, rest) ← readUnit? cs
  if 0xd800 ≤ n ∧ n < 0xdc00 then
    match rest with
    | '\\' :: 'u' :: cs₂ =>
      match readUnit? cs₂ with
      | some (m, rest₂) =>
        if 0xdc00 ≤ m ∧ m < 0xe000 then
          return (Char.ofNat (0x10000 + (n - 0xd800) * 0x400 + (m - 0xdc00)), rest₂)
        else return (charOfUnit n, rest)
      | none => return (charOfUnit n, rest)
    | _ => return (charOfUnit n, rest)
  else return (charOfUnit n, rest)

/-- The character that an escape of one letter stands for. -/
def simpleEscape? (c : Char) : Option Char :=
  [('\x22', '\x22'), ('\\', '\\'), ('/', '/'), ('b', '\x08'), ('f', '\x0c'), ('n', '\n'),
    ('r', '\r'), ('t', '\t')].lookup c

/-- A text up to its closing quote, and the rest; `acc` holds what was read, last first. -/
def readString? : (fuel : Nat) → (acc : List Char) → List Char → Option (String × List Char)
  | 0, _, _ => none
  | fuel + 1, acc, cs => match cs with
    | [] => none
    | '\x22' :: rest => some (String.ofList acc.reverse, rest)
    | '\\' :: 'u' :: rest => do
      let (c, rest) ← readEscapedUnit? rest
      readString? fuel (c :: acc) rest
    | '\\' :: e :: rest => do
      let c ← simpleEscape? e
      readString? fuel (c :: acc) rest
    | c :: rest => if c.toNat < 32 then none else readString? fuel (c :: acc) rest

/-- An exponent, and the rest; `none` where there is none. -/
def readExponent? : List Char → Option (Int × List Char)
  | e :: cs =>
    if e = 'e' ∨ e = 'E' then
      let (negative, ds) := match cs with
        | '-' :: r => (true, r)
        | '+' :: r => (false, r)
        | r => (false, r)
      let digits := ds.takeWhile isDigit
      if digits.isEmpty then none
      else some (signed negative (readNat 10 digits), ds.dropWhile isDigit)
    else none
  | [] => none

/-- The digits after a point, and the rest; `none` where there is no point or no digit. -/
def readFraction? : List Char → Option (List Char × List Char)
  | '.' :: cs =>
    let digits := cs.takeWhile isDigit
    if digits.isEmpty then none else some (digits, cs.dropWhile isDigit)
  | _ => none

/-- The digits before the point, and the rest. A zero stands alone. -/
def readWhole? : List Char → Option (List Char × List Char)
  | '0' :: cs => some (['0'], cs)
  | cs =>
    let digits := cs.takeWhile isDigit
    if digits.isEmpty then none else some (digits, cs.dropWhile isDigit)

/-- A number without its sign, and the rest. -/
def readNumber? (negative : Bool) (cs : List Char) : Option (Value × List Char) := do
  let (whole, rest) ← readWhole? cs
  match readFraction? rest with
  | some (fraction, rest) =>
    match readExponent? rest with
    | some (e, rest) => return (.float (.ofNumeral negative whole fraction e), rest)
    | none => return (.float (.ofNumeral negative whole fraction 0), rest)
  | none =>
    match readExponent? rest with
    | some (e, rest) => return (.float (.ofNumeral negative whole [] e), rest)
    | none => return (.int (signed negative (readNat 10 whole)), rest)

/-- The values that are written by name. -/
def names : List (List Char × Value) :=
  [("null".toList, .null), ("true".toList, .bool true), ("false".toList, .bool false),
    ("NaN".toList, .float .nan), ("Infinity".toList, .float (.infinite false)),
    ("-Infinity".toList, .float (.infinite true))]

/-- A value written by name, or a number. -/
def readScalar? (cs : List Char) : Option (Value × List Char) :=
  match names.find? (·.1.isPrefixOf cs) with
  | some (name, v) => some (v, cs.drop name.length)
  | none => match cs with
    | '-' :: rest => readNumber? true rest
    | _ => readNumber? false cs

mutual

/-- A value that starts here, and the rest. -/
def readValue? : (fuel : Nat) → List Char → Option (Value × List Char)
  | 0, _ => none
  | fuel + 1, cs => match cs with
    | '\x22' :: rest => do
      let (s, rest) ← readString? (rest.length + 1) [] rest
      return (.text s, rest)
    | '[' :: rest => match skipSpace rest with
      | ']' :: rest => some (.list [], rest)
      | rest => do
        let (items, rest) ← readItems? fuel rest
        return (.list items, rest)
    | '\x7b' :: rest => match skipSpace rest with
      | '\x7d' :: rest => some (.map [], rest)
      | rest => do
        let (entries, rest) ← readEntries? fuel rest
        return (.map (Value.collect entries), rest)
    | cs => readScalar? cs

/-- The members of a list from here to its closing bracket, and the rest. -/
def readItems? : (fuel : Nat) → List Char → Option (List Value × List Char)
  | 0, _ => none
  | fuel + 1, cs => do
    let (v, rest) ← readValue? fuel cs
    match skipSpace rest with
    | ']' :: rest => return ([v], rest)
    | ',' :: rest =>
      let (vs, rest) ← readItems? fuel (skipSpace rest)
      return (v :: vs, rest)
    | _ => none

/-- The entries of a mapping from here to its closing bracket, and the rest. -/
def readEntries? : (fuel : Nat) → List Char → Option (List (Value × Value) × List Char)
  | 0, _ => none
  | fuel + 1, cs => match cs with
    | '\x22' :: rest => do
      let (k, rest) ← readString? (rest.length + 1) [] rest
      match skipSpace rest with
      | ':' :: rest =>
        let (v, rest) ← readValue? fuel (skipSpace rest)
        match skipSpace rest with
        | '\x7d' :: rest => return ([(.text k, v)], rest)
        | ',' :: rest =>
          let (es, rest) ← readEntries? fuel (skipSpace rest)
          return ((.text k, v) :: es, rest)
        | _ => none
      | _ => none
    | _ => none

end

/-- The value that a whole text stands for. -/
def read? (cs : List Char) : Option Value := do
  let cs := skipSpace cs
  let (v, rest) ← readValue? (2 * cs.length + 1) cs
  if (skipSpace rest).isEmpty then some v else none

theorem read?_empty : read? [] = none := rfl

end StageChain.Json
