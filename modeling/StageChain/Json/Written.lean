import StageChain.Number.Shortest
import StageChain.Value.Printed

/-!
# Values as JSON

JSON in ASCII: other characters are escaped, those beyond the first plane as a pair of units.
Numbers that JSON lacks are written by name, a byte string as the text that messages show for it, a
foreign value as the text that it prints as, and a key that is no text as the text of its value.
Byte strings and foreign values cannot be keys.

* `compact_texts_nil`: an empty list has no space inside.
-/

namespace StageChain.Json

/-- Four digits after the mark of a code unit. -/
def unitEscape (n : Nat) : List Char := ['\\', 'u'] ++ Text.hex 4 n

/-- One character between quotes. -/
def escapeChar (c : Char) : List Char :=
  let n := c.toNat
  if c = '\x22' ∨ c = '\\' then ['\\', c]
  else if c = '\n' then ['\\', 'n']
  else if c = '\r' then ['\\', 'r']
  else if c = '\t' then ['\\', 't']
  else if n = 8 then ['\\', 'b']
  else if n = 12 then ['\\', 'f']
  else if 32 ≤ n ∧ n < 127 then [c]
  else if n < 0x10000 then unitEscape n
  else
    let m := n - 0x10000
    unitEscape (0xd800 + m / 0x400) ++ unitEscape (0xdc00 + m % 0x400)

/-- A text between quotes. -/
def string (s : String) : String :=
  String.ofList ('\x22' :: s.toList.flatMap escapeChar ++ ['\x22'])

/-- A double precision number. -/
def number : Double → String
  | .nan => "NaN"
  | .infinite negative => if negative then "-Infinity" else "Infinity"
  | d => d.text

/-- A key, which is always between quotes. -/
def key : Value → String
  | .text s => string s
  | .null => string "null"
  | .bool b => string (if b then "true" else "false")
  | .float d => string (number d)
  | v => string v.plain

/-- How lists and mappings are laid out. -/
structure Layout where
  /-- What follows an opening bracket and precedes its members, at a depth. -/
  opening : (depth : Nat) → String
  /-- What stands between two members at a depth. -/
  between : (depth : Nat) → String
  /-- What precedes a closing bracket at a depth. -/
  closing : (depth : Nat) → String

/-- Everything on one line, with a space after commas and colons. -/
def Layout.oneLine : Layout := ⟨fun _ => "", fun _ => ", ", fun _ => ""⟩

/-- A line feed, and two spaces for every bracket that is open. -/
def indent (depth : Nat) : String := String.ofList ('\n' :: List.replicate (2 * depth) ' ')

/-- A member on each line. -/
def Layout.indented : Layout :=
  ⟨fun d => indent (d + 1), fun d => "," ++ indent (d + 1), indent⟩

mutual

/-- A value as JSON, inside `depth` brackets. -/
def render (l : Layout) (depth : Nat) : Value → String
  | .null => "null"
  | .bool b => if b then "true" else "false"
  | .int i => toString i
  | .float d => number d
  | .text s => string s
  | .bytes b => string (Text.quotedBytes b)
  | .list [] => "[]"
  | .list (v :: vs) =>
    "[" ++ l.opening depth ++ render l (depth + 1) v ++ renderItems l depth vs
      ++ l.closing depth ++ "]"
  | .map [] => "\x7b\x7d"
  | .map ((k, v) :: es) =>
    "\x7b" ++ l.opening depth ++ key k ++ ": " ++ render l (depth + 1) v
      ++ renderEntries l depth es ++ l.closing depth ++ "\x7d"
  | .other self _ => string self.plain

/-- The members of a list after the first one. -/
def renderItems (l : Layout) (depth : Nat) : List Value → String
  | [] => ""
  | v :: vs => l.between depth ++ render l (depth + 1) v ++ renderItems l depth vs

/-- The entries of a mapping after the first one. -/
def renderEntries (l : Layout) (depth : Nat) : List (Value × Value) → String
  | [] => ""
  | (k, v) :: es =>
    l.between depth ++ key k ++ ": " ++ render l (depth + 1) v ++ renderEntries l depth es

end

/-- A value on one line. -/
def compact (v : Value) : String := render .oneLine 0 v

/-- A value over several lines. -/
def pretty (v : Value) : String := render .indented 0 v

/-- Whether a value may be a key in JSON. -/
def isKey : Value → Bool
  | .bytes _ | .list _ | .map _ | .other .. => false
  | _ => true

mutual

/-- Whether a value can be written: none of its keys is a byte string or a foreign value. -/
def writable : Value → Bool
  | .list items => writableItems items
  | .map entries => writableEntries entries
  | _ => true

/-- Whether all members of a list can be written. -/
def writableItems : List Value → Bool
  | [] => true
  | v :: vs => writable v && writableItems vs

/-- Whether all entries of a mapping can be written. -/
def writableEntries : List (Value × Value) → Bool
  | [] => true
  | (k, v) :: es => isKey k && writable v && writableEntries es

end

theorem compact_texts_nil : compact (.texts []) = "[]" := rfl

end StageChain.Json
