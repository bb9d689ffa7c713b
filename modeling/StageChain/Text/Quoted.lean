import StageChain.Text.CodeRange
import StageChain.Text.Hex
import StageChain.Text.PrintableTable

/-!
# Quoted text

How a text or a byte string is shown inside a message: between quotes, on one line, with every
character that has no printed form escaped. Apostrophes are the quotes, unless the text holds an
apostrophe and no double quote.

* `quoteMark_eq_double_iff`: when the quotes are double.
-/

namespace StageChain.Text

/-- Whether the character has a printed form; of the blanks only the space has. -/
def isPrintable (c : Char) : Bool :=
  if c.toNat < 127 then 32 ≤ c.toNat else !inRanges unprintableRanges c

/-- The quote that goes around a text. -/
def quoteMark (cs : List Char) : Char :=
  if cs.contains '\x27' && !cs.contains '\x22' then '\x22' else '\x27'

/-- A backslash and two, four or eight digits, as few as hold the code point. -/
def numericEscape (n : Nat) : List Char :=
  if n < 0x100 then ['\\', 'x'] ++ hex 2 n
  else if n < 0x10000 then ['\\', 'u'] ++ hex 4 n
  else ['\\', 'U'] ++ hex 8 n

/-- One character of a quoted text. -/
def escapeChar (mark c : Char) : List Char :=
  if c = mark ∨ c = '\\' then ['\\', c]
  else if c = '\n' then ['\\', 'n']
  else if c = '\r' then ['\\', 'r']
  else if c = '\t' then ['\\', 't']
  else if isPrintable c then [c]
  else numericEscape c.toNat

/-- A text between quotes. -/
def quoted (s : String) : String :=
  let mark := quoteMark s.toList
  String.ofList (mark :: s.toList.flatMap (escapeChar mark) ++ [mark])

/-- One byte of a quoted byte string: all bytes but the printable ASCII ones are escaped. -/
def escapeByte (mark : Char) (b : UInt8) : List Char :=
  if b.toNat < 127 then escapeChar mark (Char.ofNat b.toNat) else numericEscape b.toNat

/-- A byte string between quotes, after the letter that marks it. -/
def quotedBytes (b : Bytes) : String :=
  let mark := quoteMark (b.map fun x => Char.ofNat x.toNat)
  String.ofList ('b' :: mark :: b.flatMap (escapeByte mark) ++ [mark])

theorem quoteMark_eq_double_iff {cs : List Char} :
    quoteMark cs = '\x22' ↔ '\x27' ∈ cs ∧ '\x22' ∉ cs := by
  unfold quoteMark
  split <;> simp_all

end StageChain.Text
