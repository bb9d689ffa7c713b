/-!
# A place in a text

Where a scan of a YAML text stands: what is left of the text, and the index, line and column of its
first character. Lines are ended by a line feed, the next line control, or a line or paragraph
separator; a byte order mark takes no column.

* `Cursor.advance_length`: a step takes one character.
-/

namespace StageChain.Yaml

/-- Whether the character ends a line. -/
def isBreak (c : Char) : Bool := c = '\n' || c = '\u0085' || c = '\u2028' || c = '\u2029'

/-- Whether nothing, a blank or the end of a line is here. -/
def isGap : Option Char → Bool
  | none => true
  | some c => c = ' ' || c = '\t' || isBreak c

/-- A place in a text. -/
structure Cursor where
  rest : List Char
  index : Nat
  line : Nat
  column : Nat
  deriving Inhabited

namespace Cursor

/-- The start of a text; a byte order mark there is passed over. -/
def start (cs : List Char) : Cursor :=
  match cs with
  | '\ufeff' :: rest => ⟨rest, 1, 0, 0⟩
  | _ => ⟨cs, 0, 0, 0⟩

/-- The character `n` places further on. -/
def peek (c : Cursor) (n : Nat) : Option Char := c.rest[n]?

/-- The place one character further on. -/
def advance (c : Cursor) : Cursor :=
  match c.rest with
  | [] => c
  | x :: rest =>
    if isBreak x then ⟨rest, c.index + 1, c.line + 1, 0⟩
    else if x = '\ufeff' then ⟨rest, c.index + 1, c.line, c.column⟩
    else ⟨rest, c.index + 1, c.line, c.column + 1⟩

/-- The place `n` characters further on. -/
def skip (c : Cursor) : Nat → Cursor
  | 0 => c
  | n + 1 => c.advance.skip n

/-- The place after all characters of a class. -/
def skipWhile (c : Cursor) (p : Char → Bool) : Cursor := c.skip (c.rest.takeWhile p).length

/-- The end of a line that is here: what it reads as, and the place after it. -/
def takeBreak? (c : Cursor) : Option (Char × Cursor) :=
  match c.rest with
  | x :: _ =>
    if isBreak x then
      some (if x = '\u0085' then '\n' else x, c.advance)
    else none
  | [] => none

/-- Whether a line of three hyphens or three points starts here. -/
def isSeparator (c : Cursor) : Bool :=
  (c.rest.take 3 = ['-', '-', '-'] || c.rest.take 3 = ['.', '.', '.']) && isGap (c.peek 3)

theorem advance_length (c : Cursor) : c.advance.rest.length = c.rest.length - 1 := by
  unfold advance
  split
  · next h => simp [h]
  · next x rest h =>
    simp only [h]
    split
    · simp
    · split <;> simp

end Cursor

end StageChain.Yaml
