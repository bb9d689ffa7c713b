import StageChain.Fault
import StageChain.Text.Utf8

/-!
# Readers

Settings and recipes are files that a package of its own reads as YAML, and settings are opened in
the encoding of the place. Both are given from outside: a reader is what a program finds of them. It
makes a value of the bytes of a file, finds them malformed, or fails in a way of its own, as it does
with a date that is none. A value that is read may be foreign, a date for one, though none that
equals a text is known to come from a file.

* `Reader.Sound`: **what may be relied on** of a reader.
-/

namespace StageChain

/-- The characters that bytes stand for, if they are a text. -/
abbrev Encoding := Text.Bytes → Option (List Char)

/-- Why the bytes of a file are read as no value. -/
inductive ReadError where
  /-- They are not what the format asks for. -/
  | malformed
  /-- An error that the reader does not call malformed. -/
  | fault (fault : Fault)
  deriving DecidableEq, Inhabited

/-- A reader of files in YAML. -/
structure Reader where
  /-- The encoding of the place. -/
  encoding : Encoding
  /-- What bytes are read as in an encoding. -/
  yaml : Encoding → Text.Bytes → Except ReadError Value

/-- **What may be relied on**: a text is a value or malformed. Bytes that are no text are read as no
value, but a reader that goes by pieces may find them malformed before it meets the first that stand
for nothing. -/
structure Reader.Sound (r : Reader) : Prop where
  text : ∀ e b cs f, e b = some cs → r.yaml e b ≠ .error (.fault f)
  noText : ∀ e b, e b = none →
    r.yaml e b = .error .malformed ∨ r.yaml e b = .error (.fault .undecodable)

end StageChain
