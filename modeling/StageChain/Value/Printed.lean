import StageChain.Number.Shortest
import StageChain.Text.Quoted
import StageChain.Value.Basic

/-!
# Printed values

A value inside a message: texts stand as they are, and within lists and mappings between quotes.

* `plain_text`: a text prints as itself.
* `quoted_list_singleton`: a list of one value has no comma.
-/

namespace StageChain.Value

/-- Truth values in messages. -/
def boolName (b : Bool) : String := if b then "True" else "False"

mutual

/-- A value as it stands inside a list, a mapping or a complaint about it. -/
def quoted : Value → String
  | null => "None"
  | bool b => boolName b
  | int i => toString i
  | float d => d.text
  | text s => Text.quoted s
  | bytes b => Text.quotedBytes b
  | list items => "[" ++ quotedItems items ++ "]"
  | map entries => "\x7b" ++ quotedEntries entries ++ "\x7d"
  | other self _ => self.quoted

/-- The members of a list, with commas between them. -/
def quotedItems : List Value → String
  | [] => ""
  | [v] => quoted v
  | v :: w :: vs => quoted v ++ ", " ++ quotedItems (w :: vs)

/-- The entries of a mapping, with commas between them. -/
def quotedEntries : List (Value × Value) → String
  | [] => ""
  | [(k, v)] => quoted k ++ ": " ++ quoted v
  | (k, v) :: e :: es => quoted k ++ ": " ++ quoted v ++ ", " ++ quotedEntries (e :: es)

end

/-- A value as running text. -/
def plain : Value → String
  | text s => s
  | other self _ => self.plain
  | v => quoted v

@[simp] theorem plain_text (s : String) : plain (text s) = s := rfl

theorem quoted_list_singleton (v : Value) : quoted (list [v]) = "[" ++ quoted v ++ "]" := rfl

end StageChain.Value
