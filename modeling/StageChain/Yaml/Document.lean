import StageChain.Reader
import StageChain.Yaml.Node
import StageChain.Yaml.Scalar

/-!
# Reading YAML

A YAML text as a value, as far as settings and recipes are usually written: this is the reader that
the program comes with. Scalars between quotes are texts, plain ones what they resolve to. In a
mapping a repeated key keeps its first place and takes the last value. Lists and mappings cannot be
keys. Anchors, tags, directives and texts in blocks are not read, and a date is a text.

* `read_empty`: an empty text is null.
-/

namespace StageChain.Yaml

namespace Node

/-- The value of a scalar. Between quotes a scalar is a text, and so is the sign for a default value
where it is a key. -/
def scalarValue (isKey plain : Bool) (cs : List Char) : Except ReadError Value :=
  if plain then
    match resolve cs with
    | .value v => .ok v
    | .noDigits base => .error (.fault (.noDigits base))
    | .special => if isKey ∧ cs = ['='] then .ok (.text "=") else .error .malformed
  else .ok (.text (String.ofList cs))

mutual

/-- The value of a node. -/
def toValue : Node → Except ReadError Value
  | .scalar plain cs => scalarValue false plain cs
  | .list items => do return .list (← itemValues items)
  | .map entries => do return .map (Value.collect (← entryValues entries))

/-- The values of the members of a list. -/
def itemValues : List Node → Except ReadError (List Value)
  | [] => .ok []
  | n :: ns => do
    let v ← toValue n
    return v :: (← itemValues ns)

/-- The keys and values of the entries of a mapping. -/
def entryValues : List (Node × Node) → Except ReadError (List (Value × Value))
  | [] => .ok []
  | (.scalar plain cs, n) :: es => do
    let k ← scalarValue true plain cs
    let v ← toValue n
    return (k, v) :: (← entryValues es)
  | _ :: _ => .error .malformed

end

end Node

/-- The value that a text stands for. -/
def read (cs : List Char) : Except ReadError Value :=
  match (tokens? cs).bind Node.ofTokens? with
  | none => .error .malformed
  | some none => .ok .null
  | some (some n) => n.toValue

/-- The reader of texts in UTF-8. -/
def reader : Reader where
  encoding := Text.readText?
  yaml e b := match e b with
    | none => .error (.fault .undecodable)
    | some cs => read cs

theorem read_empty : read [] = .ok .null := rfl

end StageChain.Yaml
