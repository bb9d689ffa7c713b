import StageChain.Value.Printed

/-!
# Record schemas

Operations read and write records, pairs of a key and a value. A schema says of which types they
are; stages are chained by matching the schema that one writes with the schema that the next one
reads.

* `RecordType.ofName?_name`: a type is found by its name.
* `Schema.ofValue_toValue`: a schema is read back from what is written of it.
-/

namespace StageChain

/-- The type of a key or a value of a record. -/
inductive RecordType where
  | null
  | vertex
  | holder
  | long
  | int
  | text
  deriving DecidableEq, Repr, Inhabited

namespace RecordType

/-- The name of a type. -/
def name : RecordType → String
  | null => "null"
  | vertex => "vertex"
  | holder => "holder"
  | long => "long"
  | int => "int"
  | text => "text"

/-- The type of a name. -/
def ofName? (s : String) : Option RecordType :=
  [null, vertex, holder, long, int, text].find? (·.name = s)

theorem ofName?_name (t : RecordType) : ofName? t.name = some t := by cases t <;> rfl

end RecordType

/-- Why a value describes no schema. -/
inductive RecordError where
  /-- The mapping lacks this field. -/
  | missing (field : String)
  /-- The value names no record type. -/
  | notAType (v : Value)
  /-- The value of this kind has no fields. -/
  | noFields (v : Value)
  deriving DecidableEq, Inhabited

namespace RecordError

/-- The kind of the error. -/
def kindName : RecordError → String
  | missing _ => "KeyError"
  | notAType _ => "ValueError"
  | noFields _ => "TypeError"

/-- The message of the error. -/
def message : RecordError → String
  | missing field => Text.quoted field
  | notAType v => v.quoted ++ " is not a valid RecordType"
  | noFields (.list _) => "list indices must be integers or slices, not str"
  | noFields (.text _) => "string indices must be integers, not 'str'"
  | noFields (.bytes _) => "byte indices must be integers or slices, not str"
  | noFields v => Text.quoted v.kindName ++ " object is not subscriptable"

end RecordError

/-- The types of a record's key and value. -/
structure Schema where
  key : RecordType
  value : RecordType
  deriving DecidableEq, Repr, Inhabited

namespace Schema

/-- One vertex, with its edges, a record. A chain whose stages all write it makes another graph. -/
def graph : Schema := ⟨.null, .vertex⟩

/-- Holders under the numbers of vertices, as the map side of a grouping operation writes them. -/
def holder : Schema := ⟨.long, .holder⟩

/-- Counts under texts. -/
def textCount : Schema := ⟨.text, .long⟩

/-- Texts. -/
def text : Schema := ⟨.null, .text⟩

/-- The map side of a count. -/
def partialCount : Schema := ⟨.int, .long⟩

/-- The result of a count. -/
def count : Schema := ⟨.int, .text⟩

/-- A schema in a message. -/
def display (s : Schema) : String := "(" ++ s.key.name ++ ", " ++ s.value.name ++ ")"

/-- A schema as a mapping. -/
def toValue (s : Schema) : Value :=
  .object [("key", .text s.key.name), ("value", .text s.value.name)]

/-- The type that a value names. -/
def typeOf (v : Value) : Except RecordError RecordType :=
  match v.text?.bind RecordType.ofName? with
  | some t => .ok t
  | none => .error (.notAType v)

/-- The type under a field of a mapping. -/
def typeAt (field : String) (es : List (Value × Value)) : Except RecordError RecordType :=
  match Value.field? field es with
  | some v => typeOf v
  | none => .error (.missing field)

/-- The schema that a value describes. -/
def ofValue : Value → Except RecordError Schema
  | .map es => do
    let key ← typeAt "key" es
    let value ← typeAt "value" es
    return ⟨key, value⟩
  | v => .error (.noFields v)

theorem ofValue_toValue (s : Schema) : ofValue s.toValue = .ok s := by
  obtain ⟨k, v⟩ := s
  cases k <;> cases v <;> rfl

end Schema

end StageChain
