import StageChain.Operation.Op
import StageChain.Record
import StageChain.Table

/-!
# Descriptors

A descriptor says what one step of a chain does: its operation with a configuration of texts and
byte strings, the schema it reads and the schemas it writes. What every descriptor satisfies is
part of its type: keys are not empty, only a grouping operation has a combiner, and a map-only
operation writes a single schema.

* `make_op`, `make_kind`: what is made has the operation and the kind that were asked for.
-/

namespace StageChain

/-- A value of a stage's configuration. -/
inductive ConfigValue where
  | text (s : String)
  | bytes (b : Text.Bytes)
  deriving DecidableEq, Inhabited

namespace ConfigValue

/-- The value as such. -/
def toValue : ConfigValue → Value
  | text s => .text s
  | bytes b => .bytes b

/-- The value in a document; bytes are shown by their digits. -/
def document : ConfigValue → Value
  | text s => .text s
  | bytes b => .text (Text.hexBytes b)

/-- The configuration value that a value is. -/
def ofValue? : Value → Option ConfigValue
  | .text s => some (text s)
  | .bytes b => some (bytes b)
  | _ => none

/-- Whether there is nothing in it. -/
def isEmpty : ConfigValue → Bool
  | text s => s = ""
  | bytes b => b.isEmpty

theorem eq_of_ofValue? {v : Value} {c : ConfigValue} (h : ofValue? v = some c) : v = c.toValue := by
  cases v <;> cases h <;> rfl

end ConfigValue

/-- The class of a value that properties are compared with. -/
inductive ValueClass where
  | boolean
  | string
  | number
  deriving DecidableEq, Repr, Inhabited

/-- The name of a class. -/
def ValueClass.name : ValueClass → String
  | .boolean => "boolean"
  | .string => "string"
  | .number => "number"

/-- Why a parameter of an operation is refused. -/
inductive ParameterError where
  | element (v : Value)
  | direction (v : Value)
  | action (v : Value)
  /-- The closure under this name is empty or no closure. -/
  | closure (name : String)
  | vertexId (v : Value)
  | noPropertyKey
  | noProperty
  | noLabel
  | step
  | noValues
  | mixedClasses (first other : ValueClass)
  | mixedBounds
  | valueClass (kind : String)
  | comparison (v : Value)
  deriving DecidableEq, Inhabited

/-- The message of a refused parameter. -/
def ParameterError.message : ParameterError → String
  | .element v => "unsupported element class: " ++ v.quoted ++ " (expected one of vertex, edge)"
  | .direction v => "unknown direction: " ++ v.quoted
  | .action v => "unknown action: " ++ v.quoted
  | .closure name => name ++ " must be a non-empty string or bytes"
  | .vertexId v => "vertex ids must be integers, got " ++ v.quoted
  | .noPropertyKey => "property key is required"
  | .noProperty => "property is required"
  | .noLabel => "label is required"
  | .step => "step must be a non-negative integer"
  | .noValues => "at least one value is required"
  | .mixedClasses first other =>
    "values must share one class, got " ++ first.name ++ " and " ++ other.name
  | .mixedBounds => "start and end must share one class"
  | .valueClass kind => "unknown value class: " ++ kind
  | .comparison v => "unknown comparison: " ++ v.quoted

/-- Why a descriptor is refused. -/
inductive DescriptorError where
  | notAnOperation (v : Value)
  /-- The kind given is not that of the operation. -/
  | kind (op : Op) (given : Value ⊕ OpKind)
  | combiner (op : Op)
  | configKey (op : Op) (key : Value)
  | configValue (op : Op) (key : String) (v : Value)
  | mapOutput (op : Op)
  /-- A parameter of the operation is refused. -/
  | parameter (op : Op) (error : ParameterError)
  /-- An error that a caller states in words of its own. -/
  | stated (text : String)
  deriving DecidableEq, Inhabited

namespace DescriptorError

/-- A kind as a message shows it. -/
def displayKind : Value ⊕ OpKind → String
  | .inr .mapOnly => "OpKind.MAP_ONLY"
  | .inr .grouping => "OpKind.GROUPING_MAP_REDUCE"
  | .inl v => v.plain

/-- A message about an operation. -/
def about (op : Op) (text : String) : String := "Op '" ++ op.name ++ "'" ++ text

/-- The operation that the error is about. -/
def op? : DescriptorError → Option Op
  | notAnOperation _ | stated _ => none
  | kind op _ | combiner op | configKey op _ | configValue op _ _ | mapOutput op
  | parameter op _ => some op

/-- The message of the error. -/
def message : DescriptorError → String
  | notAnOperation v => "op must be an Op, got " ++ v.quoted
  | kind op given => about op (" is " ++ op.kind.name ++ ", not " ++ displayKind given)
  | combiner op => about op ": only grouping operations can supply a combiner"
  | configKey op key =>
    about op (": config keys must be non-empty strings, got " ++ key.quoted)
  | configValue op key v =>
    about op (": config value for '" ++ key ++ "' must be str or bytes, got " ++ v.kindName)
  | mapOutput op => about op ": map-only operations emit a single schema"
  | parameter op e => about op (": " ++ e.message)
  | stated text => text

end DescriptorError

/-- One step of a chain. -/
structure Descriptor where
  op : Op
  config : Table String ConfigValue
  input : Schema
  output : Schema
  mapOutput : Schema
  combinable : Bool
  key_ne : ∀ k ∈ config.keys, k ≠ ""
  grouping_of_combinable : combinable = true → op.kind = .grouping
  mapOutput_eq : op.kind = .mapOnly → mapOutput = output
  deriving DecidableEq

/-- What a descriptor is asked to be. The operation and its kind may be values that name none. -/
structure DescriptorRequest where
  op : Value ⊕ Op
  kind : Value ⊕ OpKind
  config : List (Value × Value)
  input : Schema
  output : Schema
  mapOutput : Option Schema
  combinable : Bool

/-- The schema that the map side is asked to write: that of the operation unless another is given.
-/
def DescriptorRequest.writtenByMap (r : DescriptorRequest) : Schema := r.mapOutput.getD r.output

namespace Descriptor

/-- The kind of the operation. -/
def kind (d : Descriptor) : OpKind := d.op.kind

/-- The name of the operation. -/
def name (d : Descriptor) : String := d.op.name

/-- Whether the operation ends its stage. -/
def isGrouping (d : Descriptor) : Bool := d.kind = .grouping

/-- Entries of a configuration: texts that are not empty, with texts or byte strings. -/
def checkConfig (op : Op) : List (Value × Value) →
    Except DescriptorError { es : List (String × ConfigValue) // ∀ e ∈ es, e.1 ≠ "" }
  | [] => .ok ⟨[], by simp⟩
  | (.text k, v) :: es =>
    if hk : k = "" then .error (.configKey op (.text k))
    else match ConfigValue.ofValue? v with
      | none => .error (.configValue op k v)
      | some c => match checkConfig op es with
        | .error e => .error e
        | .ok ⟨rest, h⟩ => .ok ⟨(k, c) :: rest, by simpa [hk] using h⟩
  | (k, _) :: _ => .error (.configKey op k)

/-- The descriptor that is asked for. -/
def make (r : DescriptorRequest) : Except DescriptorError Descriptor :=
  match r.op with
  | .inl v => .error (.notAnOperation v)
  | .inr op =>
    -- of several faults the first in this order is reported
    if r.kind.getRight? ≠ some op.kind then .error (.kind op r.kind)
    else if hc : r.combinable = true ∧ op.kind ≠ .grouping then .error (.combiner op)
    else match checkConfig op r.config with
      | .error e => .error e
      | .ok ⟨es, hes⟩ =>
        if hm : op.kind = .mapOnly ∧ r.writtenByMap ≠ r.output then .error (.mapOutput op)
        else .ok {
          op := op
          config := .ofList es
          input := r.input
          output := r.output
          mapOutput := r.writtenByMap
          combinable := r.combinable
          key_ne := by
            intro k hk
            obtain ⟨e, he, rfl⟩ := List.mem_map.1 (Table.mem_keys_ofList.1 hk)
            exact hes e he
          grouping_of_combinable := fun h => Decidable.byContradiction fun hk => hc ⟨h, hk⟩
          mapOutput_eq := fun h => Decidable.byContradiction fun hk => hm ⟨h, hk⟩ }

/-- A descriptor as a mapping. -/
def document (d : Descriptor) : Value :=
  .object <|
    [("op", .text d.name), ("kind", .text d.kind.name),
      ("config", .object (d.config.mapValues ConfigValue.document).entries),
      ("input_schema", d.input.toValue), ("output_schema", d.output.toValue)]
    ++ (if d.isGrouping then [("map_output_schema", d.mapOutput.toValue)] else [])
    ++ (if d.combinable then [("combinable", .bool true)] else [])

theorem make_op {r : DescriptorRequest} {d : Descriptor} (h : make r = .ok d) :
    r.op = .inr d.op := by
  unfold make at h
  split at h
  · simp at h
  · next op hop =>
    split at h
    · simp at h
    · split at h
      · simp at h
      · split at h
        · simp at h
        · split at h
          · simp at h
          · simp only [Except.ok.injEq] at h
            subst h
            exact hop

theorem make_kind {r : DescriptorRequest} {d : Descriptor} (h : make r = .ok d) :
    r.kind.getRight? = some d.kind := by
  unfold make at h
  split at h
  · simp at h
  · next op hop =>
    split at h
    · simp at h
    · next hk =>
      split at h
      · simp at h
      · split at h
        · simp at h
        · split at h
          · simp at h
          · simp only [Except.ok.injEq] at h
            subst h
            exact Decidable.of_not_not hk

end Descriptor

end StageChain
