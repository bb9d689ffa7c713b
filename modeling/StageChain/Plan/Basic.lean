import StageChain.Operation.Descriptor

/-!
# Plans

A plan is one stage of a chain: a sequence of map-only operations that are applied to each record in
order, and perhaps a grouping operation after them, with or without a combiner. What the constructor
checks is part of the type.

A plan is handed to a stage as a flat configuration. It names the operations in order, gives each
operation's entries with the operation's position behind the key, and says which schemas are
written.

* `operations_ne_nil`: a plan has an operation.
-/

namespace StageChain

/-- Why operations form no plan. -/
inductive PlanError where
  | noOperation
  /-- An operation that is not map-only stands in the sequence. -/
  | notFusable (op : Op)
  /-- A map-only operation stands where the grouping operation should. -/
  | notGrouping (op : Op)
  /-- There is a combiner and no grouping operation. -/
  | combinerAlone
  /-- The combiner is not the grouping operation's. -/
  | foreignCombiner (combiner grouping : Op)
  deriving DecidableEq, Repr, Inhabited

/-- The message of the error. -/
def PlanError.message : PlanError → String
  | noOperation => "A stage needs at least one map-only operation or a grouping operation"
  | notFusable op =>
    "'" ++ op.name ++ "' is " ++ op.kind.name ++ " and cannot be fused into a map sequence"
  | notGrouping op => "'" ++ op.name ++ "' is not a grouping operation"
  | combinerAlone => "combine_op is only valid when grouping_op is present"
  | foreignCombiner combiner grouping =>
    "combine_op '" ++ combiner.name ++ "' must be the combiner of grouping_op '" ++ grouping.name
      ++ "'"

/-- One stage of a chain. -/
structure Plan where
  mapOnly : List Descriptor
  grouping : Option Descriptor
  combiner : Option Descriptor
  mapOutput : Schema
  output : Schema
  nonempty : mapOnly ≠ [] ∨ grouping ≠ none
  mapOnly_kind : ∀ d ∈ mapOnly, d.kind = .mapOnly
  grouping_kind : ∀ g ∈ grouping, g.kind = .grouping
  combiner_op : ∀ c ∈ combiner, ∃ g ∈ grouping, c.op = g.op ∧ g.combinable = true
  deriving DecidableEq

/-- What a plan is asked to be. -/
structure PlanRequest where
  mapOnly : List Descriptor
  grouping : Option Descriptor
  combiner : Option Descriptor
  mapOutput : Schema
  output : Schema

namespace Plan

/-- No operations are map-only ones. -/
theorem mapOnly_nil : ∀ d ∈ ([] : List Descriptor), d.kind = .mapOnly := by simp

/-- There may be no grouping operation. -/
theorem grouping_none : ∀ g ∈ (none : Option Descriptor), g.kind = .grouping := by simp

theorem grouping_some {d : Descriptor} (h : d.kind = .grouping) :
    ∀ g ∈ some d, g.kind = .grouping := by simpa using h

/-- Checks that a combiner is that of the grouping operation. -/
def checkCombiner (grouping combiner : Option Descriptor) :
    Except PlanError (PLift (∀ c ∈ combiner, ∃ g ∈ grouping, c.op = g.op ∧ g.combinable = true)) :=
  match grouping, combiner with
  | _, none => .ok ⟨by simp⟩
  | none, some _ => .error .combinerAlone
  | some g, some c =>
    if h : c.op = g.op ∧ g.combinable = true then .ok ⟨by simpa using h⟩
    else .error (.foreignCombiner c.op g.op)

/-- Checks that an operation after a sequence is a grouping one. -/
def checkGrouping (grouping : Option Descriptor) :
    Except PlanError (PLift (∀ g ∈ grouping, g.kind = .grouping)) :=
  match grouping with
  | none => .ok ⟨by simp⟩
  | some g =>
    if h : g.kind = .grouping then .ok ⟨by simpa using h⟩ else .error (.notGrouping g.op)

/-- Checks that all operations of a sequence are map-only. -/
def checkSequence (ds : List Descriptor) :
    Except PlanError (PLift (∀ d ∈ ds, d.kind = .mapOnly)) :=
  match ds with
  | [] => .ok ⟨by simp⟩
  | d :: ds =>
    if h : d.kind = .mapOnly then
      match checkSequence ds with
      | .error e => .error e
      | .ok ⟨hs⟩ => .ok ⟨by simpa [h] using hs⟩
    else .error (.notFusable d.op)

/-- The plan that is asked for. -/
def make (r : PlanRequest) : Except PlanError Plan :=
  if hn : r.mapOnly = [] ∧ r.grouping = none then .error .noOperation
  else match checkSequence r.mapOnly with
    | .error e => .error e
    | .ok ⟨hs⟩ => match checkGrouping r.grouping with
      | .error e => .error e
      | .ok ⟨hg⟩ => match checkCombiner r.grouping r.combiner with
        | .error e => .error e
        | .ok ⟨hc⟩ => .ok {
            mapOnly := r.mapOnly
            grouping := r.grouping
            combiner := r.combiner
            mapOutput := r.mapOutput
            output := r.output
            nonempty := by
              by_cases h : r.mapOnly = []
              · exact .inr fun hnone => hn ⟨h, hnone⟩
              · exact .inl h
            mapOnly_kind := hs
            grouping_kind := hg
            combiner_op := hc }

/-- Every operation of the stage in the order in which they are applied. -/
def operations (p : Plan) : List Descriptor := p.mapOnly ++ p.grouping.toList

theorem operations_ne_nil (p : Plan) : p.operations ≠ [] := by
  rcases p.nonempty with h | h
  · simp [operations, h]
  · cases hg : p.grouping with
    | none => exact absurd hg h
    | some g => simp [operations, hg]

/-- The schema that the stage reads: that of its first operation. -/
def input (p : Plan) : Schema := (p.operations.head p.operations_ne_nil).input

/-- The names of the operations in order. -/
def operationNames (p : Plan) : List String := p.operations.map (·.name)

/-- The name of the stage. -/
def name (p : Plan) : String := "MapSequence[" ++ ", ".intercalate p.operationNames ++ "]"

/-- The key of the names of all operations. -/
def classesKey : String := "graphstage.mapsequence.classes"

/-- The key of the grouping operation's name. -/
def reduceKey : String := "graphstage.mapsequence.reduce"

/-- The key of the combiner's name. -/
def combineKey : String := "graphstage.mapsequence.combine"

/-- The keys of the schema that the map side writes. -/
def mapOutputKeys : String × String := ("graphstage.map.output.key", "graphstage.map.output.value")

/-- The keys of the schema that the stage writes. -/
def outputKeys : String × String := ("graphstage.output.key", "graphstage.output.value")

/-- The key of an operation's entry in the configuration of the stage. -/
def indexedKey (key : String) (position : Nat) : String := key ++ "-" ++ toString position

/-- The entries of the operations from a position on. -/
def operationEntries : (position : Nat) → List Descriptor → List (String × ConfigValue)
  | _, [] => []
  | i, d :: ds =>
    d.config.entries.map (fun e => (indexedKey e.1 i, e.2)) ++ operationEntries (i + 1) ds

/-- The entries of a schema under two keys. -/
def schemaEntries (keys : String × String) (s : Schema) : List (String × ConfigValue) :=
  [(keys.1, .text s.key.name), (keys.2, .text s.value.name)]

/-- The entries of the stage's configuration, in the order in which they are put. -/
def configurationEntries (p : Plan) : List (String × ConfigValue) :=
  (classesKey, .text (",".intercalate p.operationNames))
    :: schemaEntries mapOutputKeys p.mapOutput
    ++ schemaEntries outputKeys p.output
    ++ operationEntries 0 p.operations
    ++ (p.grouping.toList.map fun g => (reduceKey, .text g.name))
    ++ (p.combiner.toList.map fun c => (combineKey, .text c.name))

/-- The configuration of the stage. -/
def configuration (p : Plan) : Table String ConfigValue := .ofList p.configurationEntries

/-- A plan as a mapping. -/
def document (p : Plan) : Value :=
  .object <|
    [("name", .text p.name), ("map_only_sequence", .list (p.mapOnly.map (·.document)))]
    ++ (p.grouping.toList.map fun g => ("grouping_op", g.document))
    ++ (p.combiner.toList.map fun c => ("combine_op", .text c.name))
    ++ [("map_output_schema", p.mapOutput.toValue), ("final_output_schema", p.output.toValue)]

end Plan

end StageChain
