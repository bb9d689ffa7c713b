import StageChain.Proofs.Configuration

/-!
# The configuration of a stage as an encoding

A plan is handed to its stage as a flat table, in which the keys of its operations are arbitrary
texts. Nothing is lost on the way: the number of entries is that of all that was put in, and each
part of the plan is read back from the table alone.

* `namesIn?`, `schemaIn?`, `Plan.entriesAt`: what is read from a table.
* `size_configuration`: no entry takes the place of another one.
* `Encodes`: **what a table says of a plan**, part by part.
* `configuration_lossless`: **the configuration of a plan says all of it.**
-/

namespace StageChain

namespace Plan

/-! ## Reading a table -/

/-- The text under a key. -/
def textIn? (c : Table String ConfigValue) (key : String) : Option String :=
  match c.get? key with
  | some (.text t) => some t
  | _ => none

/-- The names of operations, which stand between commas. -/
def namesIn? (c : Table String ConfigValue) : Option (List String) :=
  (textIn? c classesKey).map fun names => (names.split ',').toList.map (·.copy)

/-- The schema of which the types stand under two keys. -/
def schemaIn? (c : Table String ConfigValue) (keys : String × String) : Option Schema :=
  match (textIn? c keys.1).bind RecordType.ofName?, (textIn? c keys.2).bind RecordType.ofName? with
  | some key, some value => some ⟨key, value⟩
  | _, _ => none

/-- **What a table says of a plan.** There are five entries of the stage itself, one for each entry
of an operation, and one each for the grouping operation and the combiner. The names of the
operations stand in order between commas, the entries of each are those with its position behind
their keys, and the rest is found under keys of its own. -/
structure Encodes (c : Table String ConfigValue) (p : Plan) : Prop where
  size : c.size = 5 + (p.operations.flatMap (·.config.entries)).length
    + (if p.grouping.isSome then 1 else 0) + (if p.combiner.isSome then 1 else 0)
  names : namesIn? c = some (p.operations.map (·.name))
  entries : ∀ i, entriesAt i c.entries = (p.operations[i]?).elim [] (·.config.entries)
  grouping : c.get? reduceKey = p.grouping.map fun g => .text g.name
  combiner : c.get? combineKey = p.combiner.map fun d => .text d.name
  mapOutput : schemaIn? c mapOutputKeys = some p.mapOutput
  output : schemaIn? c outputKeys = some p.output

/-! ## What the configuration of a plan holds -/

variable (p : Plan)

/-- **No entry is lost**, whatever the keys of the operations are. -/
theorem size_configuration : p.configuration.size
    = 5 + (p.operations.flatMap (·.config.entries)).length
      + (if p.grouping.isSome then 1 else 0) + (if p.combiner.isSome then 1 else 0) := by
  have hnamed {α : Type} (o : Option α) : o.toList.length = if o.isSome then 1 else 0 := by
    cases o <;> rfl
  rw [Table.size, entries_configuration, ← @length_operationEntries p.operations 0, ← hnamed,
    ← hnamed]
  simp only [configurationEntries, schemaEntries, List.length_append, List.length_cons,
    List.length_nil, List.length_map]

theorem get?_configuration {k : String} {v : ConfigValue} (h : (k, v) ∈ p.configurationEntries) :
    p.configuration.get? k = some v := Table.get?_of_mem (p.entries_configuration ▸ h)

theorem get?_configuration_eq_none {k : String} (h : k ∉ p.configurationEntries.map Prod.fst) :
    p.configuration.get? k = none :=
  Table.get?_eq_none (by rwa [Table.keys, entries_configuration])

theorem textIn?_configuration {k t : String} (h : (k, .text t) ∈ p.configurationEntries) :
    textIn? p.configuration k = some t := by
  rw [textIn?, p.get?_configuration h]

theorem namesIn?_configuration : namesIn? p.configuration = some p.operationNames := by
  have h : (classesKey, .text (",".intercalate p.operationNames)) ∈ p.configurationEntries := by
    simp [configurationEntries]
  rw [namesIn?, p.textIn?_configuration h, Option.map_some, p.split_operationNames]

/-- The name of an operation that a plan may have is under its key exactly if there is one. -/
theorem get?_configuration_of_named {k : String} {o : Option Descriptor}
    (hmem : ∀ d ∈ o, (k, .text d.name) ∈ p.configurationEntries)
    (hkey : k ∈ p.configurationEntries.map Prod.fst ↔ o.isSome = true) :
    p.configuration.get? k = o.map fun d => .text d.name := by
  cases o with
  | none => exact p.get?_configuration_eq_none (by simp [hkey])
  | some d => exact p.get?_configuration (hmem d rfl)

/-- A schema is read back under the keys under which it was put. -/
theorem schemaIn?_configuration {keys : String × String} {s : Schema}
    (h : ∀ e ∈ schemaEntries keys s, e ∈ p.configurationEntries) :
    schemaIn? p.configuration keys = some s := by
  have hkey := p.textIn?_configuration (h (keys.1, .text s.key.name) (by simp [schemaEntries]))
  have hvalue := p.textIn?_configuration (h (keys.2, .text s.value.name) (by simp [schemaEntries]))
  simp only [schemaIn?, hkey, hvalue, Option.bind_some, RecordType.ofName?_name]

/-- **The configuration of a plan says all of it.** The keys of its operations may end in positions
themselves or be those that the stage reads for itself; they are told apart all the same. -/
theorem configuration_lossless : Encodes p.configuration p where
  size := p.size_configuration
  names := p.namesIn?_configuration
  entries i := by rw [entries_configuration, entriesAt_configurationEntries]
  grouping := p.get?_configuration_of_named
    (fun g hg => by simp [configurationEntries, Option.mem_def.1 hg]) p.reduceKey_mem_iff
  combiner := p.get?_configuration_of_named
    (fun d hd => by simp [configurationEntries, Option.mem_def.1 hd]) p.combineKey_mem_iff
  mapOutput := p.schemaIn?_configuration fun e he => by
    simp only [configurationEntries, List.mem_append, List.mem_cons]
    exact .inl (.inl (.inl (.inl (.inr he))))
  output := p.schemaIn?_configuration fun e he => by
    simp only [configurationEntries, List.mem_append, List.mem_cons]
    exact .inl (.inl (.inl (.inr he)))

/-- A position behind a key is not taken for the end of a longer one. -/
example : entriesAt 1 [("a-11", 0), ("a-1-1", 1), ("-1", 2), ("a1", 3)]
    = [("a-1", 1), ("", 2)] := by
  decide +kernel

end Plan

end StageChain
