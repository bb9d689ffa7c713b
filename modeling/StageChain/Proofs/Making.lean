import Mathlib.Data.List.Nodup
import StageChain.Operation.Construction

/-!
# What operations make

An operation asks for a descriptor with the fields of its configuration. Of all that the constructor
checks only one thing can fail: that each field is a text or a byte string.

* `Op.unfit?`: the field for which a descriptor is refused.
* `Descriptor.ofFields`: **the descriptor of an operation** with given fields.
* `make_request`: **what the checking constructor makes** of what an operation asks for.
* `ofArguments_ok_iff`, `ofArguments_error_iff`: what is made of arguments, and why nothing is.
* `IsMade`: **descriptors that calls of operations make.**
-/

namespace StageChain

namespace Op

theorem configKey_injective (op : Op) : Function.Injective op.configKey := by
  intro a b h
  simpa [configKey, ← String.toList_inj] using h

theorem configKey_ne (op : Op) (field : String) : op.configKey field ≠ "" := by
  intro h
  have hlength := congrArg String.length h
  simp [configKey, String.length_append] at hlength

/-- The entries that fields make, those of them that are texts or byte strings. -/
def entries (op : Op) (fields : List (String × Value)) : List (String × ConfigValue) :=
  fields.filterMap fun f => (ConfigValue.ofValue? f.2).map fun c => (op.configKey f.1, c)

/-- The first field that is neither a text nor a byte string. -/
def unfit? (fields : List (String × Value)) : Option (String × Value) :=
  fields.find? fun f => (ConfigValue.ofValue? f.2).isNone

end Op

namespace Descriptor

variable {op : Op} {fields : List (String × Value)} {a : Arguments} {d : Descriptor}

theorem entries_ne : ∀ e ∈ op.entries fields, e.1 ≠ "" := by
  intro e he
  obtain ⟨f, -, hf⟩ := List.mem_filterMap.1 he
  obtain ⟨c, -, rfl⟩ := Option.map_eq_some_iff.1 hf
  exact op.configKey_ne f.1

/-- **The descriptor of an operation** with the fields of its configuration. -/
def ofFields (op : Op) (fields : List (String × Value)) : Descriptor where
  op := op
  config := .ofList (op.entries fields)
  input := .graph
  output := op.output
  mapOutput := op.mapOutput
  combinable := op.isCombinable
  key_ne := by
    intro k hk
    rw [Table.mem_keys_ofList, List.mem_map] at hk
    obtain ⟨e, he, rfl⟩ := hk
    exact entries_ne e he
  grouping_of_combinable := by cases op <;> decide
  mapOutput_eq := by cases op <;> decide

/-- Fields pass the check of a configuration up to the first that is unfit. -/
theorem checkConfig_request (op : Op) (fields : List (String × Value)) :
    checkConfig op (op.request fields).config = match Op.unfit? fields with
      | some f => .error (.configValue op (op.configKey f.1) f.2)
      | none => .ok ⟨op.entries fields, entries_ne⟩ := by
  induction fields with
  | nil => rfl
  | cons f fields ih =>
    simp only [Op.request, List.map_cons] at ih ⊢
    rw [checkConfig, dif_neg (op.configKey_ne f.1), ih]
    cases hvalue : ConfigValue.ofValue? f.2 with
    | none => simp [Op.unfit?, hvalue]
    | some c =>
      have htail : Op.unfit? (f :: fields) = Op.unfit? fields := by simp [Op.unfit?, hvalue]
      rw [htail]
      cases Op.unfit? fields with
      | some g => rfl
      | none => simp [Op.entries, hvalue]

/-- **No check of the constructor fails but that of the values.** A descriptor with the fields is made
unless one of them is unfit. -/
theorem make_request (op : Op) (fields : List (String × Value)) :
    make (op.request fields) = match Op.unfit? fields with
      | some f => .error (.configValue op (op.configKey f.1) f.2)
      | none => .ok (ofFields op fields) := by
  have hkind : ¬((op.request fields).kind.getRight? ≠ some op.kind) := fun h => h rfl
  have hcombiner : ¬((op.request fields).combinable = true ∧ op.kind ≠ .grouping) :=
    fun h => h.2 ((ofFields op fields).grouping_of_combinable h.1)
  have hmap : ¬(op.kind = .mapOnly ∧
      (op.request fields).writtenByMap ≠ (op.request fields).output) :=
    fun h => h.2 ((ofFields op fields).mapOutput_eq h.1)
  unfold make
  split
  case h_1 v hop => cases hop
  case h_2 op' hop =>
    obtain rfl : op = op' := Sum.inr.inj hop
    rw [if_neg hkind, dif_neg hcombiner, checkConfig_request]
    cases Op.unfit? fields with
    | some f => rfl
    | none =>
      simp only
      rw [dif_neg hmap]
      rfl

/-- **What is made of arguments**: the descriptor with the fields that they give. -/
theorem ofArguments_ok_iff : ofArguments op a = .ok d ↔
    ∃ fields, op.fields a = .ok fields ∧ Op.unfit? fields = none ∧ d = ofFields op fields := by
  unfold ofArguments
  cases hfields : op.fields a with
  | error e => cases e <;> simp
  | ok fields =>
    simp only [make_request, Except.ok.injEq, exists_eq_left']
    cases Op.unfit? fields <;> simp [eq_comm]

/-- **Why nothing is made of arguments**: a parameter is refused, or there is a fault in its
conversion, or the constructor refuses a field. -/
theorem ofArguments_error_iff {e : BuildError} : ofArguments op a = .error e ↔
    (∃ r, op.fields a = .error (.refused r) ∧ e = .descriptor (.parameter op r)) ∨
    (∃ f, op.fields a = .error (.fault f) ∧ e = .fault f) ∨
    ∃ fields f, op.fields a = .ok fields ∧ Op.unfit? fields = some f ∧
      e = .descriptor (.configValue op (op.configKey f.1) f.2) := by
  unfold ofArguments
  cases hfields : op.fields a with
  | error e' => cases e' <;> simp [eq_comm]
  | ok fields =>
    simp only [make_request, Except.ok.injEq, reduceCtorEq, false_and, exists_false, false_or,
      exists_and_left, exists_eq_left']
    cases Op.unfit? fields <;> simp [eq_comm]

/-- **Made by an operation** that is called with whatever arguments. -/
def IsMade (d : Descriptor) : Prop := ∃ op positional named, ofCall op positional named = .ok d

theorem isMade_of_build {op : Value} {params : List (Value × Value)} (h : build op params = .ok d) :
    d.IsMade := by
  unfold build at h
  split at h
  · cases h
  · split at h
    · cases h
    · split at h
      · cases h
      · exact ⟨_, _, _, h⟩

theorem IsMade.eq_ofFields (h : d.IsMade) : ∃ fields, d = ofFields d.op fields := by
  obtain ⟨op, positional, named, hd⟩ := h
  unfold ofCall at hd
  split at hd
  · cases hd
  · obtain ⟨fields, -, -, rfl⟩ := ofArguments_ok_iff.1 hd
    exact ⟨fields, rfl⟩

/-- Every operation reads graph elements. -/
theorem IsMade.input (h : d.IsMade) : d.input = .graph := by
  obtain ⟨fields, hd⟩ := h.eq_ofFields
  rw [hd]
  rfl

/-- What is written depends on the operation alone. -/
theorem IsMade.output (h : d.IsMade) : d.output = d.op.output := by
  obtain ⟨fields, hd⟩ := h.eq_ofFields
  rw [hd]
  rfl

end Descriptor

end StageChain
