import StageChain.Proofs.Vocabulary

/-!
# Fields of configurations

An operation reads its arguments in steps. Each step yields something, or refuses a parameter, or
meets a fault while a value is converted. What the steps of all operations come to is said once: which
fields there are, in which order, and what stands in them.

* `Yields`: **what a step comes to**; `Yields.bind`: and steps in a row.
* `Filled`: **what stands in a field**: a word, a closure, or some text.
* `Op.layouts`, `Op.Faults`: the fields of an operation, and the faults that it may meet.
* `Op.Laid.nodup`, `Op.Laid.field_mem_iff`: what the layout of an operation's fields says of them.
* `yields_fields`: **every operation lays out its fields and fills them**, or fails for no other
  reasons.
-/

namespace StageChain

open Parameters

/-! ## Steps -/

section

variable {α β : Type} {F : Fault → Prop} {P : α → Prop} {Q : β → Prop} {x : Except FieldError α}
  {f : α → Except FieldError β}

/-- **What a step comes to**: it yields what satisfies a condition, or it refuses a parameter, or it
meets one of some faults. -/
inductive Yields (F : Fault → Prop) (P : α → Prop) : Except FieldError α → Prop
  | ok {a : α} (holds : P a) : Yields F P (.ok a)
  | refused (e : ParameterError) : Yields F P (.error (.refused e))
  | fault {f : Fault} (met : F f) : Yields F P (.error (.fault f))

theorem Yields.of_ok {a : α} (h : Yields F P x) (hx : x = .ok a) : P a := by
  subst hx
  cases h with
  | ok ha => exact ha

theorem Yields.of_fault {f : Fault} (h : Yields F P x) (hx : x = .error (.fault f)) : F f := by
  subst hx
  cases h with
  | fault met => exact met

/-- A step may use what the step in front of it yields. -/
theorem Yields.bind (hx : Yields F P x) (hf : ∀ a, P a → Yields F Q (f a)) :
    Yields F Q (x >>= f) := by
  cases hx with
  | ok ha => exact hf _ ha
  | refused e => exact .refused e
  | fault met => exact .fault met

theorem Yields.pure {a : α} (ha : P a) : Yields F P (Pure.pure a) := .ok ha

theorem Yields.ite {p : Prop} [Decidable p] {x y : Except FieldError α} (hx : p → Yields F P x)
    (hy : ¬p → Yields F P y) : Yields F P (if p then x else y) := by
  split
  next h => exact hx h
  next h => exact hy h

end

/-! ## Reading arguments -/

namespace Parameters

variable {F : Fault → Prop} {v : Value} {vs : List Value}

/-- A word is read, or it is a comparison that cannot be looked up. -/
theorem yields_word (p : Vocabulary) (v : Value)
    (hF : p = .comparisons → ∀ kind, F (.unhashable kind)) :
    Yields F (p.Takes v) (p.read v) := by
  cases h : p.read v with
  | ok c => exact .ok (Vocabulary.read_ok_iff.1 h)
  | error e =>
    cases e with
    | refused e => exact .refused e
    | fault f =>
      obtain ⟨hp, kind, rfl⟩ := Vocabulary.eq_unhashable_of_read h
      exact .fault (hF hp kind)

theorem yields_element (v : Value) : Yields F (Vocabulary.elements.Takes v) (elementField v) :=
  yields_word .elements v nofun

theorem yields_direction (v : Value) :
    Yields F (Vocabulary.directions.Takes v) (directionField v) :=
  yields_word .directions v nofun

theorem yields_action (v : Value) : Yields F (Vocabulary.actions.Takes v) (actionField v) :=
  yields_word .actions v nofun

theorem yields_comparison (v : Value) (hF : ∀ kind, F (.unhashable kind)) :
    Yields F (Vocabulary.comparisons.Takes v) (comparisonField v) :=
  yields_word .comparisons v fun _ => hF

/-- A closure is taken as it is. -/
theorem yields_closure (name : String) (v : Value) :
    Yields F (fun c => c = v ∧ ∃ x, ConfigValue.ofValue? v = some x ∧ x.isEmpty = false)
      (closureField name v) := by
  unfold closureField
  split
  next x hx =>
    exact .ite (fun _ => .refused _) fun hempty => .ok ⟨rfl, x, hx, by simpa using hempty⟩
  next => exact .refused _

theorem yields_step (v : Value) : Yields F (fun c => ∃ s, c = .text s) (stepField v) := by
  unfold stepField
  split
  · exact .ite (fun _ => .refused _) fun _ => .ok ⟨_, rfl⟩
  · exact .refused _

theorem yields_require (e : ParameterError) (v : Value) : Yields F (fun _ => True) (require e v) :=
  .ite (fun _ => .ok trivial) fun _ => .refused _

theorem yields_valueClass (v : Value) : Yields F (fun _ => True) (valueClass v) := by
  cases v <;> first | exact .ok trivial | exact .refused _

theorem yields_checkClasses (c : ValueClass) (vs : List Value) :
    Yields F (fun _ => True) (checkClasses c vs) := by
  induction vs with
  | nil => exact .ok trivial
  | cons v vs ih =>
    exact (yields_valueClass v).bind fun _ _ => .ite (fun _ => ih) fun _ => .refused _

theorem yields_vertexIds (vs : List Value) : Yields F (fun _ => True) (vertexIds vs) := by
  induction vs with
  | nil => exact .ok trivial
  | cons v vs ih =>
    cases v with
    | int i => exact ih.bind fun _ _ => .pure trivial
    | _ => exact .refused _

/-- A bound is refused for nothing but its size. -/
theorem bound_error {e : FieldError} (h : bound v = .error e) : e = .fault .tooLarge := by
  unfold bound at h
  split at h
  · split at h
    · cases h
    · exact (Except.error.inj h).symm
  · cases h
  · cases h

theorem yields_bound (v : Value) (hF : F .tooLarge) : Yields F (fun _ => True) (bound v) := by
  cases h : bound v with
  | ok s => exact .ok trivial
  | error e =>
    rw [bound_error h]
    exact .fault hF

end Parameters

/-! ## What the fields are -/

/-- The fields that hold closures, with the parameters that these are given as. -/
def closureFields : List (String × String) :=
  [("closure", "closure"), ("keyFunction", "key_closure"), ("valueFunction", "value_closure")]

/-- **What stands in a field**, for the arguments of a call: the word that an argument spells, a
closure as it is given, or some text. -/
inductive Filled (a : Arguments) : String × Value → Prop
  | word {p : Vocabulary} {c : Value} (taken : p.Takes (a.valueD p.parameter .null) c) :
    Filled a (p.field, c)
  | closure {field name : String} {c : Value} (mem : (field, name) ∈ closureFields)
    (given : c = a.valueD name .null ∧
      ∃ x, ConfigValue.ofValue? (a.valueD name .null) = some x ∧ x.isEmpty = false) :
    Filled a (field, c)
  | text {field : String} {c : Value} (free : field ∉ Vocabulary.all.map Vocabulary.field)
    (text : ∃ s, c = .text s) : Filled a (field, c)

namespace Filled

variable {a : Arguments} {field : String} {c : Value} {x : ConfigValue} {p : Vocabulary}

/-- A field for a word holds the word that was spelled. -/
theorem takes (h : Filled a (p.field, c)) : p.Takes (a.valueD p.parameter .null) c := by
  generalize hentry : (p.field, c) = f at h
  cases h with
  | @word p' c' taken =>
    obtain ⟨hfield, rfl⟩ := Prod.mk.inj hentry
    obtain rfl := Vocabulary.field_injective hfield
    exact taken
  | closure mem given =>
    obtain ⟨rfl, -⟩ := Prod.mk.inj hentry
    have hclosures : ∀ e ∈ closureFields, ∀ p ∈ Vocabulary.all, e.1 ≠ p.field := by decide
    exact absurd rfl (hclosures _ mem p p.mem_all)
  | text free =>
    obtain ⟨rfl, -⟩ := Prod.mk.inj hentry
    exact absurd (List.mem_map_of_mem p.mem_all) free

/-- A field that is fit holds a text, or a closure that is given as a byte string. -/
theorem value (h : Filled a (field, c)) (hx : ConfigValue.ofValue? c = some x) :
    (∃ s, x = .text s) ∨ ∃ b, x = .bytes b ∧ b ≠ [] ∧
      ∃ name ∈ closureFields.map Prod.snd, a.valueD name .null = .bytes b := by
  cases h with
  | word taken =>
    obtain ⟨w, -, -, rfl⟩ := taken
    exact .inl ⟨w, Vocabulary.eq_text_of_ofValue? hx Vocabulary.text?_written⟩
  | @closure field name c mem given =>
    obtain ⟨rfl, y, hy, hempty⟩ := given
    obtain rfl : x = y := Option.some.inj (hx.symm.trans hy)
    cases x with
    | text s => exact .inl ⟨s, rfl⟩
    | bytes b =>
      have hne : b ≠ [] := by simpa [ConfigValue.isEmpty] using hempty
      exact .inr ⟨b, rfl, hne, name, List.mem_map_of_mem mem, ConfigValue.eq_of_ofValue? hx⟩
  | text free text =>
    obtain ⟨s, rfl⟩ := text
    exact .inl ⟨s, (Option.some.inj hx).symm⟩

/-- **A field that is not fit** holds what was given as a comparison and equals its name. -/
theorem alike (h : Filled a (field, c)) (hc : ConfigValue.ofValue? c = none) :
    field = Vocabulary.comparisons.field ∧ c = a.valueD Vocabulary.comparisons.parameter .null ∧
      Vocabulary.Alike c := by
  cases h with
  | word taken =>
    obtain ⟨w, hw, hspells, rfl⟩ := taken
    obtain ⟨rfl, hsame, halike⟩ := Vocabulary.alike_of_written hw hspells hc
    rw [hsame]
    exact ⟨rfl, rfl, halike⟩
  | closure mem given =>
    obtain ⟨rfl, y, hy, -⟩ := given
    rw [hc] at hy
    cases hy
  | text free text =>
    obtain ⟨s, rfl⟩ := text
    cases hc

end Filled

namespace Op

variable {a : Arguments} {op : Op}

/-- The fields of an operation's configuration, in order. A function for values may be left out. -/
def layouts : Op → List (List String)
  | transform | filter | sideEffect => [["class", "closure"]]
  | identity | verticesMap | edgesMap => [[]]
  | vertexMap => [["ids"]]
  | verticesVertices | verticesEdges => [["direction", "labels"]]
  | edgesVertices => [["direction"]]
  | propertyMap => [["class", "key"]]
  | pathMap | duplicateFilter | count => [["class"]]
  | propertyFilter => [["class", "key", "compare", "values", "valueClass", "nullWildcard"]]
  | intervalFilter => [["class", "key", "valueClass", "startValue", "endValue", "nullWildcard"]]
  | backFilter => [["class", "step"]]
  | link => [["step", "direction", "label", "mergeDuplicates", "mergeWeightKey"]]
  | commitEdges | commitVertices => [["action"]]
  | valueDistribution => [["class", "property"]]
  | groupCount => [["class", "keyFunction"], ["class", "keyFunction", "valueFunction"]]

/-- The faults that the conversion of an operation's parameters meets. -/
inductive Faults : Op → Fault → Prop
  | unhashable (kind : String) : Faults .propertyFilter (.unhashable kind)
  | tooLarge : Faults .intervalFilter .tooLarge

/-- Of the faults only that of a number is passed on by a recipe. -/
theorem Faults.eq_tooLarge_or {f : Fault} (h : op.Faults f) :
    f = .tooLarge ∨ f ≠ .tooLarge ∧ f.kindName = "TypeError" := by
  cases h with
  | unhashable kind => exact .inr ⟨nofun, rfl⟩
  | tooLarge => exact .inl rfl

/-- **The fields of an operation**, laid out and written for the arguments of a call. -/
structure Laid (op : Op) (a : Arguments) (fields : List (String × Value)) : Prop where
  layout : fields.map Prod.fst ∈ op.layouts
  filled : ∀ f ∈ fields, Filled a f

namespace Laid

variable {fields : List (String × Value)}

/-- No field stands twice. -/
theorem nodup (h : op.Laid a fields) : (fields.map Prod.fst).Nodup := by
  have hlayouts : ∀ names ∈ op.layouts, names.Nodup := by cases op <;> decide
  exact hlayouts _ h.layout

/-- No field is without a name. -/
theorem ne_empty (h : op.Laid a fields) : ∀ field ∈ fields.map Prod.fst, field ≠ "" := by
  have hlayouts : ∀ names ∈ op.layouts, ∀ field ∈ names, field ≠ "" := by cases op <;> decide
  exact hlayouts _ h.layout

end Laid

/-- **Every operation lays out its fields and fills them.** Otherwise it refuses a parameter, or meets
one of its faults. -/
theorem yields_fields (op : Op) (a : Arguments) : Yields op.Faults (op.Laid a) (op.fields a) := by
  -- the steps of an operation in its order, then the fields one by one
  cases op with
  | transform | filter | sideEffect =>
    refine (yields_element _).bind fun _ helement =>
      (yields_closure _ _).bind fun _ hclosure => .pure ⟨List.mem_singleton_self _, ?_⟩
    simp only [List.forall_mem_cons]
    exact ⟨.word helement, .closure (by decide) hclosure, nofun⟩
  | identity | verticesMap | edgesMap => exact .ok ⟨List.mem_singleton_self _, nofun⟩
  | vertexMap =>
    refine (yields_vertexIds _).bind fun _ _ => .pure ⟨List.mem_singleton_self _, ?_⟩
    simp only [List.forall_mem_cons]
    exact ⟨.text (by decide) ⟨_, rfl⟩, nofun⟩
  | verticesVertices | verticesEdges =>
    refine (yields_direction _).bind fun _ hdirection => .pure ⟨List.mem_singleton_self _, ?_⟩
    simp only [List.forall_mem_cons]
    exact ⟨.word hdirection, .text (by decide) ⟨_, rfl⟩, nofun⟩
  | edgesVertices =>
    refine (yields_direction _).bind fun _ hdirection => .pure ⟨List.mem_singleton_self _, ?_⟩
    simp only [List.forall_mem_cons]
    exact ⟨.word hdirection, nofun⟩
  | propertyMap | valueDistribution =>
    refine (yields_require _ _).bind fun _ _ => (yields_element _).bind
      fun _ helement => .pure ⟨List.mem_singleton_self _, ?_⟩
    simp only [List.forall_mem_cons]
    exact ⟨.word helement, .text (by decide) ⟨_, rfl⟩, nofun⟩
  | pathMap | duplicateFilter | count =>
    refine (yields_element _).bind fun _ helement => .pure ⟨List.mem_singleton_self _, ?_⟩
    simp only [List.forall_mem_cons]
    exact ⟨.word helement, nofun⟩
  | propertyFilter =>
    unfold fields propertyFilterFields
    simp only
    split
    · exact .refused _
    · refine (yields_valueClass _).bind fun _ _ => (yields_checkClasses _ _).bind fun _ _ =>
        (yields_comparison _ .unhashable).bind fun _ hcomparison =>
        (yields_element _).bind fun _ helement =>
        .pure ⟨List.mem_singleton_self _, ?_⟩
      simp only [List.forall_mem_cons]
      exact ⟨.word helement, .text (by decide) ⟨_, rfl⟩, .word hcomparison,
        .text (by decide) ⟨_, rfl⟩, .text (by decide) ⟨_, rfl⟩, .text (by decide) ⟨_, rfl⟩, nofun⟩
  | intervalFilter =>
    refine (yields_valueClass _).bind fun _ _ => (yields_valueClass _).bind fun _ _ =>
      .ite (fun _ => .refused _) fun _ => (yields_element _).bind fun _ helement =>
      (yields_bound _ .tooLarge).bind fun _ _ => (yields_bound _ .tooLarge).bind fun _ _ =>
      .pure ⟨List.mem_singleton_self _, ?_⟩
    simp only [List.forall_mem_cons]
    exact ⟨.word helement, .text (by decide) ⟨_, rfl⟩, .text (by decide) ⟨_, rfl⟩,
      .text (by decide) ⟨_, rfl⟩, .text (by decide) ⟨_, rfl⟩, .text (by decide) ⟨_, rfl⟩, nofun⟩
  | backFilter =>
    refine (yields_step _).bind fun _ hstep => (yields_element _).bind
      fun _ helement => .pure ⟨List.mem_singleton_self _, ?_⟩
    simp only [List.forall_mem_cons]
    exact ⟨.word helement, .text (by decide) hstep, nofun⟩
  | link =>
    refine (yields_step _).bind fun _ hstep => (yields_require _ _).bind fun _ _ =>
      (yields_direction _).bind fun _ hdirection =>
      .pure ⟨List.mem_singleton_self _, ?_⟩
    simp only [List.forall_mem_cons]
    refine ⟨.text (by decide) hstep, .word hdirection, .text (by decide) ⟨_, rfl⟩,
      .text (by decide) ⟨_, rfl⟩, .text (by decide) ?_, nofun⟩
    split <;> exact ⟨_, rfl⟩
  | commitEdges | commitVertices =>
    refine (yields_action _).bind fun _ haction => .pure ⟨List.mem_singleton_self _, ?_⟩
    simp only [List.forall_mem_cons]
    exact ⟨.word haction, nofun⟩
  | groupCount =>
    -- without a function for values there is one field less
    refine (yields_element _).bind fun _ helement =>
      (yields_closure _ _).bind fun _ hkey => .ite (fun _ => .pure ⟨List.mem_cons_self, ?_⟩)
      fun _ => (yields_closure _ _).bind fun _ hvalue =>
      .pure ⟨List.mem_cons_of_mem _ List.mem_cons_self, ?_⟩
    all_goals simp only [List.forall_mem_cons]
    · exact ⟨.word helement, .closure (by decide) hkey, nofun⟩
    · exact ⟨.word helement, .closure (by decide) hkey, .closure (by decide) hvalue, nofun⟩

/-- No field of an operation stands twice. -/
theorem nodup_fields {fields : List (String × Value)} (h : op.fields a = .ok fields) :
    (fields.map Prod.fst).Nodup :=
  ((op.yields_fields a).of_ok h).nodup

end Op

end StageChain
