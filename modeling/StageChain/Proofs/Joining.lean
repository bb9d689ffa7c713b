import StageChain.Proofs.Calls
import StageChain.Proofs.Configuration

/-!
# Lists written with commas

Labels of edges and values of a property reach a stage in one text, with commas between them. The
stage gets back what stands between the commas, and that is the list only if no text in it has a
comma and there is a text at all.

* `pieces_intercalate`: taking apart what was joined gives the **pieces** of a list.
* `pieces_eq_self`: a list of texts without commas is its own pieces.
* `ListCall`: calls that take a list of texts.
* `ListCall.config_eq_iff`: **two lists give the same configuration if they have the same pieces**,
  and no others do.
-/

namespace StageChain

/-! ## Taking texts apart -/

namespace Text

variable {L L₁ L₂ : List String}

/-- What stands between the commas of a text. -/
def between (s : String) : List String := (s.toList.splitOn ',').map String.ofList

/-- What stands between the commas of the texts of a list. No text leaves what an empty one does. -/
def pieces : List String → List String
  | [] => [""]
  | s :: L => (s :: L).flatMap between

theorem between_append_comma (s t : String) :
    between (s ++ "," ++ t) = between s ++ between t := by
  have htext : (s ++ "," ++ t).toList = s.toList ++ ',' :: t.toList := by simp
  have hsplit : (s.toList ++ ',' :: t.toList).splitOn ','
      = s.toList.splitOn ',' ++ t.toList.splitOn ',' := List.splitOnP_append_cons _ _ rfl
  rw [between, htext, hsplit, List.map_append]
  rfl

/-- Taking apart what was joined. -/
theorem between_intercalate (L : List String) : between (",".intercalate L) = pieces L := by
  induction L with
  | nil => rfl
  | cons s L ih =>
    cases L with
    | nil => simp [pieces]
    | cons t L =>
      rw [String.intercalate_cons_cons, between_append_comma, ih]
      simp [pieces]

/-- Joining what was taken apart. -/
theorem intercalate_between (s : String) : ",".intercalate (between s) = s := by
  have hid : String.toList ∘ String.ofList = id := funext fun cs => String.toList_ofList
  rw [← String.toList_inj, String.toList_intercalate, between, List.map_map, hid, List.map_id]
  exact List.intercalate_splitOn ','

/-- **Lists that are joined to one text** have the same pieces. -/
theorem intercalate_eq_iff : ",".intercalate L₁ = ",".intercalate L₂ ↔ pieces L₁ = pieces L₂ := by
  constructor
  · intro h
    rw [← between_intercalate, h, between_intercalate]
  · intro h
    calc ",".intercalate L₁
        = ",".intercalate (between (",".intercalate L₁)) := (intercalate_between _).symm
      _ = ",".intercalate (between (",".intercalate L₂)) := by
          rw [between_intercalate, h, between_intercalate]
      _ = ",".intercalate L₂ := intercalate_between _

theorem between_eq_singleton {s : String} (h : ',' ∉ s.toList) : between s = [s] := by
  rw [between, List.splitOn_eq_singleton h, List.map_singleton, String.ofList_toList]

/-- A list of texts without commas is its own pieces. -/
theorem pieces_eq_self (hne : L ≠ []) (h : ∀ s ∈ L, ',' ∉ s.toList) : pieces L = L := by
  obtain ⟨s, L, rfl⟩ := List.exists_cons_of_ne_nil hne
  rw [pieces, List.flatMap_congr fun t ht => between_eq_singleton (h t ht)]
  simp

/-- The pieces of texts without commas tell them, apart from none and an empty one. -/
theorem eq_of_pieces_eq (h₁ : ∀ s ∈ L₁, ',' ∉ s.toList) (h₂ : ∀ s ∈ L₂, ',' ∉ s.toList)
    (hempty : L₁ = [] ↔ L₂ = []) (h : pieces L₁ = pieces L₂) : L₁ = L₂ := by
  by_cases hne : L₁ = []
  · rw [hne, hempty.1 hne]
  · rwa [pieces_eq_self hne h₁, pieces_eq_self (mt hempty.2 hne) h₂] at h

end Text

namespace Op

variable {op : Op} {fields : List (String × Value)} {k : String} {c : ConfigValue}

theorem mem_entries_iff : (k, c) ∈ op.entries fields ↔
    ∃ field v, (field, v) ∈ fields ∧ ConfigValue.ofValue? v = some c ∧ k = op.configKey field := by
  simp [entries, eq_comm (a := k), and_comm, and_left_comm]

/-- Fields with different names have different keys. -/
theorem nodup_entries (h : (fields.map Prod.fst).Nodup) :
    ((op.entries fields).map Prod.fst).Nodup := by
  rw [List.Nodup, List.pairwise_map] at h ⊢
  rw [entries, List.pairwise_filterMap]
  refine h.imp fun hne e he e' he' heq => ?_
  obtain ⟨c, -, rfl⟩ := Option.map_eq_some_iff.1 he
  obtain ⟨c', -, rfl⟩ := Option.map_eq_some_iff.1 he'
  exact hne (op.configKey_injective heq)

end Op

/-- The fields of a configuration are found under their keys. -/
theorem Descriptor.get?_ofFields {op : Op} {fields : List (String × Value)} {field : String}
    {v : Value} {c : ConfigValue} (hnodup : (fields.map Prod.fst).Nodup)
    (h : (field, v) ∈ fields) (hv : ConfigValue.ofValue? v = some c) :
    (ofFields op fields).config.get? (op.configKey field) = some c := by
  refine Table.get?_of_mem ?_
  rw [ofFields, Table.entries_ofList (Op.nodup_entries hnodup)]
  exact Op.mem_entries_iff.2 ⟨field, v, h, hv, rfl⟩

/-! ## Calls that take a list -/

open Parameters

/-- A call that takes a list of texts, apart from the list. -/
inductive ListCall
  /-- A step to vertices, along edges with labels. -/
  | vertices (direction : Value)
  /-- A step to edges with labels. -/
  | edges (direction : Value)
  /-- A comparison of a property with values. -/
  | values (element key comparison wildcard : Value)

namespace ListCall

variable {c : ListCall} {L L₁ L₂ : List String} {d d₁ d₂ : Descriptor}

/-- The operation that is called. -/
def op : ListCall → Op
  | vertices _ => .verticesVertices
  | edges _ => .verticesEdges
  | values .. => .propertyFilter

/-- The parameter that takes the list. -/
def parameter : ListCall → String
  | vertices _ | edges _ => "labels"
  | values .. => "values"

/-- The arguments, with a list in its place. -/
def arguments (c : ListCall) (list : Value) : List Value :=
  match c with
  | vertices direction | edges direction => [direction, list]
  | values element key comparison wildcard => [element, key, comparison, list, wildcard]

/-- The descriptor that the call makes with a list. -/
def make (c : ListCall) (L : List String) : Except BuildError Descriptor :=
  Descriptor.ofCall c.op (c.arguments (.list (L.map .text))) []

/-- The values of the parameters. -/
def named (c : ListCall) (list : Value) : Arguments :=
  match c with
  | vertices direction | edges direction => [("direction", direction), ("labels", list)]
  | values element key comparison wildcard =>
    [("element", element), ("key", key), ("compare", comparison), ("values", list),
      ("null_wildcard", wildcard)]

theorem make_eq : c.make L = Descriptor.ofArguments c.op (c.named (.list (L.map .text))) := by
  rw [← Descriptor.ofCall_handedOn]
  cases c <;> rfl

theorem map_plain_texts (L : List String) : (L.map Value.text).map Value.plain = L := by
  rw [List.map_map]
  exact List.map_id L

theorem map_comparand_texts (L : List String) : (L.map Value.text).map comparand = L := by
  rw [List.map_map]
  exact List.map_id L

/-- The fields of a step, with the labels among them. -/
theorem stepFields_ok {a : Arguments} {fields : List (String × Value)}
    (hlabels : a.valueD "labels" (.list []) = .list (L.map .text))
    (h : Op.stepFields a = .ok fields) :
    ∃ word, directionField (a.valueD "direction" .null) = .ok word ∧
      fields = [("direction", word), ("labels", commas L)] := by
  unfold Op.stepFields at h
  rw [hlabels] at h
  obtain ⟨word, hword, h⟩ := Steps.bind_eq_ok.1 h
  have hfields := (Except.ok.inj h).symm
  rw [members, map_plain_texts] at hfields
  exact ⟨word, hword, hfields⟩

/-- The fields of a comparison with texts, with the texts among them. -/
theorem propertyFilterFields_ok {a : Arguments} {fields : List (String × Value)}
    (hvalues : a.valueD "values" .null = .list (L.map .text))
    (h : Op.propertyFilterFields a = .ok fields) : ∃ comparison element,
      comparisonField (a.valueD "compare" .null) = .ok comparison ∧
      elementField (a.valueD "element" .null) = .ok element ∧
      fields = [("class", element), ("key", textField (a.valueD "key" .null)),
        ("compare", comparison), ("values", commas L), ("valueClass", .text ValueClass.string.name),
        ("nullWildcard", .text (flag (a.valueD "null_wildcard" (.bool false)).truthy))] := by
  unfold Op.propertyFilterFields at h
  rw [hvalues, members] at h
  cases L with
  | nil => cases h
  | cons s L =>
    -- the class is that of texts, so it does not depend on the list
    obtain ⟨c, hclass, h⟩ := Steps.bind_eq_ok.1 h
    obtain rfl : .string = c := Except.ok.inj hclass
    obtain ⟨u, -, h⟩ := Steps.bind_eq_ok.1 h
    obtain ⟨comparison, hcomparison, h⟩ := Steps.bind_eq_ok.1 h
    obtain ⟨element, helement, h⟩ := Steps.bind_eq_ok.1 h
    have hfields := (Except.ok.inj h).symm
    rw [map_comparand_texts] at hfields
    exact ⟨comparison, element, hcomparison, helement, hfields⟩

/-- The fields that do not depend on the list: those before its own and those after it. -/
def others : ListCall →
    Except FieldError (List (String × Value) × List (String × Value))
  | vertices direction | edges direction => do
    return ([("direction", ← directionField direction)], [])
  | values element key comparison wildcard => do
    let comparison ← comparisonField comparison
    let element ← elementField element
    return ([("class", element), ("key", textField key), ("compare", comparison)],
      [("valueClass", .text ValueClass.string.name), ("nullWildcard", .text (flag wildcard.truthy))])

/-- **The list is in a field of its own**, under its parameter's name. -/
theorem make_ok (h : c.make L = .ok d) : ∃ before after, c.others = .ok (before, after) ∧
    ((before ++ (c.parameter, commas L) :: after).map Prod.fst).Nodup ∧
    d = .ofFields c.op (before ++ (c.parameter, commas L) :: after) := by
  rw [make_eq] at h
  obtain ⟨fields, hfields, -, rfl⟩ := Descriptor.ofArguments_ok_iff.1 h
  have hnodup := Op.nodup_fields hfields
  cases c with
  | vertices direction | edges direction =>
    obtain ⟨word, hword, rfl⟩ := stepFields_ok (L := L) rfl hfields
    have hword : directionField direction = .ok word := hword
    exact ⟨[("direction", word)], [], by rw [others, hword]; rfl, hnodup, rfl⟩
  | values element key comparison wildcard =>
    obtain ⟨sign, word, hsign, hword, rfl⟩ := propertyFilterFields_ok (L := L) rfl hfields
    have hsign : comparisonField comparison = .ok sign := hsign
    have hword : elementField element = .ok word := hword
    exact ⟨[("class", word), ("key", textField key), ("compare", sign)],
      [("valueClass", .text ValueClass.string.name),
        ("nullWildcard", .text (flag wildcard.truthy))],
      by rw [others, hsign, hword]; rfl, hnodup, rfl⟩

/-- The key of the list in the configuration. -/
def key (c : ListCall) : String := c.op.configKey c.parameter

theorem config_key (h : c.make L = .ok d) :
    d.config.get? c.key = some (.text (",".intercalate L)) := by
  obtain ⟨before, after, -, hnodup, rfl⟩ := make_ok h
  exact Descriptor.get?_ofFields hnodup (List.mem_append_right _ List.mem_cons_self) rfl

/-- Two lists give the same configuration if they have the same pieces, and no others do. -/
theorem config_eq_iff (h₁ : c.make L₁ = .ok d₁) (h₂ : c.make L₂ = .ok d₂) :
    d₁.config = d₂.config ↔ Text.pieces L₁ = Text.pieces L₂ := by
  rw [← Text.intercalate_eq_iff]
  constructor
  · intro h
    have htext := (config_key h₁).symm.trans ((congrArg (·.get? c.key) h).trans (config_key h₂))
    simpa using htext
  · intro h
    obtain ⟨before, after, hothers, -, rfl⟩ := make_ok h₁
    obtain ⟨before', after', hothers', -, rfl⟩ := make_ok h₂
    -- the other fields come from the same call
    obtain ⟨rfl, rfl⟩ := Prod.mk.inj (Except.ok.inj (hothers.symm.trans hothers'))
    rw [commas, commas, h]

/-- **What a stage gets back of a list**: its pieces. So lists of texts without commas are told from
each other, but for the empty list and that of one empty text. -/
theorem pieces_kept (h₁ : c.make L₁ = .ok d₁) (h₂ : c.make L₂ = .ok d₂) :
    (∃ text, d₁.config.get? c.key = some (.text text) ∧ Text.between text = Text.pieces L₁) ∧
    (d₁.config = d₂.config ↔ Text.pieces L₁ = Text.pieces L₂) ∧
    ((∀ s ∈ L₁, ',' ∉ s.toList) → (∀ s ∈ L₂, ',' ∉ s.toList) → (L₁ = [] ↔ L₂ = []) →
      d₁.config = d₂.config → L₁ = L₂) := by
  have hiff := config_eq_iff h₁ h₂
  exact ⟨⟨_, config_key h₁, Text.between_intercalate L₁⟩, hiff,
    fun hplain₁ hplain₂ hempty h => Text.eq_of_pieces_eq hplain₁ hplain₂ hempty (hiff.1 h)⟩

/-- Two labels make another configuration than one of them. -/
theorem pieces_kept_sample : ∃ d₁ d₂,
    (vertices (.text "out")).make ["knows", "likes"] = .ok d₁ ∧
    (vertices (.text "out")).make ["knows"] = .ok d₂ ∧ d₁.config ≠ d₂.config := by
  have h₁ : (vertices (.text "out")).make ["knows", "likes"] = .ok _ := rfl
  have h₂ : (vertices (.text "out")).make ["knows"] = .ok _ := rfl
  refine ⟨_, _, h₁, h₂, fun h => ?_⟩
  have hlists := (pieces_kept h₁ h₂).2.2 (by decide) (by decide) (by decide) h
  exact absurd hlists (by decide)

/-- A comma in a label is a comma between labels, and an empty label is none. -/
theorem labels_lost : ∃ d d',
    (vertices (.text "OUT")).make ["a,b"] = .ok d ∧ (vertices (.text "OUT")).make ["a", "b"] = .ok d ∧
    (vertices (.text "OUT")).make [] = .ok d' ∧ (vertices (.text "OUT")).make [""] = .ok d' ∧
    ["a,b"] ≠ ["a", "b"] ∧ ([] : List String) ≠ [""] := by
  refine ⟨_, _, rfl, rfl, rfl, rfl, ?_⟩
  decide

end ListCall

end StageChain
