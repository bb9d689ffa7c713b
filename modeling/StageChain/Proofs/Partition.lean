import Mathlib.Data.List.Chain
import StageChain.Plan.Fusion

/-!
# Operations cut into stages

A list of operations that is appended to an empty fusion is cut into stages behind each grouping
operation, and nothing else is done to it.

* `appendAll_ok_iff`: a list is accepted exactly if each operation reads what the one before it
  writes.
* `Fusion.Holds`: **what a fusion holds** after a list was appended; `Holds.accept` is the step and
  `Holds.appendAll` the run.
* `cut_of_appendAll`: the plans are those that the checking constructor makes, so that none of its
  checks can fail.
* `appendAll_partition`: the stages of a list.
-/

namespace StageChain

namespace Fusion

variable {f f' : Fusion} {d : Descriptor} {ds ds' : List Descriptor} {initial : Schema}

theorem appendAll_cons_ok_iff :
    f.appendAll (d :: ds) = .ok f' ↔ d.input = f.running ∧ (f.accept d).appendAll ds = .ok f' := by
  rw [appendAll]
  by_cases h : d.input = f.running
  · simp [append_of_fits h, h]
  · simp [append_of_not_fits h, h]

/-- A list is accepted by a fusion exactly if its first operation reads what the chain writes so
far, and each later one what the one before it writes. -/
theorem appendAll_ok_iff : (∃ f', f.appendAll ds = .ok f') ↔
    (∀ d ∈ ds.head?, d.input = f.running) ∧ ds.IsChain fun a b => b.input = a.output := by
  induction ds generalizing f with
  | nil => simp [appendAll]
  | cons d ds ih =>
    have hstep : (∃ f', f.appendAll (d :: ds) = .ok f') ↔
        d.input = f.running ∧ ∃ f', (f.accept d).appendAll ds = .ok f' := by
      simp only [appendAll_cons_ok_iff, exists_and_left]
    rw [hstep, ih, running_accept, List.isChain_cons]
    simp

theorem kind_eq_mapOnly (h : d.kind ≠ .grouping) : d.kind = .mapOnly := by
  cases hk : d.kind with
  | mapOnly => rfl
  | grouping => exact absurd hk h

theorem accept_grouping (h : d.kind = .grouping) :
    (f.accept d).closed = f.closed ++ [f.closedBy d h] ∧ (f.accept d).pending = [] := by
  simp [accept, h]

theorem accept_mapOnly (h : d.kind ≠ .grouping) :
    (f.accept d).closed = f.closed ∧ (f.accept d).pending = f.pending ++ [d] := by
  simp [accept, h]

@[simp] theorem operations_closedBy (h : d.kind = .grouping) :
    (f.closedBy d h).operations = f.pending ++ [d] := rfl

/-- **What a fusion holds** after operations were appended to an empty one: the operations in order,
one closed stage for each grouping operation, each combiner where its operation has one, and an open
stage exactly if the last operation is map-only. -/
structure Holds (f : Fusion) (ds : List Descriptor) : Prop where
  operations : f.closed.flatMap (·.operations) ++ f.pending = ds
  waits : f.pending ≠ [] ↔ ∃ d ∈ ds.getLast?, d.kind = .mapOnly
  groupings : f.closed.map (·.grouping) = (ds.filter (·.isGrouping)).map some
  combiners : ∀ p ∈ f.closed, p.combiner = p.grouping.filter (·.combinable)

theorem holds_start : (start initial).Holds [] := ⟨rfl, by simp [start], rfl, by simp [start]⟩

/-- One more operation is held after it was accepted. -/
theorem Holds.accept (h : f.Holds ds) (d : Descriptor) : (f.accept d).Holds (ds ++ [d]) := by
  by_cases hk : d.kind = .grouping
  · obtain ⟨hc, hp⟩ := accept_grouping (f := f) hk
    refine ⟨?_, ?_, ?_, ?_⟩
    · rw [hc, hp, ← h.operations]; simp
    · rw [hp]; simp [hk]
    · rw [hc, List.map_append, h.groupings, List.filter_append, List.map_append]
      simp [Descriptor.isGrouping, hk, closedBy]
    · intro p hm
      rw [hc, List.mem_append, List.mem_singleton] at hm
      rcases hm with hm | rfl
      · exact h.combiners p hm
      · cases hb : d.combinable <;> simp [closedBy, hb, Option.filter]
  · obtain ⟨hc, hp⟩ := accept_mapOnly (f := f) hk
    refine ⟨?_, ?_, ?_, by rw [hc]; exact h.combiners⟩
    · rw [hc, hp, ← h.operations, List.append_assoc]
    · rw [hp]; simp [kind_eq_mapOnly hk]
    · rw [hc, h.groupings, List.filter_append]; simp [Descriptor.isGrouping, hk]

/-- A list is held after it was appended. -/
theorem Holds.appendAll (h : f.Holds ds') (ha : f.appendAll ds = .ok f') : f'.Holds (ds' ++ ds) := by
  induction ds generalizing f ds' with
  | nil =>
    simp only [Fusion.appendAll, Except.ok.injEq] at ha
    rw [← ha, List.append_nil]; exact h
  | cons d ds ih =>
    have := ih (h.accept d) (appendAll_cons_ok_iff.1 ha).2
    rwa [List.append_assoc] at this

end Fusion

namespace Plan

theorem checkSequence_ok {ds : List Descriptor} (h : ∀ d ∈ ds, d.kind = .mapOnly) :
    checkSequence ds = .ok ⟨h⟩ := by
  induction ds with
  | nil => rfl
  | cons d ds ih =>
    have hs := ih fun e he => h e (List.mem_cons_of_mem d he)
    change dite (d.kind = .mapOnly) _ _ = _
    rw [dif_pos (h d List.mem_cons_self), hs]

theorem checkGrouping_ok {grouping : Option Descriptor} (h : ∀ g ∈ grouping, g.kind = .grouping) :
    checkGrouping grouping = .ok ⟨h⟩ := by
  cases grouping with
  | none => rfl
  | some g => rw [checkGrouping, dif_pos (h g rfl)]

theorem checkCombiner_ok {grouping combiner : Option Descriptor}
    (h : ∀ c ∈ combiner, ∃ g ∈ grouping, c.op = g.op ∧ g.combinable = true) :
    checkCombiner grouping combiner = .ok ⟨h⟩ := by
  cases combiner with
  | none => cases grouping <;> rfl
  | some c =>
    obtain ⟨g, hg, hc⟩ := h c rfl
    cases grouping with
    | none => simp at hg
    | some g' =>
      obtain rfl : g' = g := by simpa using hg
      rw [checkCombiner, dif_pos hc]

/-- What the plan was asked to be. -/
def request (p : Plan) : PlanRequest := ⟨p.mapOnly, p.grouping, p.combiner, p.mapOutput, p.output⟩

/-- No check of the constructor fails on what a plan holds. -/
theorem make_request (p : Plan) : make p.request = .ok p := by
  have hn : ¬(p.request.mapOnly = [] ∧ p.request.grouping = none) := by
    rintro ⟨h₁, h₂⟩
    exact p.nonempty.elim (fun h => h h₁) (fun h => h h₂)
  have hs : checkSequence p.request.mapOnly = .ok ⟨p.mapOnly_kind⟩ := checkSequence_ok p.mapOnly_kind
  have hg : checkGrouping p.request.grouping = .ok ⟨p.grouping_kind⟩ :=
    checkGrouping_ok p.grouping_kind
  have hc : checkCombiner p.request.grouping p.request.combiner = .ok ⟨p.combiner_op⟩ :=
    checkCombiner_ok p.combiner_op
  rw [make, dif_neg hn, hs]
  dsimp only
  rw [hg]
  dsimp only
  rw [hc]
  rfl

end Plan

namespace Fusion

variable {f f' : Fusion} {d : Descriptor} {ds ds' : List Descriptor} {initial : Schema}

/-- **Stages by the checking constructor**: the stages of operations that come after those that wait
in the open stage, each made from what the operations themselves say. -/
def cut (pending : List Descriptor) (running : Schema) :
    List Descriptor → Except PlanError (List Plan)
  | [] =>
    if pending = [] then .ok []
    else (Plan.make ⟨pending, none, none, running, running⟩).map ([·])
  | d :: ds =>
    if d.kind = .grouping then
      match Plan.make ⟨pending, some d, if d.combinable then some d else none, d.mapOutput,
        d.output⟩ with
      | .error e => .error e
      | .ok p => (cut [] d.output ds).map (p :: ·)
    else cut (pending ++ [d]) d.output ds

theorem make_closedBy (h : d.kind = .grouping) :
    Plan.make ⟨f.pending, some d, if d.combinable then some d else none, d.mapOutput, d.output⟩
      = .ok (f.closedBy d h) := Plan.make_request (f.closedBy d h)

theorem cut_nil : cut f.pending f.running [] = .ok f.trailing?.toList := by
  by_cases hp : f.pending = []
  · simp [cut, trailing?, hp]
  · have hm := Plan.make_request ⟨f.pending, none, none, f.running, f.running, .inl hp,
      f.pending_kind, by simp, by simp⟩
    simp only [Plan.request] at hm
    simp [cut, trailing?, hp, hm, Except.map]

/-- No check of the constructor fails on the way, and the plans are those of the fusion. -/
theorem cut_of_appendAll (h : f.appendAll ds = .ok f') :
    (cut f.pending f.running ds).map (f.closed ++ ·) = .ok f'.plans := by
  induction ds generalizing f with
  | nil =>
    simp only [appendAll, Except.ok.injEq] at h
    rw [← h, cut_nil]; rfl
  | cons d ds ih =>
    have ih := ih (appendAll_cons_ok_iff.1 h).2
    by_cases hk : d.kind = .grouping
    · obtain ⟨hc, hp⟩ := accept_grouping (f := f) hk
      rw [hc, hp, running_accept] at ih
      rw [cut, if_pos hk, make_closedBy hk]
      cases hcut : cut [] d.output ds with
      | error e => simp [hcut, Except.map] at ih
      | ok ps => simpa [hcut, Except.map] using ih
    · obtain ⟨hc, hp⟩ := accept_mapOnly (f := f) hk
      rw [hc, hp, running_accept] at ih
      rw [cut, if_neg hk]; exact ih

theorem trailing?_eq_none (h : f.pending = []) : f.trailing? = none := by simp [trailing?, h]

theorem trailing?_eq_some (h : f.pending ≠ []) :
    ∃ p, f.trailing? = some p ∧ p.operations = f.pending ∧ p.grouping = none ∧
      p.combiner = none := by
  refine ⟨_, dif_neg h, ?_, rfl, rfl⟩
  simp [Plan.operations]

namespace Holds

theorem operations_plans (h : f.Holds ds) : f.plans.flatMap (·.operations) = ds := by
  rw [plans, List.flatMap_append, ← h.operations]
  by_cases hp : f.pending = []
  · simp [trailing?_eq_none hp, hp]
  · obtain ⟨p, ht, ho, -, -⟩ := trailing?_eq_some hp
    simp [ht, ho]

theorem length_closed (h : f.Holds ds) : f.closed.length = (ds.filter (·.isGrouping)).length := by
  simpa using congrArg List.length h.groupings

theorem length_plans (h : f.Holds ds) :
    f.plans.length = (ds.filter (·.isGrouping)).length + if f.pending = [] then 0 else 1 := by
  rw [plans, List.length_append, h.length_closed]
  by_cases hp : f.pending = []
  · simp [trailing?_eq_none hp, hp]
  · obtain ⟨p, ht, -, -, -⟩ := trailing?_eq_some hp
    simp [ht, hp]

/-- The plan at a place has the grouping operation at the same place among them. -/
theorem grouping_plans (h : f.Holds ds) {j : Nat} {p : Plan} (hp : f.plans[j]? = some p) :
    p.grouping = (ds.filter (·.isGrouping))[j]? := by
  rcases Nat.lt_or_ge j f.closed.length with hj | hj
  · rw [plans, List.getElem?_append_left hj] at hp
    have hg := congrArg (·[j]?) h.groupings
    simp only [List.getElem?_map, hp, Option.map_some] at hg
    cases hd : (ds.filter (·.isGrouping))[j]? with
    | none => simp [hd] at hg
    | some g => simpa [hd] using hg
  · rw [plans, List.getElem?_append_right hj] at hp
    -- behind the closed stages there is at most one, which has no grouping operation
    have hn : (ds.filter (·.isGrouping))[j]? = none := by
      rw [List.getElem?_eq_none_iff, ← h.length_closed]; exact hj
    rw [hn]
    by_cases he : f.pending = []
    · simp [trailing?_eq_none he] at hp
    · obtain ⟨q, ht, -, hg, -⟩ := trailing?_eq_some he
      have hm := List.mem_of_getElem? hp
      rw [ht, Option.toList_some, List.mem_singleton] at hm
      rw [hm, hg]

theorem combiner_plans (h : f.Holds ds) {p : Plan} (hp : p ∈ f.plans) :
    p.combiner = p.grouping.filter (·.combinable) := by
  rw [plans, List.mem_append] at hp
  rcases hp with hp | hp
  · exact h.combiners p hp
  · by_cases he : f.pending = []
    · simp [trailing?_eq_none he] at hp
    · obtain ⟨q, ht, -, hg, hc⟩ := trailing?_eq_some he
      rw [ht, Option.toList_some, List.mem_singleton] at hp
      rw [hp, hg, hc]; rfl

/-- Only the last plan may lack a grouping operation. -/
theorem grouping_dropLast (h : f.Holds ds) {p : Plan} (hp : p ∈ f.plans.dropLast) :
    p.grouping ≠ none := by
  obtain ⟨j, hj⟩ := List.mem_iff_getElem?.1 hp
  have hlt : j < f.plans.length - 1 := by
    have := (List.getElem?_eq_some_iff.1 hj).1
    rwa [List.length_dropLast] at this
  rw [List.getElem?_dropLast, if_pos hlt] at hj
  rw [h.grouping_plans hj]
  have hlen := h.length_plans
  have : j < (ds.filter (·.isGrouping)).length := by
    split at hlen <;> omega
  simp [List.getElem?_eq_getElem this]

end Holds

/-- **How plans cut a list of operations**, where operations with an initial schema are appended to
an empty fusion. -/
structure Cuts (plans : List Plan) (initial : Schema) (ds : List Descriptor) : Prop where
  /-- The checking constructor makes these plans and refuses none. -/
  made : cut [] initial ds = .ok plans
  operations : plans.flatMap (·.operations) = ds
  /-- Only the last plan may lack a grouping operation. -/
  closes : ∀ p ∈ plans.dropLast, p.grouping ≠ none
  grouping : ∀ (j : Nat) (p : Plan), plans[j]? = some p →
    p.grouping = (ds.filter (·.isGrouping))[j]?
  length_succ : plans.length = (ds.filter (·.isGrouping)).length + 1 ↔
    ∃ d ∈ ds.getLast?, d.kind = .mapOnly
  length_eq : plans.length = (ds.filter (·.isGrouping)).length ↔
    ¬∃ d ∈ ds.getLast?, d.kind = .mapOnly
  combiner : ∀ p ∈ plans, p.combiner = p.grouping.filter (·.combinable)

theorem Holds.cuts (h : f.Holds ds) (hf : (start initial).appendAll ds = .ok f) :
    Cuts f.plans initial ds where
  made := by
    have := cut_of_appendAll hf
    cases hc : cut [] initial ds with
    | error e => simp [start, hc, Except.map] at this
    | ok ps => simpa [start, hc, Except.map] using this
  operations := h.operations_plans
  closes p := h.grouping_dropLast
  grouping j p := h.grouping_plans
  length_succ := by
    rw [← h.waits, h.length_plans]
    by_cases hp : f.pending = [] <;> simp [hp]
  length_eq := by
    rw [← h.waits, h.length_plans]
    by_cases hp : f.pending = [] <;> simp [hp]
  combiner p := h.combiner_plans

/-- **The stages of a list of operations.** An empty fusion accepts the list exactly if its first
operation reads the initial schema and every later one what the one before it writes. Then a flush
gives plans that cut the list behind each grouping operation (`Cuts`). -/
theorem appendAll_partition (initial : Schema) (ds : List Descriptor) :
    ((∃ f, (start initial).appendAll ds = .ok f) ↔
      (∀ d ∈ ds.head?, d.input = initial) ∧ ds.IsChain fun a b => b.input = a.output) ∧
    ∀ f, (start initial).appendAll ds = .ok f → Cuts f.flush.1 initial ds :=
  ⟨appendAll_ok_iff, fun _ hf => (holds_start.appendAll hf).cuts hf⟩

end Fusion

/-- An operation that makes graph elements of graph elements. -/
def Descriptor.onGraph (op : Op) (config : Table String ConfigValue)
    (key_ne : ∀ k ∈ config.keys, k ≠ "") : Descriptor :=
  { op, config, input := .graph, output := .graph, mapOutput := .graph, combinable := false, key_ne,
    grouping_of_combinable := by simp, mapOutput_eq := fun _ => rfl }

/-- Operations for two stages that group and one that does not, with keys that look as if they had
positions. -/
def sampleChain : List Descriptor :=
  [.onGraph .filter (.ofList [("a-1", .text "x")]) (by decide),
    .onGraph .link (.ofList [("a", .text "y"), ("b", .bytes [0])]) (by decide),
    .onGraph .link (.ofList [("a", .text "z")]) (by decide),
    .onGraph .identity (.ofList []) (by decide)]

/-- The sample, appended to an empty fusion. -/
def sampleFusion : Fusion := ((Fusion.start .graph).appendAll sampleChain).toOption.getD default

/-- Three plans cut the sample. -/
theorem Fusion.cuts_sample : (start .graph).appendAll sampleChain = .ok sampleFusion ∧
    Cuts sampleFusion.flush.1 .graph sampleChain ∧ sampleFusion.flush.1.length = 3 := by
  have hf : (start .graph).appendAll sampleChain = .ok sampleFusion := rfl
  exact ⟨hf, (appendAll_partition .graph sampleChain).2 sampleFusion hf, rfl⟩

end StageChain
