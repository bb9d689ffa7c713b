import StageChain.Proofs.Interleaving

/-!
# How schemas flow through plans

Each stage reads what the stage before it writes, and within a stage each operation reads what the
one before it writes. A plan states its schemas at two places that are filled in differently: a
stage that a grouping operation closes takes them from that operation, the stage at the end from
what the chain writes by then.

* `Plan.Writes`: **what a plan says it writes** is what its operations write.
* `writes_plans`: so it is for every plan of a fusion.
* `Flows`: **how schemas flow** from the initial one to what the chain writes.
* `flows_reached`: they flow so in whatever a fusion has come to.
-/

namespace StageChain

/-- **What a plan says it writes** is what its last operation writes, and what its map side writes
is what the grouping operation says, or the same as the stage if there is none. -/
structure Plan.Writes (p : Plan) : Prop where
  output : p.output = (p.operations.getLast p.operations_ne_nil).output
  grouped : ∀ g ∈ p.grouping, p.mapOutput = g.mapOutput
  ungrouped : p.grouping = none → p.mapOutput = p.output

namespace Fusion

variable {f f' : Fusion} {d : Descriptor} {ds : List Descriptor} {initial : Schema} {p : Plan}

theorem writes_closedBy (h : d.kind = .grouping) : (f.closedBy d h).Writes where
  output := by
    change d.output = ((f.pending ++ [d]).getLast _).output
    rw [List.getLast_append_singleton]
  grouped := by
    rintro g hg
    obtain rfl : d = g := by simpa [closedBy] using hg
    rfl
  ungrouped := by simp [closedBy]

/-- Accepting an operation closes at most one stage, which says what the operation writes. -/
theorem writes_accept (h : ∀ p ∈ f.closed, p.Writes) : ∀ p ∈ (f.accept d).closed, p.Writes := by
  by_cases hk : d.kind = .grouping
  · rw [(accept_grouping hk).1]
    intro p hp
    rcases List.mem_append.1 hp with hp | hp
    · exact h p hp
    · rw [List.mem_singleton.1 hp]
      exact writes_closedBy hk
  · rw [(accept_mapOnly hk).1]
    exact h

theorem writes_appendAll (h : ∀ p ∈ f.closed, p.Writes) (ha : f.appendAll ds = .ok f') :
    ∀ p ∈ f'.closed, p.Writes := by
  induction ds generalizing f with
  | nil =>
    obtain rfl : f = f' := by simpa [appendAll] using ha
    exact h
  | cons d ds ih => exact ih (writes_accept h) (appendAll_cons_ok_iff.1 ha).2

/-- **The chain writes** what the last of its operations writes. -/
theorem running_appendAll (h : f.appendAll ds = .ok f') :
    f'.running = (ds.getLast?.map (·.output)).getD f.running := by
  induction ds generalizing f with
  | nil =>
    obtain rfl : f = f' := by simpa [appendAll] using h
    rfl
  | cons d ds ih =>
    rw [ih (appendAll_cons_ok_iff.1 h).2, running_accept, List.getLast?_cons]
    cases ds.getLast? <;> rfl

/-- What waits in the open stage is the end of what was appended. -/
theorem Holds.getLast?_pending (h : f.Holds ds) (hne : f.pending ≠ []) :
    f.pending.getLast? = ds.getLast? := by
  rw [← h.operations, List.getLast?_append_of_ne_nil _ hne]

theorem writes_trailing (held : f.Holds ds) (h : (start initial).appendAll ds = .ok f)
    (hp : p ∈ f.trailing?) : p.Writes := by
  by_cases hne : f.pending = []
  · simp [trailing?_eq_none hne] at hp
  · have hplan : _ = some p := (dif_neg hne).symm.trans hp
    obtain rfl := Option.some.inj hplan
    refine ⟨?_, by simp, fun _ => rfl⟩
    -- the open stage ends with the operation that was appended last
    have hlast := (held.getLast?_pending hne).symm
    rw [List.getLast?_eq_some_getLast hne] at hlast
    have hrunning := running_appendAll h
    rw [hlast] at hrunning
    simpa [Plan.operations] using hrunning

/-- **Every plan of a fusion** says what its operations write. -/
theorem writes_plans (h : (start initial).appendAll ds = .ok f) : ∀ p ∈ f.plans, p.Writes := by
  intro p hp
  rcases List.mem_append.1 hp with hp | hp
  · exact writes_appendAll (by simp [start]) h p hp
  · exact writes_trailing (holds_start.appendAll h) h (Option.mem_toList.1 hp)

/-- **How schemas flow** through a fusion, to which operations were appended since it started with
an initial schema, and through the plans that a flush gives. -/
structure Flows (initial : Schema) (ds : List Descriptor) (f : Fusion) : Prop where
  operations : f.flush.1.flatMap (·.operations) = ds
  first : ∀ p ∈ f.flush.1.head?, p.input = initial
  within : ∀ p ∈ f.flush.1, p.operations.IsChain fun a b => b.input = a.output
  last : ∀ p ∈ f.flush.1, p.output = (p.operations.getLast p.operations_ne_nil).output
  between : f.flush.1.IsChain fun p q => q.input = p.output
  grouped : ∀ p ∈ f.flush.1, ∀ g ∈ p.grouping, p.mapOutput = g.mapOutput
  ungrouped : ∀ p ∈ f.flush.1, p.grouping = none → p.mapOutput = p.output
  /-- Only the stage at the end may have no grouping operation. -/
  trailing : ∀ p ∈ f.flush.1.dropLast, p.grouping ≠ none
  running : f.running = (ds.getLast?.map (·.output)).getD initial
  emitted : ∀ p ∈ f.flush.1.getLast?, p.output = f.running

/-- Operations that fit one after the other fit in each plan, and the plans fit. -/
theorem isChain_plans {plans : List Plan}
    (h : (plans.flatMap (·.operations)).IsChain fun a b => b.input = a.output)
    (hwrites : ∀ p ∈ plans, p.Writes) :
    (∀ p ∈ plans, p.operations.IsChain fun a b => b.input = a.output) ∧
      plans.IsChain fun p q => q.input = p.output := by
  have hne : [] ∉ plans.map (·.operations) := by
    rw [List.mem_map]
    rintro ⟨p, -, hp⟩
    exact p.operations_ne_nil hp
  rw [List.flatMap_def, List.isChain_flatten hne, List.isChain_map] at h
  obtain ⟨hwithin, hbetween⟩ := h
  refine ⟨fun p hp => hwithin _ (List.mem_map_of_mem hp), ?_⟩
  refine hbetween.imp_of_mem_imp fun p q hp _ hfit => ?_
  calc q.input = (q.operations.head q.operations_ne_nil).input := rfl
    _ = (p.operations.getLast p.operations_ne_nil).output :=
      hfit _ (List.getLast?_eq_some_getLast p.operations_ne_nil)
        _ (List.head?_eq_some_head q.operations_ne_nil)
    _ = p.output := (hwrites p hp).output.symm

theorem input_of_head? {plans : List Plan} (hp : p ∈ plans.head?) :
    ∃ d ∈ (plans.flatMap (·.operations)).head?, p.input = d.input := by
  obtain ⟨rest, rfl⟩ : ∃ rest, plans = p :: rest := List.head?_eq_some_iff.1 hp
  refine ⟨p.operations.head p.operations_ne_nil, ?_, rfl⟩
  rw [List.flatMap_cons, List.head?_append_of_ne_nil _ p.operations_ne_nil]
  exact List.head?_eq_some_head p.operations_ne_nil

theorem output_of_getLast? {plans : List Plan} (hp : p ∈ plans.getLast?) (h : p.Writes) :
    ∃ d ∈ (plans.flatMap (·.operations)).getLast?, p.output = d.output := by
  obtain ⟨before, rfl⟩ : ∃ before, plans = before ++ [p] := List.getLast?_eq_some_iff.1 hp
  refine ⟨p.operations.getLast p.operations_ne_nil, ?_, h.output⟩
  rw [List.flatMap_append, List.flatMap_singleton,
    List.getLast?_append_of_ne_nil _ p.operations_ne_nil]
  exact List.getLast?_eq_some_getLast p.operations_ne_nil

/-- **Schemas flow** through a fusion to which operations were appended. -/
theorem flows_of_appendAll (h : (start initial).appendAll ds = .ok f) : Flows initial ds f := by
  have held := holds_start.appendAll h
  have hoperations : f.plans.flatMap (·.operations) = ds := held.operations_plans
  have hwrites := writes_plans h
  have hrunning : f.running = (ds.getLast?.map (·.output)).getD initial := running_appendAll h
  obtain ⟨hhead, hchain⟩ := appendAll_ok_iff.1 ⟨f, h⟩
  obtain ⟨hwithin, hbetween⟩ := isChain_plans (hoperations.symm ▸ hchain) hwrites
  refine ⟨hoperations, ?_, hwithin, fun p hp => (hwrites p hp).output, hbetween,
    fun p hp => (hwrites p hp).grouped, fun p hp => (hwrites p hp).ungrouped,
    fun p hp => held.grouping_dropLast hp, hrunning, ?_⟩
  · intro p hp
    obtain ⟨d, hd, hinput⟩ := input_of_head? hp
    exact hinput.trans (hhead d (hoperations ▸ hd))
  · intro p hp
    obtain ⟨d, hd, houtput⟩ := output_of_getLast? hp (hwrites p (List.mem_of_getLast? hp))
    have hd : ds.getLast? = some d := hoperations ▸ hd
    rw [houtput, hrunning, hd]
    rfl

open History in
/-- **Schemas flow in whatever a fusion has come to**: whatever it was called for, they flow from
its initial schema through the plans of the operations accepted since the last flush to what the
chain writes. -/
theorem flows_reached (initial : Schema) (calls : List Call) :
    Flows initial (batches (kept Row.accepted (answered step (start initial) calls))).2
      (reached step (start initial) calls) :=
  flows_of_appendAll (appendAll_waiting initial calls)

end Fusion

end StageChain
