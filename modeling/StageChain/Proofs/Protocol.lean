import StageChain.Proofs.Ending
import StageChain.Proofs.Lifetime

/-!
# The protocol of a run

A run of a draft that ends in a report says by its status how far it came. What it handed over, what
it released and what is deleted agree with the status, whatever the substrate replies and wherever
faults come up: the leases are given back if no pipeline could be prepared, and besides leases only
the sink is deleted, before any stage is handed over.

* `released_of_linked`: which locations the acts of a run release.
* `succeeds_handedOver`, `completed_run`: the first failing submission counts what completed.
* `Planless`, `Broken`, `Complete`: what goes with the three statuses.
* `Footprint`: what a run did to the storage.
* `run_protocol`: **every report keeps to the protocol.**
-/

namespace StageChain

/-- The stages that were handed over between two sessions. -/
def Session.handedOver {σ : Type} (s s' : Session σ) : List (Submission σ) :=
  s'.submissions.drop s.submissions.length

theorem Session.Quiet.handedOver_eq_nil {σ : Type} {s s' : Session σ} (h : s.Quiet s') :
    s.handedOver s' = [] := by
  rw [Session.handedOver, h.submissions, List.drop_length]

theorem Session.Quiet.submissions_eq_append {σ : Type} {s s' : Session σ} (h : s.Quiet s') :
    s'.submissions = s.submissions ++ s.handedOver s' := by
  rw [h.handedOver_eq_nil, h.submissions, List.append_nil]

namespace Chain

/-! ## Releases -/

/-- The locations that are released in a list of acts. -/
def released (acts : List Act) : List String :=
  acts.filterMap fun
    | .release location => some location
    | _ => none

theorem released_append (as bs : List Act) : released (as ++ bs) = released as ++ released bs :=
  List.filterMap_append

theorem released_actsOfCompleted (stage : Stage) : released (actsOfCompleted stage)
    = ([stage].filter (·.inputIsIntermediate)).map (·.inputLocation) := by
  unfold actsOfCompleted
  cases h : stage.inputIsIntermediate <;> simp [released, h]

/-- The inputs of the stages that complete are released, if they are intermediate. -/
theorem released_acts_eq (k : Nat) (stages : List Stage) : released (acts k stages)
    = ((stages.take k).filter (·.inputIsIntermediate)).map (·.inputLocation) := by
  induction stages generalizing k with
  | nil => simp [acts, released]
  | cons stage rest ih =>
    cases k with
    | zero => rw [acts_cons_zero]; rfl
    | succ k =>
      rw [acts_cons_succ, released_append, released_actsOfCompleted, ih, List.take_succ_cons,
        ← List.map_append, ← List.filter_append, List.singleton_append]

/-- In a composed pipeline the intermediate locations are released in order. -/
theorem released_of_linked {p : Pipeline} (hp : p.Linked) (k : Nat) :
    released (acts k p.stages) = p.intermediates.take (k - 1) := by
  rw [released_acts_eq, ← inputs_take hp]
  cases hstages : p.stages with
  | nil => simp
  | cons stage rest =>
    cases k with
    | zero => rfl
    | succ k =>
      have hfirst : stage.inputIsIntermediate = false := by
        simpa using hp.isIntermediate 0 stage (by rw [hstages]; rfl)
      have hothers : ∀ x ∈ rest.take k, x.inputIsIntermediate = true := by
        intro x hx
        obtain ⟨i, hi⟩ := List.mem_iff_getElem?.1 (List.mem_of_mem_take hx)
        simpa using hp.isIntermediate (i + 1) x (by rw [hstages]; exact hi)
      rw [List.take_succ_cons, List.filter_cons_of_neg (by simp [hfirst]),
        List.filter_eq_self.2 hothers]
      rfl

theorem submitted_releases (locations : List String) : submitted (locations.map .release) = [] := by
  simp [submitted]

theorem released_releases (locations : List String) :
    released (locations.map .release) = locations := by
  simp [released, List.filterMap_map]

theorem foldl_releases (substrate : Substrate MemoryStorage) (locations : List String)
    (m : MemoryStorage) : (locations.map Act.release).foldl (Act.onStorage substrate) m
      = locations.foldl cleared m := by
  rw [List.foldl_map]
  rfl

/-- Only what is released is deleted, if the substrate deletes nothing. -/
theorem deleted_foldl_onStorage {substrate : Substrate MemoryStorage}
    (hkeeps : ∀ stage m, (substrate.submit stage m).2.deleted = m.deleted) (acts : List Act)
    (m : MemoryStorage) :
    ∃ ds, (acts.foldl (Act.onStorage substrate) m).deleted = m.deleted ++ ds ∧
      ds.Sublist (released acts) := by
  induction acts generalizing m with
  | nil => exact ⟨[], by simp, .refl _⟩
  | cons a as ih =>
    obtain ⟨ds, hds, hsub⟩ := ih (a.onStorage substrate m)
    rw [List.foldl_cons, hds]
    cases a with
    | announce stage => exact ⟨ds, rfl, hsub⟩
    | submit stage => exact ⟨ds, by rw [Act.onStorage, hkeeps], hsub⟩
    | release location =>
      obtain ⟨first, hfirst, hone⟩ := MemoryStorage.deleted_cleared_sublist m location
      refine ⟨first ++ ds, ?_, ?_⟩
      · rw [Act.onStorage, hfirst, List.append_assoc]
      · exact (hone.trans List.filter_sublist).append hsub

/-! ## What was handed over -/

variable {σ : Type} [Storage σ] {env : Environment σ} {substrate : Substrate σ} {p : Pipeline}
  {s : Session σ} {r : ExecutionResult}

theorem submissions_eq_append : (run env substrate p s).2.submissions
    = s.submissions ++ s.handedOver (run env substrate p s).2 := by
  rw [Session.handedOver, run, submissions_runFrom, List.drop_left]

/-- A stage that was handed over, at its place and with the storage of its time. -/
theorem getElem?_handedOver {i : Nat} {x : Submission σ}
    (h : (s.handedOver (run env substrate p s).2)[i]? = some x) :
    p.stages[i]? = some x.stage ∧ x.storage = storageAt substrate p.stages s.storage i ∧
      i ≤ failsAt substrate p.stages s.storage := by
  rw [Session.handedOver, run, submissions_runFrom, List.drop_left] at h
  obtain ⟨stage, m, hstage, hm, rfl⟩ := List.getElem?_zipWith_eq_some.1 h
  rw [List.getElem?_take, Option.ite_none_right_eq_some] at hstage
  obtain ⟨hik, hstage⟩ := hstage
  rw [getElem?_storages substrate (List.getElem?_eq_some_iff.1 hstage).1] at hm
  exact ⟨hstage, (Option.some.inj hm).symm, Nat.le_of_lt_succ hik⟩

/-- **The first submission that fails** is that of the first failing stage. -/
theorem succeeds_handedOver {i : Nat} {x : Submission σ}
    (h : (s.handedOver (run env substrate p s).2)[i]? = some x) :
    succeeds (substrate.submit x.stage x.storage).1 = true ↔
      i < failsAt substrate p.stages s.storage := by
  obtain ⟨hstage, hstorage, hle⟩ := getElem?_handedOver h
  rw [hstorage]
  constructor
  · intro hok
    rcases Nat.lt_or_eq_of_le hle with hlt | rfl
    · exact hlt
    · rw [failing_reply (getElem?_replies substrate hstage s.storage)] at hok
      exact absurd hok (by simp)
  · exact succeeds_of_lt_failsAt hstage

/-- As many stages complete as come before the first that fails. -/
theorem completed_run
    (hp : ∀ (i : Nat) (stage : Stage), p.stages[i]? = some stage → stage.index = i)
    (h : (run env substrate p s).1 = .ok r) :
    r.completed.length = failsAt substrate p.stages s.storage := by
  have hstatus := statuses_run hp h
  set k := failsAt substrate p.stages s.storage
  have hle : k ≤ p.size := failsAt_le substrate p.stages s.storage
  have hcount : r.completed.length
      = (r.outcomes.map (·.status)).countP (· = .completed) := by
    rw [ExecutionResult.completed, ← List.countP_eq_length_filter, List.countP_map]
    rfl
  have hcompleted (i : Nat) : statusAt k i = .completed ↔ i < k := by
    unfold statusAt
    split
    · simp [*]
    · split <;> simp [*]
  -- the places before the first failing stage, and those from it on
  obtain ⟨rest, hrest⟩ : ∃ rest, p.size = k + rest := ⟨p.size - k, by omega⟩
  have hbefore : (List.range k).countP (fun i => statusAt k i = .completed) = k := by
    rw [List.countP_eq_length.2, List.length_range]
    intro i hi
    simpa [hcompleted] using hi
  have hafter : ((List.range rest).map (k + ·)).countP (fun i => statusAt k i = .completed) = 0 := by
    rw [List.countP_eq_zero]
    intro i hi
    obtain ⟨j, -, rfl⟩ := List.mem_map.1 hi
    simp [hcompleted]
  rw [hcount, hstatus, List.countP_map, hrest, List.range_add, List.countP_append]
  exact (congrArg₂ (· + ·) hbefore hafter).trans (Nat.add_zero k)

end Chain

namespace Draft

/-! ## The protocol -/

variable (substrate : Substrate MemoryStorage) (d : Draft) (s s' : Session MemoryStorage)
  (leased : List String)

/-- What goes with status 2: nothing was run, and all that is done to the storage is that the leased
locations are cleared in order. -/
structure Planless (report : Report) : Prop where
  failure : report.failureName? = some "planning"
  pipeline : report.pipeline? = none
  result : report.result? = none
  handed : s.handedOver s' = []
  storage : s'.storage = leased.foldl Chain.cleared s.storage
  gone : ∀ t ∈ leased, s.storage.clears t = true → s'.storage.holds t = false

/-- What goes with status 1: the stages up to one were handed over, those before it completed, and it
failed. -/
structure Broken (handed : List (Submission MemoryStorage)) (p : Pipeline) (r : ExecutionResult)
    (k : Nat) : Prop where
  within : k < p.size
  stages : handed.map (·.stage) = p.stages.take (k + 1)
  first : ∀ (i : Nat) (x : Submission MemoryStorage), handed[i]? = some x →
    (Chain.succeeds (substrate.submit x.stage x.storage).1 = true ↔ i < k)
  failed : r.failedStage? = some (k : Int)
  completed : r.completed.length = k

/-- What goes with status 0 if there are operations: every stage was handed over and completed, once
and in order. -/
structure Complete (handed : List (Submission MemoryStorage)) (p : Pipeline) (r : ExecutionResult) :
    Prop where
  stages : handed.map (·.stage) = p.stages
  succeeded : ∀ x ∈ handed, Chain.succeeds (substrate.submit x.stage x.storage).1 = true
  outcomes : r.outcomes.map (fun o => (o.index, o.status))
    = (List.range p.size).map fun i : Nat => ((i : Int), Status.completed)

/-- **What a run did to a storage**: the sink of its pipeline was cleared before any stage was handed
over, if the settings say so, and the rest is what the acts did, of which the releases are about
leased locations. -/
structure Footprint (report : Report) (acts : List Chain.Act) : Prop where
  storage : s'.storage = acts.foldl (Chain.Act.onStorage substrate)
    (s.storage.clearedIfAny (report.pipeline?.bind d.overwritten?))
  handed : Chain.submitted acts = (s.handedOver s').map (·.stage)
  released : (Chain.released acts).Sublist leased
  first : ∀ x ∈ (s.handedOver s').head?,
    x.storage = s.storage.clearedIfAny (report.pipeline?.bind d.overwritten?)

/-- Which locations a run deleted: at most the sink before any stage was handed over, and then leased
ones, each at most as often as it is leased. -/
structure Deletions (report : Report) (before after : List String) : Prop where
  deleted : s'.storage.deleted = s.storage.deleted ++ before ++ after
  sink : before.Sublist (report.pipeline?.bind d.overwritten?).toList
  leases : after.Sublist leased
  first : ∀ x ∈ (s.handedOver s').head?, x.storage.deleted = s.storage.deleted ++ before

/-- **The protocol of a run** that ended in a report and leased certain locations. -/
structure Protocol (report : Report) : Prop where
  planning : report.status = 2 → Planless s s' leased report
  execution : report.status = 1 → report.failureName? = some "execution" ∧
    ∃ p r k, report = .executed p r ∧ Broken substrate (s.handedOver s') p r k
  success : report.status = 0 → report.failureName? = none ∧
    ((d.descriptors = [] ∧ report = .idle .empty ∧ s.handedOver s' = []) ∨
      ∃ p r, report = .executed p r ∧ Complete substrate (s.handedOver s') p r)
  pipeline : ∀ p ∈ report.pipeline?, p.Linked ∧ p.intermediates = leased
  footprint : ∃ acts, Footprint substrate d s s' leased report acts
  deletions : (∀ stage m, (substrate.submit stage m).2.deleted = m.deleted) →
    ∃ before after, Deletions d s s' leased report before after

variable {substrate d s s' leased} {env : Environment MemoryStorage} {names : List String}
  {report : Report} {p : Pipeline} {s₁ : Session MemoryStorage} {r : ExecutionResult}

/-- What a run did to a storage settles which locations are deleted. -/
theorem Footprint.deletions {acts : List Chain.Act}
    (h : Footprint substrate d s s' leased report acts)
    (hkeeps : ∀ stage m, (substrate.submit stage m).2.deleted = m.deleted) :
    ∃ before after, Deletions d s s' leased report before after := by
  obtain ⟨before, hbefore, hsink⟩ : ∃ before,
      (s.storage.clearedIfAny (report.pipeline?.bind d.overwritten?)).deleted
        = s.storage.deleted ++ before ∧
      before.Sublist (report.pipeline?.bind d.overwritten?).toList := by
    cases report.pipeline?.bind d.overwritten? with
    | none => exact ⟨[], (List.append_nil _).symm, .refl _⟩
    | some sink =>
      obtain ⟨ds, hds, hsub⟩ := MemoryStorage.deleted_cleared_sublist s.storage sink
      exact ⟨ds, hds, hsub.trans List.filter_sublist⟩
  obtain ⟨after, hafter, hreleased⟩ := Chain.deleted_foldl_onStorage hkeeps acts
    (s.storage.clearedIfAny (report.pipeline?.bind d.overwritten?))
  refine ⟨before, after, ?_, hsink, hreleased.trans h.released, ?_⟩
  · rw [h.storage, hafter, hbefore]
  · intro x hx
    rw [h.first x hx, hbefore]

/-! ## The ways to end -/

theorem Unprepared.protocol (left : Unprepared env d s s' names) (e : PlanningFailure) :
    Protocol substrate d s s' (names.map (joinLocation d.settings.intermediateRoot))
      (.unplanned e) := by
  set leased := names.map (joinLocation d.settings.intermediateRoot)
  have hhanded := left.quiet.handedOver_eq_nil
  have hfootprint : Footprint substrate d s s' leased (.unplanned e) (leased.map .release) := by
    refine ⟨?_, ?_, ?_, by simp [hhanded]⟩
    · rw [left.storage, Chain.foldl_releases]
      rfl
    · rw [Chain.submitted_releases, hhanded]
      rfl
    · rw [Chain.released_releases]
  refine ⟨fun _ => ⟨rfl, rfl, rfl, hhanded, left.storage, ?_⟩, ?_, ?_, ?_, ⟨_, hfootprint⟩,
    hfootprint.deletions⟩
  · intro t ht hclears
    rw [left.storage]
    exact MemoryStorage.holds_foldl_cleared ht hclears
  · simp [Report.status]
  · simp [Report.status]
  · simp [Report.pipeline?]

theorem Prepared.protocol_idle (left : Prepared env d s s' names p) (hnone : p.stages = []) :
    Protocol substrate d s s' (names.map (joinLocation d.settings.intermediateRoot)) (.idle p) := by
  have hhanded := left.quiet.handedOver_eq_nil
  obtain ⟨hdescriptors, hp⟩ := left.planned.idle hnone
  have hfootprint : Footprint substrate d s s'
      (names.map (joinLocation d.settings.intermediateRoot)) (.idle p) [] :=
    ⟨left.storage, by simp [hhanded, Chain.submitted], List.nil_sublist _, by simp [hhanded]⟩
  refine ⟨by simp [Report.status], by simp [Report.status], ?_, ?_, ⟨_, hfootprint⟩,
    hfootprint.deletions⟩
  · intro _
    exact ⟨rfl, .inl ⟨hdescriptors, by rw [hp], hhanded⟩⟩
  · rintro _ ⟨⟩
    exact ⟨left.planned.linked, left.planned.intermediates⟩

/-- A run that is no success broke off. -/
theorem broken_run (hp : p.Linked) (hr : (Chain.run env substrate p s).1 = .ok r)
    (h : r.success = false) :
    Broken substrate (s.handedOver (Chain.run env substrate p s).2) p r
      (Chain.failsAt substrate p.stages s.storage) := by
  have hlaw := Chain.runLaw hp.index hr
  set k := Chain.failsAt substrate p.stages s.storage
  have hk : k < p.size := by
    refine Nat.lt_of_le_of_ne (Chain.failsAt_le substrate p.stages s.storage) fun hk => ?_
    rw [(Chain.success_iff hr).2 hk] at h
    exact absurd h (by simp)
  refine ⟨hk, Chain.stages_submitted, fun i x hi => Chain.succeeds_handedOver hi, ?_,
    Chain.completed_run hp.index hr⟩
  have hreply := Chain.getElem?_replies substrate (List.getElem?_eq_getElem hk) s.storage
  obtain ⟨e, he, hstage, -⟩ := hlaw.error _ hreply
  rw [ExecutionResult.failedStage?, he, Option.map_some, hstage]

/-- A run that is a success is complete. -/
theorem complete_run (hp : p.Linked) (hr : (Chain.run env substrate p s).1 = .ok r)
    (h : r.success = true) :
    Complete substrate (s.handedOver (Chain.run env substrate p s).2) p r := by
  have hlaw := Chain.runLaw hp.index hr
  have hk : Chain.failsAt substrate p.stages s.storage = p.stages.length :=
    (Chain.success_iff hr).1 h
  rw [hk] at hlaw
  refine ⟨?_, ?_, ?_⟩
  · rw [Session.handedOver, Chain.stages_submitted, hk, List.take_of_length_le (Nat.le_succ _)]
  · intro x hx
    obtain ⟨i, hi⟩ := List.mem_iff_getElem?.1 hx
    obtain ⟨hstage, -, -⟩ := Chain.getElem?_handedOver hi
    rw [Chain.succeeds_handedOver hi, hk]
    exact (List.getElem?_eq_some_iff.1 hstage).1
  · apply List.ext_getElem?
    intro i
    rw [List.getElem?_map, List.getElem?_map]
    rcases Nat.lt_or_ge i p.size with hi | hi
    · obtain ⟨o, ho, hindex, -, hstatus⟩ := hlaw.outcome i _ (List.getElem?_eq_getElem hi)
      rw [ho, List.getElem?_range hi, Option.map_some, Option.map_some, hindex, hstatus,
        Chain.statusAt, if_pos (show i < p.stages.length from hi)]
    · rw [List.getElem?_eq_none (by rw [hlaw.size]; exact hi),
        List.getElem?_eq_none (by rw [List.length_range]; exact hi)]
      rfl

/-- What a draft hands over is what the run of its pipeline does. -/
theorem Prepared.handedOver_eq (left : Prepared env d s s₁ names p)
    (hsubmissions : s'.submissions = (Chain.run env substrate p s₁).2.submissions) :
    s.handedOver s' = s₁.handedOver (Chain.run env substrate p s₁).2 := by
  rw [Session.handedOver, Session.handedOver, hsubmissions, left.quiet.submissions]

theorem Prepared.protocol_executed (left : Prepared env d s s₁ names p)
    (hr : (Chain.run env substrate p s₁).1 = .ok r)
    (hstorage : s'.storage = (Chain.run env substrate p s₁).2.storage)
    (hsubmissions : s'.submissions = (Chain.run env substrate p s₁).2.submissions) :
    Protocol substrate d s s' (names.map (joinLocation d.settings.intermediateRoot))
      (.executed p r) := by
  set leased := names.map (joinLocation d.settings.intermediateRoot)
  have hlinked := left.planned.linked
  have hleased : p.intermediates = leased := left.planned.intermediates
  have hhanded := left.handedOver_eq hsubmissions
  have hfootprint : Footprint substrate d s s' leased (.executed p r)
      (Chain.acts (Chain.failsAt substrate p.stages s₁.storage) p.stages) := by
    refine ⟨?_, ?_, ?_, ?_⟩
    · rw [hstorage, (Chain.storage_run env substrate s₁ p).1, left.storage]
      rfl
    · rw [Chain.submitted_acts, hhanded, Session.handedOver, Chain.stages_submitted]
    · rw [Chain.released_of_linked hlinked, hleased]
      exact List.take_sublist _ _
    · intro x hx
      rw [hhanded, List.head?_eq_getElem?] at hx
      rw [(Chain.getElem?_handedOver hx).2.1, Chain.storageAt_zero, left.storage]
      rfl
  refine ⟨?_, ?_, ?_, ?_, ⟨_, hfootprint⟩, hfootprint.deletions⟩
  · intro h
    simp only [Report.status] at h
    split at h <;> simp at h
  · intro h
    have hfails : r.success = false := by
      simpa [Report.status] using h
    rw [hhanded]
    exact ⟨by simp [Report.failureName?, hfails], p, _, _, rfl,
      broken_run hlinked hr hfails⟩
  · intro h
    have hsuccess : r.success = true := by
      simpa [Report.status] using h
    rw [hhanded]
    exact ⟨by simp [Report.failureName?, hsuccess], .inr ⟨p, _, rfl,
      complete_run hlinked hr hsuccess⟩⟩
  · rintro _ ⟨⟩
    exact ⟨hlinked, hleased⟩

/-- **Every run that ends in a report keeps to the protocol**, with as many leases as names were drawn
but for a last one that was refused. The substrate, who is told of progress, where the names come from
and at which locations faults come up are arbitrary. -/
theorem run_protocol (h : d.run env s = (.ok report, s')) :
    ∃ substrate names, env.substrate = some substrate ∧
      Leases.Grants env d.settings.intermediateRoot s.drawn names ∧
      Leases.Spends env d.settings.intermediateRoot s.drawn names s'.drawn ∧
      s'.submissions = s.submissions ++ s.handedOver s' ∧
      Protocol substrate d s s' (names.map (joinLocation d.settings.intermediateRoot)) report := by
  cases hsubstrate : env.substrate with
  | none =>
    rw [run, hsubstrate] at h
    simp at h
  | some substrate =>
    have hending := ending hsubstrate d s
    rw [h] at hending
    simp only at hending
    generalize hreport : (Except.ok report : Except PlanningFailure Report) = r at hending
    cases hending with
    | unprepared e left =>
      obtain rfl : report = .unplanned e := by
        cases he : e.isPlanning <;> simp [he] at hreport
        exact hreport
      exact ⟨substrate, _, rfl, left.grants, left.drawn, left.quiet.submissions_eq_append,
        left.protocol e⟩
    | idle left hnone =>
      cases hreport
      exact ⟨substrate, _, rfl, left.planned.grants, .inl left.drawn,
        left.quiet.submissions_eq_append, left.protocol_idle hnone⟩
    | @executed names p s₁ _ left _ hdrawn hstorage hsubmissions =>
      obtain ⟨result, hr, rfl⟩ : ∃ result, (Chain.run env substrate p s₁).1 = .ok result ∧
          report = .executed p result := by
        cases hr : (Chain.run env substrate p s₁).1 with
        | error f => simp [hr, Except.map, Except.mapError] at hreport
        | ok result => exact ⟨result, rfl, by simpa [hr, Except.map, Except.mapError] using hreport⟩
      refine ⟨substrate, _, rfl, left.planned.grants, .inl (hdrawn.trans left.drawn), ?_,
        left.protocol_executed hr hstorage hsubmissions⟩
      rw [Session.handedOver, hsubmissions, Chain.submissions_eq_append, left.quiet.submissions,
        List.drop_left]

/-- The operations of the sample, between two locations of which the second is overwritten. -/
def sample : Draft where
  settings := {
    path := "sample.yaml"
    name := .text "sample"
    graphInput := [(.text "format", .text "graphson"), (.text "location", .text "in")]
    graphOutput := [(.text "format", .text "graphson"), (.text "location", .text "out"),
      (.text "overwrite", .bool true)]
    statisticsOutput := []
    intermediate := []
    logging := []
    properties := [] }
  descriptors := sampleChain
  fusion := sampleFusion

/-- The sample is refused at its second stage: what was below the sink is gone, and no lease is. -/
theorem run_protocol_sample :
    let env := { Environment.counting MemoryStorage with substrate := some (Chain.refusing 1) }
    let s : Session MemoryStorage := .start (.ofList ["in", "out/old"])
    ∃ report s', sample.run env s = (.ok report, s') ∧ report.status = 1 ∧
      (∃ leased, Protocol (Chain.refusing 1) sample s s' leased report) ∧
      s'.storage.locations = ["in", "tmp-0", "tmp-1"] ∧ s'.storage.deleted = ["out"] := by
  intro env s
  obtain ⟨report, hreport, hstatus⟩ :
      ∃ report, (sample.run env s).1.toOption = some report ∧ report.status = 1 := by
    rw [← Option.map_eq_some_iff]
    decide +kernel
  have hrun : sample.run env s = (.ok report, (sample.run env s).2) := by
    generalize sample.run env s = r at hreport ⊢
    obtain ⟨_ | _, _⟩ := r
    · cases hreport
    · rw [Option.some.inj hreport]
  obtain ⟨substrate, names, hsubstrate, -, -, -, hprotocol⟩ := run_protocol hrun
  obtain rfl : Chain.refusing 1 = substrate := Option.some.inj hsubstrate
  exact ⟨report, _, hrun, hstatus, ⟨_, hprotocol⟩, by decide +kernel, by decide +kernel⟩

end Draft

end StageChain
