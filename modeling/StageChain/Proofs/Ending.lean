import StageChain.Proofs.Composition
import StageChain.Proofs.Meaning
import StageChain.Proofs.Memory
import StageChain.Run.Draft

/-!
# How runs of a draft end

A run of a draft over a storage in memory ends before any stage is handed over, or with nothing to
run, or with the run of a pipeline, which gives a result to report or a fault. What was done to the
storage by then is known in each case: leased locations were cleared, or at most the sink was, or the
acts of the run were done after that.

* `Act.onStorage`, `storage_run`: a run does to the storage what its acts do.
* `Unprepared`, `Prepared`: **what preparing a pipeline leaves behind**; `preparation`: there is
  nothing else that it may leave.
* `Ending`: the ways in which a run ends; `ending`: there is no other.
-/

namespace StageChain

namespace Chain

variable {σ : Type} [Storage σ]

/-- What an act does to the storage. -/
def Act.onStorage (substrate : Substrate σ) (m : σ) : Act → σ
  | .announce _ => m
  | .submit stage => (substrate.submit stage m).2
  | .release location => cleared m location

variable (env : Environment σ) (substrate : Substrate σ) (count : Nat) (s : Session σ)

/-- An act does to a session's storage what it does to a storage, and draws no name. -/
theorem perform_frame (a : Act) :
    (a.perform env substrate count s).storage = a.onStorage substrate s.storage ∧
      (a.perform env substrate count s).drawn = s.drawn := by
  cases a with
  | announce stage =>
    refine ⟨(announce_frame env count stage s).1, ?_⟩
    simp only [Act.perform, announce]
    cases env.progress with
    | none => rfl
    | some tell => simp only; split <;> rfl
  | submit stage =>
    refine ⟨(handOver_frame env substrate count stage s).1, ?_⟩
    have hsubmit : (submit substrate stage (s.read env).2).2.drawn = s.drawn := rfl
    simp only [Act.perform, handOver]
    generalize submit substrate stage (s.read env).2 = r at hsubmit ⊢
    rcases r with ⟨f | _ | e, s'⟩ <;> exact hsubmit
  | release location =>
    exact ⟨(release_frame s location (.start "")).1, Leases.drawn_release _ location s⟩

theorem foldl_perform_frame (acts : List Act) :
    (acts.foldl (Act.perform env substrate count) s).storage
        = acts.foldl (Act.onStorage substrate) s.storage ∧
      (acts.foldl (Act.perform env substrate count) s).drawn = s.drawn := by
  induction acts generalizing s with
  | nil => exact ⟨rfl, rfl⟩
  | cons a as ih =>
    obtain ⟨hstorage, hdrawn⟩ := perform_frame env substrate count s a
    obtain ⟨hrest, hrestDrawn⟩ := ih (a.perform env substrate count s)
    rw [List.foldl_cons, hrest, hrestDrawn, hstorage, hdrawn]
    exact ⟨rfl, rfl⟩

/-- **A run does to the storage what its acts do**, and draws no name. -/
theorem storage_run (p : Pipeline) : (run env substrate p s).2.storage
      = (acts (failsAt substrate p.stages s.storage) p.stages).foldl (Act.onStorage substrate)
          s.storage ∧
    (run env substrate p s).2.drawn = s.drawn := by
  rw [run, runFrom_snd]
  exact foldl_perform_frame env substrate p.size s _

end Chain

namespace Draft

/-! ## Preparing a pipeline -/

/-- The sink that is deleted before a pipeline is run, if the settings say so. -/
def overwritten? (d : Draft) (p : Pipeline) : Option String :=
  p.sinkLocation?.filter fun sink => d.settings.overwrite && sink ≠ ""

variable {env : Environment MemoryStorage} {d : Draft} {s s' : Session MemoryStorage}
  {names : List String} {p : Pipeline}

/-- What is left behind if no pipeline can be prepared: the locations that were leased by then are
cleared in order, and nothing is run. -/
structure Unprepared (env : Environment MemoryStorage) (d : Draft) (s s' : Session MemoryStorage)
    (names : List String) : Prop where
  grants : Leases.Grants env d.settings.intermediateRoot s.drawn names
  drawn : Leases.Spends env d.settings.intermediateRoot s.drawn names s'.drawn
  storage : s'.storage
    = (names.map (joinLocation d.settings.intermediateRoot)).foldl Chain.cleared s.storage
  quiet : s.Quiet s'

/-- What is known of the pipeline that a draft is compiled into, where so many names were drawn
before. -/
structure Planned (env : Environment MemoryStorage) (d : Draft) (drawn : Nat) (names : List String)
    (p : Pipeline) : Prop where
  linked : p.Linked
  grants : Leases.Grants env d.settings.intermediateRoot drawn names
  intermediates : p.intermediates = names.map (joinLocation d.settings.intermediateRoot)
  /-- Only a draft without operations makes a pipeline without stages. -/
  idle : p.stages = [] → d.descriptors = [] ∧ p = .empty
  /-- The pipeline writes to the sink that is selected by the plans. -/
  sink : ∀ sink, p.sinkLocation? = some sink → ∃ plans, d.plans = .ok plans ∧
    sink = (Wiring.sinkOf d.settings.endpoints (isDerivation plans)).location.getD ""

/-- What is left behind once a pipeline was prepared: its intermediate locations are leased, and its
sink is deleted if the settings say so. -/
structure Prepared (env : Environment MemoryStorage) (d : Draft) (s s' : Session MemoryStorage)
    (names : List String) (p : Pipeline) : Prop where
  planned : Planned env d s.drawn names p
  drawn : s'.drawn = s.drawn + names.length
  storage : s'.storage = s.storage.clearedIfAny (d.overwritten? p)
  quiet : s.Quiet s'

theorem descriptors_of_plans_nil (h : d.plans = .ok []) : d.descriptors = [] := by
  unfold plans Fusion.plansOf at h
  split at h
  case h_1 f hf =>
    have hops := (Fusion.holds_start.appendAll hf).operations_plans
    rw [Except.ok.inj h, List.flatMap_nil] at hops
    exact hops.symm
  case h_2 => simp at h

/-- Plans that become a pipeline. -/
theorem planned_of_wired {plans : List Plan} {s₀ : Session MemoryStorage}
    {sourceFormat sinkFormat : String} (hplans : d.plans = .ok plans) (hne : plans ≠ [])
    (hc : Wiring.compose env d.settings.intermediateRoot plans d.settings.endpoints s₀ = (.ok p, s'))
    (left : Wiring.Wired env d.settings.intermediateRoot plans d.settings.endpoints s₀ s' names
      sourceFormat sinkFormat p) : Planned env d s₀.drawn names p where
  linked := Wiring.linked_of_compose hc
  grants := left.grants
  intermediates := left.intermediates
  idle h := by
    have hlen := left.length_stages
    rw [h, List.length_nil] at hlen
    exact absurd (List.length_eq_zero_iff.1 hlen.symm) hne
  sink sink h := by
    rw [sinkLocation?_of_wire hne left.length_intermediates left.stages] at h
    exact ⟨plans, hplans, (Option.some.inj h).symm⟩

/-- What compiling a draft leaves behind: the storage as it was, unless there is no pipeline. -/
theorem compilation (env : Environment MemoryStorage) (d : Draft) (s : Session MemoryStorage) :
    (∃ e names s', d.compile env s = (.error e, s') ∧ Unprepared env d s s' names) ∨
    ∃ p names s', d.compile env s = (.ok p, s') ∧ Planned env d s.drawn names p ∧
      s'.drawn = s.drawn + names.length ∧ s'.storage = s.storage ∧ s.Quiet s' := by
  unfold compile planned
  cases hplans : d.plans with
  | error e => exact .inl ⟨_, [], s, rfl, .nil, .inl rfl, rfl, .refl s⟩
  | ok plans =>
    set s₀ := s.noteAll (closedRecords 0 plans)
    have hquiet : s.Quiet s₀ := ⟨rfl, rfl, rfl⟩
    have hc := Wiring.composition env d.settings.intermediateRoot plans d.settings.endpoints s₀
    simp only
    generalize hr : Wiring.compose env d.settings.intermediateRoot plans d.settings.endpoints s₀ = r
      at hc ⊢
    cases hc with
    | idle hnil =>
      subst hnil
      refine .inr ⟨.empty, [], _, rfl, ⟨Wiring.linked_empty, .nil, rfl, ?_, ?_⟩, rfl, rfl,
        hquiet.note _⟩
      · exact fun _ => ⟨descriptors_of_plans_nil hplans, rfl⟩
      · simp [Pipeline.sinkLocation?, Pipeline.empty]
    | refused _ _ => exact .inl ⟨_, [], _, rfl, .nil, .inl rfl, rfl, hquiet⟩
    | rolledBack _ left =>
      exact .inl ⟨_, _, _, rfl, left.grants, left.drawn, left.storage, hquiet.trans left.quiet⟩
    | wired hne left =>
      have hplanned := planned_of_wired hplans hne hr left
      exact .inr ⟨_, _, _, rfl, hplanned, left.drawn, left.storage, (hquiet.trans left.quiet).note _⟩

/-- Preparing the sink of a pipeline deletes it, or gives the leases back if it cannot be deleted. -/
theorem prepareSink_cases (d : Draft) (p : Pipeline) (s : Session MemoryStorage) :
    (∃ s', d.prepareSink p s = (.ok (), s') ∧
      s'.storage = s.storage.clearedIfAny (d.overwritten? p) ∧ s'.drawn = s.drawn ∧ s.Quiet s') ∨
    ∃ e s', d.prepareSink p s = (.error e, s') ∧
      s'.storage = p.intermediates.foldl Chain.cleared s.storage ∧ s'.drawn = s.drawn ∧
      s.Quiet s' := by
  unfold prepareSink overwritten?
  cases p.sinkLocation? with
  | none => exact .inl ⟨s, rfl, rfl, rfl, .refl s⟩
  | some sink =>
    simp only [Option.filter_some]
    by_cases hskip : (!d.settings.overwrite || sink = "") = true
    · have hkeep : (d.settings.overwrite && sink ≠ "") = false := by
        cases hover : d.settings.overwrite <;> simp_all
      rw [if_pos hskip, hkeep]
      exact .inl ⟨s, rfl, rfl, rfl, .refl s⟩
    · have hdelete : (d.settings.overwrite && sink ≠ "") = true := by
        cases hover : d.settings.overwrite <;> simp_all
      rw [if_neg hskip, hdelete]
      rcases s.clear_cases sink with ⟨b, hc⟩ | ⟨f, hc⟩
      · rw [hc]
        cases b <;> exact .inl ⟨_, rfl, rfl, rfl, rfl, rfl, rfl⟩
      · rw [hc]
        obtain ⟨hstorage, hdrawn, hquiet⟩ := Leases.releaseEach_frame p.intermediates (.start "") s
        exact .inr ⟨_, _, rfl, hstorage, hdrawn, hquiet⟩

/-- **What preparing a pipeline leaves behind.** -/
theorem preparation (env : Environment MemoryStorage) (d : Draft) (s : Session MemoryStorage) :
    (∃ e names s', d.prepare env s = (.error e, s') ∧ Unprepared env d s s' names) ∨
    ∃ p names s', d.prepare env s = (.ok p, s') ∧ Prepared env d s s' names p := by
  unfold prepare
  rcases compilation env d s with ⟨e, names, s₁, hc, left⟩ |
    ⟨p, names, s₁, hc, planned, hdrawn, hstorage, hquiet⟩
  · rw [hc]
    exact .inl ⟨e, names, s₁, rfl, left⟩
  · rw [hc]
    simp only
    rcases prepareSink_cases d p s₁ with ⟨s₂, hp, hstorage', hdrawn', hquiet'⟩ |
      ⟨e, s₂, hp, hstorage', hdrawn', hquiet'⟩
    · rw [hp]
      exact .inr ⟨p, names, s₂, rfl, planned, hdrawn'.trans hdrawn, hstorage ▸ hstorage',
        hquiet.trans hquiet'⟩
    · rw [hp]
      refine .inl ⟨e, names, s₂, rfl, planned.grants, .inl (hdrawn'.trans hdrawn), ?_,
        hquiet.trans hquiet'⟩
      rw [hstorage', hstorage, planned.intermediates]

/-! ## Runs -/

/-- **The ways in which a run of a draft ends.** -/
inductive Ending (env : Environment MemoryStorage) (substrate : Substrate MemoryStorage) (d : Draft)
    (s : Session MemoryStorage) : Except PlanningFailure Report → Session MemoryStorage → Prop where
  | unprepared {names : List String} {s' : Session MemoryStorage} (e : PlanningFailure)
    (left : Unprepared env d s s' names) :
    Ending env substrate d s (if e.isPlanning then .ok (.unplanned e) else .error e) s'
  | idle {names : List String} {p : Pipeline} {s' : Session MemoryStorage}
    (left : Prepared env d s s' names p) (none : p.stages = []) :
    Ending env substrate d s (.ok (.idle p)) s'
  | executed {names : List String} {p : Pipeline} {s₁ s' : Session MemoryStorage}
    (left : Prepared env d s s₁ names p) (some : p.stages ≠ [])
    (drawn : s'.drawn = s₁.drawn)
    (storage : s'.storage = (Chain.run env substrate p s₁).2.storage)
    (submissions : s'.submissions = (Chain.run env substrate p s₁).2.submissions) :
    Ending env substrate d s
      (((Chain.run env substrate p s₁).1.map (.executed p)).mapError .fault) s'

/-- A run ends in one of these ways. -/
theorem ending {substrate : Substrate MemoryStorage} (h : env.substrate = some substrate) (d : Draft)
    (s : Session MemoryStorage) : Ending env substrate d s (d.run env s).1 (d.run env s).2 := by
  unfold run
  rw [h]
  simp only
  set s₀ := s.note (info ("Generating stage chain: " ++ d.settings.name.plain))
  have hquiet : s.Quiet s₀ := ⟨rfl, rfl, rfl⟩
  rcases preparation env d s₀ with ⟨e, names, s₁, hp, left⟩ | ⟨p, names, s₁, hp, left⟩
  · have hunprepared (s' : Session MemoryStorage) (hstorage : s'.storage = s₁.storage)
        (hdrawn : s'.drawn = s₁.drawn) (hsince : s₁.Quiet s') : Unprepared env d s s' names :=
      ⟨left.grants, hdrawn ▸ left.drawn, hstorage ▸ left.storage,
        hquiet.trans (left.quiet.trans hsince)⟩
    rw [hp]
    simp only
    cases he : e.isPlanning with
    | true =>
      have hending : Ending env substrate d s _ (s₁.note (failedRecord e)) :=
        .unprepared e (hunprepared _ rfl rfl ⟨rfl, rfl, rfl⟩)
      rwa [he] at hending
    | false =>
      have hending : Ending env substrate d s _ s₁ :=
        .unprepared e (hunprepared s₁ rfl rfl (.refl s₁))
      rwa [he] at hending
  · rw [hp]
    simp only [Pipeline.isEmpty, List.isEmpty_iff]
    by_cases hempty : p.stages = []
    · rw [if_pos hempty]
      exact .idle ⟨left.planned, left.drawn, left.storage, hquiet.trans (left.quiet.note _)⟩ hempty
    · rw [if_neg hempty]
      have hprepared : Prepared env d s s₁ names p :=
        ⟨left.planned, left.drawn, left.storage, hquiet.trans left.quiet⟩
      have hdrawn := (Chain.storage_run env substrate s₁ p).2
      have hexecuted := @Ending.executed env substrate d s names p s₁
      generalize Chain.run env substrate p s₁ = r at hdrawn hexecuted ⊢
      obtain ⟨f | result, s₂⟩ := r
      · exact hexecuted hprepared hempty hdrawn rfl rfl
      · simp only
        split
        · exact hexecuted hprepared hempty hdrawn rfl rfl
        · exact hexecuted hprepared hempty hdrawn rfl rfl

end Draft

end StageChain
