import StageChain.Proofs.Execution
import StageChain.Proofs.Partition
import StageChain.Proofs.Wiring

/-!
# The law of a run

What a run of a pipeline does and says, whatever the substrate replies, whoever is told of progress,
and however clearing locations and reading the clock turn out. The indices of the stages are their
places, since a failed stage's index says which stages are skipped; and no reply is unclear, since a
run has no result then.

* `status_outcomeAt`: the first failing stage decides the status of every stage.
* `replies_of_script`: replies that do not look at the storage are the same in every run.
* `RunLaw`: **the law of a run.**
* `run_law`: every run obeys it, and the replies alone decide statuses, submissions and error.
-/

namespace StageChain

/-- The constructor refuses nothing that an outcome holds. -/
theorem Outcome.make_self (o : Outcome) :
    make o.index o.name o.status o.startedAt o.completedAt o.details = .ok o := by
  rw [make, dif_pos ⟨o.started_iff, o.completed_iff⟩, dif_pos o.details_of_failed]

/-- Where the times of an outcome have offsets, the time between them is defined. -/
theorem Outcome.duration_ok {o : Outcome} (hs : ∀ t ∈ o.startedAt, t.offset.isSome = true)
    (hc : ∀ t ∈ o.completedAt, t.offset.isSome = true) : ∃ d, o.duration = .ok d := by
  unfold duration
  cases hst : o.startedAt with
  | none => exact ⟨_, rfl⟩
  | some start =>
    cases hct : o.completedAt with
    | none => exact ⟨_, rfl⟩
    | some stop =>
      obtain ⟨a, ha⟩ := Option.isSome_iff_exists.1 (hs start hst)
      obtain ⟨b, hb⟩ := Option.isSome_iff_exists.1 (hc stop hct)
      simp [Instant.since?, ha, hb]

namespace Chain

variable {σ : Type} {env : Environment σ} {substrate : Substrate σ}

/-- The status of the stage at a place where the first failing one is known. -/
def statusAt (failsAt i : Nat) : Status :=
  if i < failsAt then .completed else if i = failsAt then .failed else .skipped

/-- **The first failing stage decides the status** of the stage at a place. -/
theorem status_outcomeAt {rs : List Reply} {i readings : Nat} {stage : Stage} {r : Reply}
    (hclear : ∀ f, rs[rs.findIdx fun r => !succeeds r]? ≠ some (.unclear f))
    (hr : rs[i]? = some r) :
    (outcomeAt env readings (rs.findIdx fun r => !succeeds r) i stage r).status
      = statusAt (rs.findIdx fun r => !succeeds r) i := by
  obtain ⟨hi, rfl⟩ := List.getElem?_eq_some_iff.1 hr
  rcases Nat.lt_trichotomy i (rs.findIdx fun r => !succeeds r) with h | h | h
  · have hok : succeeds rs[i] = true := by simpa using List.not_of_lt_findIdx h
    rw [outcomeAt, if_neg (by omega), statusAt, if_pos h]
    simp only [errorOf_of_succeeds hok]; rfl
  · have hf : succeeds rs[i] = false := by
      have hlt : (rs.findIdx fun r => !succeeds r) < rs.length := by omega
      have := List.findIdx_getElem (w := hlt)
      simpa [← h] using this
    have hclear' (f : Fault) : rs[i] ≠ .unclear f := by
      intro hu
      exact hclear f (by rw [← h, List.getElem?_eq_getElem hi, hu])
    obtain ⟨e, he, -, -⟩ := errorOf_of_fails stage hf hclear'
    rw [outcomeAt, if_neg (by omega), statusAt, if_neg (by omega), if_pos h]
    simp only [he]; rfl
  · rw [outcomeAt, if_pos h, statusAt, if_neg (by omega), if_neg (by omega)]; rfl

theorem name_outcomeAt (env : Environment σ) (readings k i : Nat) (stage : Stage) (r : Reply) :
    (outcomeAt env readings k i stage r).index = stage.index ∧
      (outcomeAt env readings k i stage r).name = stage.name := by
  unfold outcomeAt
  simp only
  split
  · exact ⟨rfl, rfl⟩
  · split <;> exact ⟨rfl, rfl⟩

theorem times_outcomeAt {readings k i : Nat} {stage : Stage} {r : Reply} {t : Instant}
    (h : t ∈ (outcomeAt env readings k i stage r).startedAt ∨
      t ∈ (outcomeAt env readings k i stage r).completedAt) : ∃ n, t = env.clock n := by
  unfold outcomeAt at h
  simp only at h
  split at h
  · simp [Outcome.skipped] at h
  · split at h
    · simp only [Outcome.completed, Option.mem_def, Option.some.injEq] at h
      rcases h with rfl | rfl <;> exact ⟨_, rfl⟩
    · simp only [Outcome.failed, Option.mem_def, Option.some.injEq] at h
      rcases h with rfl | rfl <;> exact ⟨_, rfl⟩

variable [Storage σ]

/-- Replies that do not look at the storage are the same whatever clearing locations does. -/
theorem replies_of_script {script : Stage → Reply}
    (h : ∀ stage m, (substrate.submit stage m).1 = script stage) (stages : List Stage) (m : σ) :
    replies substrate stages m = stages.map script := by
  induction stages generalizing m with
  | nil => rfl
  | cons stage rest ih => rw [replies_cons, h, ih, List.map_cons]

/-- **The law of a run** with a result, in which the stages get certain replies, the first failure
among them at a certain place. -/
structure RunLaw (env : Environment σ) (substrate : Substrate σ) (p : Pipeline) (s : Session σ)
    (rs : List Reply) (failsAt : Nat) (r : ExecutionResult) : Prop where
  /-- The run comes to its result, and not to a fault. -/
  returns : (run env substrate p s).1 = .ok r
  /-- What is done, in order: each stage up to the failing one is announced and handed over, and
  after each that completed its input is released. -/
  acts : (run env substrate p s).2
    = (acts failsAt p.stages).foldl (Act.perform env substrate p.size) s
  /-- The stages up to the failing one are handed over, once each and in order. -/
  submissions : ∃ ms : List σ, (run env substrate p s).2.submissions
      = s.submissions ++ List.zipWith Submission.mk (p.stages.take (failsAt + 1)) ms ∧
    ms.length = p.size ∧ ∀ (i : Nat) (stage : Stage) (m : σ), p.stages[i]? = some stage →
      ms[i]? = some m → rs[i]? = some (substrate.submit stage m).1
  /-- Whoever is told of progress gets one notice of each of them. -/
  events : (run env substrate p s).2.events = s.events ++ if env.progress.isSome then
    (p.stages.take (failsAt + 1)).map fun stage => ⟨stage.index, p.size, stage.name⟩ else []
  /-- There is one outcome for each stage. -/
  size : r.outcomes.length = p.size
  outcome : ∀ (i : Nat) (stage : Stage), p.stages[i]? = some stage →
    ∃ o, r.outcomes[i]? = some o ∧ o.index = i ∧ o.name = stage.name ∧
      o.status = statusAt failsAt i
  /-- The constructor of outcomes refuses none of them. -/
  made : ∀ o ∈ r.outcomes,
    Outcome.make o.index o.name o.status o.startedAt o.completedAt o.details = .ok o
  /-- If the clock has an offset, the time that each stage took is defined. -/
  timed : (∀ n, (env.clock n).offset.isSome = true) → ∀ o ∈ r.outcomes, ∃ d, o.duration = .ok d
  success : r.success = true ↔ failsAt = p.size
  error : ∀ reply, rs[failsAt]? = some reply →
    ∃ e, r.error = some e ∧ e.stage = failsAt ∧ e.cause = causeOf reply

variable {p : Pipeline} {s : Session σ} {r : ExecutionResult}

omit [Storage σ] in
theorem getElem?_zip {α β : Type} {as : List α} {bs : List β} {i : Nat} {a : α} {b : β}
    (ha : as[i]? = some a) (hb : bs[i]? = some b) : (as.zip bs)[i]? = some (a, b) := by
  rw [List.getElem?_zip_eq_some]
  exact ⟨ha, hb⟩

/-- In a pipeline in which indices are places, all stages stand from the first place on. -/
theorem placed_stages
    (hp : ∀ (i : Nat) (stage : Stage), p.stages[i]? = some stage → stage.index = i) :
    Placed p.stages 0 p.stages :=
  ⟨rfl, fun i stage hi => by rw [hp i stage hi, Nat.zero_add]⟩

/-- The outcome of the stage at a place. -/
theorem getElem?_outcomes
    (hp : ∀ (i : Nat) (stage : Stage), p.stages[i]? = some stage → stage.index = i)
    (h : (run env substrate p s).1 = .ok r) {i : Nat} {stage : Stage}
    (hi : p.stages[i]? = some stage) :
    ∃ reply, (replies substrate p.stages s.storage)[i]? = some reply ∧ r.outcomes[i]?
      = some (outcomeAt env s.readings (failsAt substrate p.stages s.storage) i stage reply) := by
  have hlt : i < (replies substrate p.stages s.storage).length := by
    rw [length_replies]; exact (List.getElem?_eq_some_iff.1 hi).1
  refine ⟨_, List.getElem?_eq_getElem hlt, ?_⟩
  rw [outcomes_runFrom (placed_stages hp) h, List.getElem?_mapIdx,
    getElem?_zip hi (List.getElem?_eq_getElem hlt)]
  rfl

theorem mem_outcomes
    (hp : ∀ (i : Nat) (stage : Stage), p.stages[i]? = some stage → stage.index = i)
    (h : (run env substrate p s).1 = .ok r) {o : Outcome} (ho : o ∈ r.outcomes) :
    ∃ i stage reply,
      o = outcomeAt env s.readings (failsAt substrate p.stages s.storage) i stage reply := by
  rw [outcomes_runFrom (placed_stages hp) h, List.mem_mapIdx] at ho
  obtain ⟨i, hi, rfl⟩ := ho
  exact ⟨i, _, _, rfl⟩

/-- **The slice fits**: the stages behind the index of the failing one fill the outcomes up. -/
theorem size_outcomes
    (hp : ∀ (i : Nat) (stage : Stage), p.stages[i]? = some stage → stage.index = i)
    (h : (run env substrate p s).1 = .ok r) : r.outcomes.length = p.size := by
  rw [outcomes_runFrom (placed_stages hp) h, List.length_mapIdx, List.length_zip, length_replies,
    Nat.min_self, Pipeline.size]

theorem clear_failing (h : (run env substrate p s).1 = .ok r) (f : Fault) :
    (replies substrate p.stages s.storage)[failsAt substrate p.stages s.storage]?
      ≠ some (.unclear f) := fun hu => clear_of_runFrom h hu f rfl

/-- The statuses of the stages in order. -/
theorem statuses_run
    (hp : ∀ (i : Nat) (stage : Stage), p.stages[i]? = some stage → stage.index = i)
    (h : (run env substrate p s).1 = .ok r) : r.outcomes.map (·.status)
      = (List.range p.size).map (statusAt (failsAt substrate p.stages s.storage)) := by
  apply List.ext_getElem?
  intro i
  rw [List.getElem?_map, List.getElem?_map]
  rcases Nat.lt_or_ge i p.size with hi | hi
  · obtain ⟨reply, hr, ho⟩ := getElem?_outcomes hp h (List.getElem?_eq_getElem hi)
    rw [ho, List.getElem?_range hi, Option.map_some, Option.map_some, failsAt,
      status_outcomeAt (clear_failing h) hr]
  · rw [List.getElem?_eq_none (by rw [size_outcomes hp h]; exact hi),
      List.getElem?_eq_none (by rw [List.length_range]; exact hi)]
    rfl

theorem failing_reply {reply : Reply}
    (h : (replies substrate p.stages s.storage)[failsAt substrate p.stages s.storage]?
      = some reply) : succeeds reply = false := by
  obtain ⟨hlt, rfl⟩ := List.getElem?_eq_some_iff.1 h
  have hfound := List.findIdx_getElem (w := hlt)
  rw [Bool.not_eq_true'] at hfound
  exact hfound

/-- The error of a run in which a stage gets a reply that is no success. -/
theorem error_of_failing {reply : Reply} (h : (run env substrate p s).1 = .ok r)
    (hr : (replies substrate p.stages s.storage)[failsAt substrate p.stages s.storage]?
      = some reply) : ∃ stage e, p.stages[failsAt substrate p.stages s.storage]? = some stage ∧
        r.error = some e ∧ e.stage = stage.index ∧ e.cause = causeOf reply := by
  have hlt : failsAt substrate p.stages s.storage < p.stages.length := by
    rw [← length_replies substrate p.stages s.storage]
    exact (List.getElem?_eq_some_iff.1 hr).1
  have hstage := List.getElem?_eq_getElem hlt
  obtain ⟨e, he, hindex, hcause⟩ := errorOf_of_fails p.stages[failsAt substrate p.stages s.storage]
    (failing_reply hr) (clear_of_runFrom h hr)
  refine ⟨_, e, hstage, ?_, hindex, hcause⟩
  rw [error_runFrom h, getElem?_zip hstage hr]
  exact he

/-- Only a run in which no stage fails is a success. -/
theorem success_iff (h : (run env substrate p s).1 = .ok r) :
    r.success = true ↔ failsAt substrate p.stages s.storage = p.size := by
  rw [ExecutionResult.success, Option.isNone_iff_eq_none]
  have hle := failsAt_le substrate p.stages s.storage
  constructor
  · intro hnone
    rcases Nat.lt_or_eq_of_le hle with hlt | heq
    · have hr := List.getElem?_eq_getElem (l := replies substrate p.stages s.storage)
        (by rw [length_replies]; exact hlt)
      obtain ⟨_, e, -, he, -⟩ := error_of_failing h hr
      rw [he] at hnone
      cases hnone
    · exact heq
  · intro hall
    rw [error_runFrom h, List.getElem?_eq_none]
    · rfl
    · rw [List.length_zip, length_replies, Nat.min_self, hall]
      exact Nat.le_refl _

/-- Every run with a result obeys the law. -/
theorem runLaw (hp : ∀ (i : Nat) (stage : Stage), p.stages[i]? = some stage → stage.index = i)
    (h : (run env substrate p s).1 = .ok r) :
    RunLaw env substrate p s (replies substrate p.stages s.storage)
      (failsAt substrate p.stages s.storage) r where
  returns := h
  acts := runFrom_snd
  submissions := by
    refine ⟨storages substrate p.stages s.storage, submissions_runFrom, length_storages .., ?_⟩
    intro i stage m hi hm
    rw [replies, List.getElem?_zipWith, hi, hm]
  events := events_runFrom
  size := size_outcomes hp h
  outcome := by
    intro i stage hi
    obtain ⟨reply, hr, ho⟩ := getElem?_outcomes hp h hi
    obtain ⟨hindex, hname⟩ := name_outcomeAt env s.readings
      (failsAt substrate p.stages s.storage) i stage reply
    exact ⟨_, ho, by rw [hindex, hp i stage hi], hname, status_outcomeAt (clear_failing h) hr⟩
  made o _ := o.make_self
  timed := by
    intro hclock o ho
    obtain ⟨i, stage, reply, rfl⟩ := mem_outcomes hp h ho
    refine Outcome.duration_ok ?_ ?_
    · intro t ht
      obtain ⟨n, rfl⟩ := times_outcomeAt (.inl ht)
      exact hclock n
    · intro t ht
      obtain ⟨n, rfl⟩ := times_outcomeAt (.inr ht)
      exact hclock n
  success := success_iff h
  error := by
    intro reply hr
    obtain ⟨stage, e, hstage, he, hindex, hcause⟩ := error_of_failing h hr
    exact ⟨e, he, by rw [hindex, hp _ _ hstage], hcause⟩

theorem stages_submitted : ((run env substrate p s).2.submissions.drop s.submissions.length).map
    (·.stage) = p.stages.take (failsAt substrate p.stages s.storage + 1) := by
  rw [run, submissions_runFrom, List.drop_left, List.map_zipWith]
  have hlen := length_storages substrate p.stages s.storage
  apply List.ext_getElem
  · rw [List.length_zipWith, List.length_take, hlen]; omega
  · intro i h₁ h₂
    simp

/-- **Every run obeys its law** if the replies are clear, and the replies alone decide statuses,
submissions and error: two runs of a pipeline in which the stages get the same replies agree on them,
whoever is told of progress, whatever the clock shows and whatever becomes of clearing locations, be
it in storages of different kinds. Replies that do not look at the storage are the same in every
run. -/
theorem run_law (env : Environment σ) (substrate : Substrate σ) (p : Pipeline)
    (hp : ∀ (i : Nat) (stage : Stage), p.stages[i]? = some stage → stage.index = i)
    (s : Session σ) (hclear : ∀ f, .unclear f ∉ replies substrate p.stages s.storage) :
    ∃ r, RunLaw env substrate p s (replies substrate p.stages s.storage)
      (failsAt substrate p.stages s.storage) r ∧
    (∀ {τ : Type} [Storage τ] (env' : Environment τ) (substrate' : Substrate τ) (s' : Session τ),
      replies substrate' p.stages s'.storage = replies substrate p.stages s.storage →
      ∃ r', (run env' substrate' p s').1 = .ok r' ∧
        r'.outcomes.map (·.status) = r.outcomes.map (·.status) ∧
        ((run env' substrate' p s').2.submissions.drop s'.submissions.length).map (·.stage)
          = ((run env substrate p s).2.submissions.drop s.submissions.length).map (·.stage) ∧
        r'.error = r.error) ∧
    ∀ script : Stage → Reply, (∀ stage m, (substrate.submit stage m).1 = script stage) →
      replies substrate p.stages s.storage = p.stages.map script := by
  obtain ⟨r, hr⟩ : ∃ r, (run env substrate p s).1 = .ok r := runFrom_eq_ok hclear
  refine ⟨r, runLaw hp hr, ?_, fun script h => replies_of_script h p.stages s.storage⟩
  intro τ _ env' substrate' s' h
  have hk : failsAt substrate' p.stages s'.storage = failsAt substrate p.stages s.storage := by
    rw [failsAt, failsAt, h]
  obtain ⟨r', hr'⟩ : ∃ r', (run env' substrate' p s').1 = .ok r' := runFrom_eq_ok (h ▸ hclear)
  refine ⟨r', hr', ?_, ?_, ?_⟩
  · rw [statuses_run hp hr', statuses_run hp hr, hk]
  · rw [stages_submitted, stages_submitted, hk]
  · rw [error_runFrom hr', error_runFrom hr, hk, h]

/-- A substrate that adds outputs and refuses the stage at a place. -/
def refusing (i : Nat) : Substrate MemoryStorage where
  submit stage storage := (.answered (stage.index != i), storage.add stage.outputLocation)
  notes _ := []

/-- The three stages of the sample, if the second one is refused: two of them are submitted, also if
whoever is told of progress fails and nothing can be deleted. -/
theorem run_law_sample : ∃ p s₁ r r',
    Wiring.compose (.counting MemoryStorage) "" sampleFusion.plans .sample (.start (.ofList []))
      = (.ok p, s₁) ∧
    (∀ (i : Nat) (stage : Stage), p.stages[i]? = some stage → stage.index = i) ∧
    (∀ f, .unclear f ∉ replies (refusing 1) p.stages (.ofList [])) ∧
    RunLaw (.counting _) (refusing 1) p (.start (.ofList []))
      [.answered true, .answered false, .answered true] 1 r ∧
    (run { Environment.counting _ with progress := some fun _ => some (.raised .runtime []) }
        (refusing 1) p (.start ⟨[], [], fun _ => none, fun _ => some (.raised .system [])⟩)).1
      = .ok r' ∧ r'.error = r.error := by
  have hc : Wiring.compose (.counting MemoryStorage) "" sampleFusion.plans .sample
    (.start (.ofList [])) = (.ok _, _) := rfl
  have hp := (Wiring.linked_of_compose hc).index
  have hclear : ∀ f, .unclear f ∉ [Reply.answered true, .answered false, .answered true] := by simp
  obtain ⟨r, hlaw, htwo, hscript⟩ :=
    run_law (.counting _) (refusing 1) _ hp (.start (.ofList [])) hclear
  have hother := hscript (fun stage => .answered (stage.index != 1)) fun _ _ => rfl
  obtain ⟨r', hr', -, -, herror⟩ := htwo
    { Environment.counting _ with progress := some fun _ => some (.raised .runtime []) } (refusing 1)
    (.start ⟨[], [], fun _ => none, fun _ => some (.raised .system [])⟩)
    (hother ▸ replies_of_script (fun _ _ => rfl) _ _)
  exact ⟨_, _, r, r', hc, hp, hclear, hlaw, hr', herror⟩

end Chain

end StageChain
