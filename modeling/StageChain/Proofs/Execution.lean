import Mathlib.Tactic.Set
import StageChain.Run.Chain

/-!
# What a run does, step by step

A run of a pipeline is a list of acts that are done one after the other: a notice, the submission of
a stage, the release of what it read. How many stages are submitted is settled by the first reply of
the substrate that is no success. These lemmas give the acts, and what the result of a run says, from
the replies alone.

* `runFrom_cons`: one stage of a run, whatever becomes of it.
* `run_induction`: what holds of every run, by its first stage.
* `runFrom_snd`: **a run is its acts**, done in order.
* `submissions_runFrom`, `events_runFrom`: what was handed over, and which notices were given.
* `storage_runFrom`: what the run leaves in the storage.
* `runFrom_eq_error_iff`, `runFrom_eq_ok`: **when a run has a result.**
* `Placed`: stages whose indices are their places; `outcomes_runFrom`, `error_runFrom`: what became of
  them.
-/

namespace StageChain

namespace Chain

variable {σ : Type}

/-- Whether a reply of the substrate is a success. -/
def succeeds : Reply → Bool
  | .answered success => success
  | .failed _ | .unclear _ => false

/-- The fault behind a reply, if one was raised instead of an answer. -/
def causeOf : Reply → Option Fault
  | .failed f => some f
  | .answered _ | .unclear _ => none

/-- Why a stage failed, by the reply to it. -/
def errorOf (stage : Stage) (r : Reply) : Option ExecutionError :=
  match verdict stage r with
  | .ok error => error
  | .error _ => none

theorem verdict_of_succeeds {stage : Stage} {r : Reply} (h : succeeds r = true) :
    verdict stage r = .ok none := by
  rcases r with (_ | _) | f | f <;> simp [succeeds, verdict] at h ⊢

/-- A reply that is no success is unclear, or it says why the stage failed. -/
theorem fails_cases (stage : Stage) {r : Reply} (h : succeeds r = false) :
    (∃ f, r = .unclear f) ∨ ∃ e, verdict stage r = .ok (some e) ∧ e.stage = stage.index ∧
      e.cause = causeOf r := by
  rcases r with (_ | _) | f | f
  · exact .inr ⟨_, rfl, rfl, rfl⟩
  · simp [succeeds] at h
  · exact .inr ⟨_, rfl, rfl, rfl⟩
  · exact .inl ⟨f, rfl⟩

theorem verdict_of_fails (stage : Stage) {r : Reply} (h : succeeds r = false)
    (hclear : ∀ f, r ≠ .unclear f) : ∃ e, verdict stage r = .ok (some e) ∧
      e.stage = stage.index ∧ e.cause = causeOf r := by
  obtain ⟨f, hf⟩ | he := fails_cases stage h
  · exact absurd hf (hclear f)
  · exact he

theorem errorOf_of_succeeds {stage : Stage} {r : Reply} (h : succeeds r = true) :
    errorOf stage r = none := by
  rw [errorOf, verdict_of_succeeds h]

theorem errorOf_of_fails (stage : Stage) {r : Reply} (h : succeeds r = false)
    (hclear : ∀ f, r ≠ .unclear f) :
    ∃ e, errorOf stage r = some e ∧ e.stage = stage.index ∧ e.cause = causeOf r := by
  obtain ⟨e, he, hstage, hcause⟩ := verdict_of_fails stage h hclear
  exact ⟨e, by rw [errorOf, he], hstage, hcause⟩

/-! ## Storages along a chain -/

section Storages

variable [Storage σ]

/-- A storage after a location was cleared. -/
def cleared (m : σ) (location : String) : σ :=
  match Storage.contains m location with
  | .ok true => (Storage.erase m location true).2
  | _ => m

/-- A storage after the input of a stage was released. -/
def tidied (stage : Stage) (m : σ) : σ :=
  if stage.inputIsIntermediate then cleared m stage.inputLocation else m

variable (substrate : Substrate σ)

/-- The storages that stages find when each is submitted and its input released in turn. -/
def storages : List Stage → σ → List σ
  | [], _ => []
  | stage :: rest, m => m :: storages rest (tidied stage (substrate.submit stage m).2)

/-- The replies to the stages. -/
def replies (stages : List Stage) (m : σ) : List Reply :=
  List.zipWith (fun stage m => (substrate.submit stage m).1) stages (storages substrate stages m)

/-- **The place of the first stage that fails**, or the number of stages if none does. -/
def failsAt (stages : List Stage) (m : σ) : Nat :=
  (replies substrate stages m).findIdx fun r => !succeeds r

theorem length_storages (stages : List Stage) (m : σ) :
    (storages substrate stages m).length = stages.length := by
  induction stages generalizing m with
  | nil => rfl
  | cons stage rest ih => rw [storages, List.length_cons, ih, List.length_cons]

theorem length_replies (stages : List Stage) (m : σ) :
    (replies substrate stages m).length = stages.length := by
  rw [replies, List.length_zipWith, length_storages, Nat.min_self]

/-- A storage after so many stages were submitted and their inputs released. -/
def storageAt (stages : List Stage) (m : σ) (i : Nat) : σ :=
  (stages.take i).foldl (fun m stage => tidied stage (substrate.submit stage m).2) m

theorem storageAt_zero (stages : List Stage) (m : σ) : storageAt substrate stages m 0 = m := rfl

theorem storageAt_succ {stages : List Stage} {i : Nat} {stage : Stage}
    (hi : stages[i]? = some stage) (m : σ) : storageAt substrate stages m (i + 1)
      = tidied stage (substrate.submit stage (storageAt substrate stages m i)).2 := by
  rw [storageAt, List.take_add_one, hi, List.foldl_append]; rfl

/-- The storage that the stage at a place finds. -/
theorem getElem?_storages {stages : List Stage} {i : Nat} (hi : i < stages.length) (m : σ) :
    (storages substrate stages m)[i]? = some (storageAt substrate stages m i) := by
  induction stages generalizing i m with
  | nil => simp at hi
  | cons stage rest ih =>
    cases i with
    | zero => rfl
    | succ i =>
      rw [storages, List.getElem?_cons_succ, ih (by simpa using hi)]; rfl

/-- The reply to the stage at a place. -/
theorem getElem?_replies {stages : List Stage} {i : Nat} {stage : Stage}
    (hi : stages[i]? = some stage) (m : σ) : (replies substrate stages m)[i]?
      = some (substrate.submit stage (storageAt substrate stages m i)).1 := by
  obtain ⟨hlt, -⟩ := List.getElem?_eq_some_iff.1 hi
  rw [replies, List.getElem?_zipWith, hi, getElem?_storages substrate hlt]

theorem replies_cons (stage : Stage) (rest : List Stage) (m : σ) :
    replies substrate (stage :: rest) m = (substrate.submit stage m).1
      :: replies substrate rest (tidied stage (substrate.submit stage m).2) := rfl

theorem failsAt_le (stages : List Stage) (m : σ) :
    failsAt substrate stages m ≤ stages.length := by
  rw [← length_replies substrate stages m]
  exact List.findIdx_le_length

variable {substrate} {stage : Stage} {rest : List Stage} {m : σ}

theorem failsAt_cons_of_fails (h : succeeds (substrate.submit stage m).1 = false) :
    failsAt substrate (stage :: rest) m = 0 := by
  rw [failsAt, replies_cons, List.findIdx_cons]; simp [h]

theorem failsAt_cons_of_succeeds (h : succeeds (substrate.submit stage m).1 = true) :
    failsAt substrate (stage :: rest) m
      = failsAt substrate rest (tidied stage (substrate.submit stage m).2) + 1 := by
  rw [failsAt, replies_cons, List.findIdx_cons]; simp [h, failsAt]

/-- The stages before the first that fails succeed. -/
theorem succeeds_of_lt_failsAt {stages : List Stage} {i : Nat} (hi : stages[i]? = some stage)
    (hlt : i < failsAt substrate stages m) :
    succeeds (substrate.submit stage (storageAt substrate stages m i)).1 = true := by
  have hr := getElem?_replies substrate hi m
  obtain ⟨hi', hr⟩ := List.getElem?_eq_some_iff.1 hr
  have := List.not_of_lt_findIdx hlt
  rw [hr] at this
  simpa using this

end Storages

/-! ## Acts -/

/-- What a run does. -/
inductive Act where
  | announce (stage : Stage)
  | submit (stage : Stage)
  | release (location : String)
  deriving DecidableEq

variable (env : Environment σ) (substrate : Substrate σ) (count : Nat)

/-- Hands a stage over between two readings of the clock, and logs what became of it. Nothing more
is done if the reply is unclear. -/
def handOver (stage : Stage) (s : Session σ) : Session σ :=
  let (start, s) := s.read env
  match submit substrate stage s with
  | (.error _, s) => s
  | (.ok error, s) =>
    let (stop, s) := s.read env
    match error with
    | some e => s.note (failedRecord stage count e)
    | none => s.note (completedRecord stage count (elapsed start stop))

/-- Does an act. -/
def Act.perform [Storage σ] (s : Session σ) : Act → Session σ
  | .announce stage => Chain.announce env count stage s
  | .submit stage => handOver env substrate count stage s
  | .release location => ((Leases.start "").release location s).2.2

/-- The acts about a stage that completes. -/
def actsOfCompleted (stage : Stage) : List Act :=
  [.announce stage, .submit stage]
    ++ if stage.inputIsIntermediate then [.release stage.inputLocation] else []

/-- The acts about a stage that fails. -/
def actsOfFailed (stage : Stage) : List Act := [.announce stage, .submit stage]

/-- **The acts of a run** in which so many stages complete and the next one, if there is one,
fails. -/
def acts (completed : Nat) (stages : List Stage) : List Act :=
  (stages.take completed).flatMap actsOfCompleted ++ stages[completed]?.toList.flatMap actsOfFailed

theorem acts_cons_zero (stage : Stage) (rest : List Stage) :
    acts 0 (stage :: rest) = actsOfFailed stage := by simp [acts]

theorem acts_cons_succ (k : Nat) (stage : Stage) (rest : List Stage) :
    acts (k + 1) (stage :: rest) = actsOfCompleted stage ++ acts k rest := by
  simp [acts, List.append_assoc]

/-! ## What an act changes -/

section Frame

variable (stage : Stage) (s : Session σ) (location : String)

theorem clear_snd [Storage σ] :
    (s.clear location).2 = { s with storage := cleared s.storage location } := by
  unfold Session.clear cleared
  cases hc : Storage.contains s.storage location with
  | error f => rfl
  | ok b =>
    cases b with
    | false => rfl
    | true =>
      simp only
      split <;> next he => rw [he]

theorem release_frame [Storage σ] (l : Leases) :
    (l.release location s).2.2.storage = cleared s.storage location ∧
      (l.release location s).2.2.readings = s.readings ∧
      (l.release location s).2.2.submissions = s.submissions ∧
      (l.release location s).2.2.events = s.events := by
  have h := clear_snd s location
  unfold Leases.release
  split <;> next hc => rw [hc] at h; simp only at h; subst h; exact ⟨rfl, rfl, rfl, rfl⟩

theorem announce_frame : (Chain.announce env count stage s).storage = s.storage ∧
    (Chain.announce env count stage s).readings = s.readings ∧
    (Chain.announce env count stage s).submissions = s.submissions := by
  unfold Chain.announce
  cases env.progress with
  | none => exact ⟨rfl, rfl, rfl⟩
  | some tell =>
    simp only
    split <;> exact ⟨rfl, rfl, rfl⟩

/-- The notice that is given of a stage. -/
def notice (count : Nat) (stage : Stage) : ProgressEvent := ⟨stage.index, count, stage.name⟩

theorem announce_events : (Chain.announce env count stage s).events
    = s.events ++ if env.progress.isSome then [notice count stage] else [] := by
  unfold Chain.announce
  cases env.progress with
  | none => simp [Session.note]
  | some tell =>
    simp only
    split <;> rfl

theorem submit_fst : (Chain.submit substrate stage s).1
    = verdict stage (substrate.submit stage s.storage).1 := rfl

theorem submit_snd : (Chain.submit substrate stage s).2.storage
      = (substrate.submit stage s.storage).2 ∧
    (Chain.submit substrate stage s).2.readings = s.readings ∧
    (Chain.submit substrate stage s).2.submissions = s.submissions ++ [⟨stage, s.storage⟩] ∧
    (Chain.submit substrate stage s).2.events = s.events := ⟨rfl, rfl, rfl, rfl⟩

theorem handOver_frame : (handOver env substrate count stage s).storage
      = (substrate.submit stage s.storage).2 ∧
    (handOver env substrate count stage s).submissions = s.submissions ++ [⟨stage, s.storage⟩] ∧
    (handOver env substrate count stage s).events = s.events := by
  obtain ⟨h₁, -, h₃, h₄⟩ := submit_snd substrate stage (s.read env).2
  unfold handOver
  simp only
  generalize Chain.submit substrate stage (s.read env).2 = r at h₁ h₃ h₄ ⊢
  rcases r with ⟨f | error, s'⟩
  · exact ⟨h₁, h₃, h₄⟩
  · cases error <;> exact ⟨h₁, h₃, h₄⟩

/-- The clock is read on both sides of a stage that is handed over, if the reply is clear. -/
theorem readings_handOver (hclear : ∀ f, (substrate.submit stage s.storage).1 ≠ .unclear f) :
    (handOver env substrate count stage s).readings = s.readings + 2 := by
  unfold handOver
  simp only
  have hfst := submit_fst substrate stage (s.read env).2
  have hreadings : (Chain.submit substrate stage (s.read env).2).2.readings = s.readings + 1 :=
    (submit_snd substrate stage (s.read env).2).2.1
  generalize Chain.submit substrate stage (s.read env).2 = r at hfst hreadings ⊢
  rcases r with ⟨f | error, s'⟩
  · exact absurd (verdict_eq_error_iff.1 hfst.symm) (hclear f)
  · cases error <;> simp only [Session.note, Session.read] at hreadings ⊢ <;> omega

end Frame

/-! ## A run is its acts -/

/-- The session after a stage was announced and handed over. -/
def handled (stage : Stage) (s : Session σ) : Session σ :=
  handOver env substrate count stage (Chain.announce env count stage s)

variable {env substrate count} {stage : Stage} {all rest stages : List Stage} {s : Session σ}

theorem handled_frame : (handled env substrate count stage s).storage
      = (substrate.submit stage s.storage).2 ∧
    (handled env substrate count stage s).submissions = s.submissions ++ [⟨stage, s.storage⟩] ∧
    (handled env substrate count stage s).events
      = s.events ++ if env.progress.isSome then [notice count stage] else [] := by
  obtain ⟨h₁, h₂, h₃⟩ := handOver_frame env substrate count stage
    (Chain.announce env count stage s)
  obtain ⟨g₁, -, g₃⟩ := announce_frame env count stage s
  rw [handled, h₁, h₂, h₃, g₁, g₃, announce_events]
  exact ⟨rfl, rfl, rfl⟩

theorem readings_handled (hclear : ∀ f, (substrate.submit stage s.storage).1 ≠ .unclear f) :
    (handled env substrate count stage s).readings = s.readings + 2 := by
  obtain ⟨g₁, g₂, -⟩ := announce_frame env count stage s
  rw [handled, readings_handOver, g₂]
  rwa [g₁]

theorem releaseInput_frame [Storage σ] : (releaseInput stage s).storage = tidied stage s.storage ∧
    (releaseInput stage s).readings = s.readings ∧
    (releaseInput stage s).submissions = s.submissions ∧
    (releaseInput stage s).events = s.events := by
  unfold releaseInput tidied
  split
  · exact release_frame s stage.inputLocation (Leases.start "")
  · exact ⟨rfl, rfl, rfl, rfl⟩

/-- **One stage of a run**, whatever becomes of it: it is announced and handed over, and either that
ends the run or its input is released and the run goes on. -/
theorem runFrom_cons [Storage σ] : runFrom env substrate all (stage :: rest) s =
    match verdict stage (substrate.submit stage s.storage).1 with
    | .error f => (.error f, handled env substrate all.length stage s)
    | .ok (some e) =>
      (.ok ⟨.failed stage.index stage.name (env.clock s.readings) (env.clock (s.readings + 1)) e
          :: skippedAfter all stage.index, some e⟩,
        handled env substrate all.length stage s)
    | .ok none =>
      match runFrom env substrate all rest
        (releaseInput stage (handled env substrate all.length stage s)) with
      | (.error f, s') => (.error f, s')
      | (.ok r, s') =>
        (.ok ⟨.completed stage.index stage.name (env.clock s.readings) (env.clock (s.readings + 1))
          :: r.outcomes, r.error⟩, s') := by
  obtain ⟨g₁, g₂, -⟩ := announce_frame env all.length stage s
  rw [runFrom, handled, handOver]
  set a := Chain.announce env all.length stage s
  simp only [Session.read, g₂]
  set b : Session σ := { a with readings := s.readings + 1 } with hb
  have hsub : (submit substrate stage b).1 = verdict stage (substrate.submit stage s.storage).1 := by
    rw [submit_fst, hb]
    simp only [g₁]
  have hread : (submit substrate stage b).2.readings = s.readings + 1 :=
    (submit_snd substrate stage b).2.1
  generalize submit substrate stage b = r at hsub hread ⊢
  obtain ⟨result, storage, drawn, readings, journal, submissions, events⟩ := r
  obtain rfl : result = _ := hsub
  obtain rfl : readings = s.readings + 1 := hread
  cases verdict stage (substrate.submit stage s.storage).1 with
  | error f => rfl
  | ok e => cases e <;> rfl

section Run

variable [Storage σ]

theorem foldl_actsOfFailed :
    (actsOfFailed stage).foldl (Act.perform env substrate count) s
      = handled env substrate count stage s := rfl

theorem foldl_actsOfCompleted :
    (actsOfCompleted stage).foldl (Act.perform env substrate count) s
      = releaseInput stage (handled env substrate count stage s) := by
  unfold actsOfCompleted releaseInput
  split <;> rfl

/-- The storage that the next stage finds. -/
theorem storage_next : (releaseInput stage (handled env substrate count stage s)).storage
    = tidied stage (substrate.submit stage s.storage).2 := by
  rw [releaseInput_frame.1, handled_frame.1]

theorem runFrom_of_succeeds (h : succeeds (substrate.submit stage s.storage).1 = true) :
    runFrom env substrate all (stage :: rest) s =
      match runFrom env substrate all rest
        (releaseInput stage (handled env substrate all.length stage s)) with
      | (.error f, s') => (.error f, s')
      | (.ok r, s') =>
        (.ok ⟨.completed stage.index stage.name (env.clock s.readings) (env.clock (s.readings + 1))
          :: r.outcomes, r.error⟩, s') := by
  rw [runFrom_cons, verdict_of_succeeds h]

theorem runFrom_of_fails {e : ExecutionError}
    (h : verdict stage (substrate.submit stage s.storage).1 = .ok (some e)) :
    runFrom env substrate all (stage :: rest) s =
      (.ok ⟨.failed stage.index stage.name (env.clock s.readings) (env.clock (s.readings + 1)) e
          :: skippedAfter all stage.index, some e⟩,
        handled env substrate all.length stage s) := by
  rw [runFrom_cons, h]

theorem runFrom_of_unclear {f : Fault} (h : (substrate.submit stage s.storage).1 = .unclear f) :
    runFrom env substrate all (stage :: rest) s
      = (.error f, handled env substrate all.length stage s) := by
  rw [runFrom_cons, verdict_eq_error_iff.2 h]

/-- The run goes on in the session that a stage leaves which succeeds. -/
theorem snd_runFrom_of_succeeds (h : succeeds (substrate.submit stage s.storage).1 = true) :
    (runFrom env substrate all (stage :: rest) s).2 = (runFrom env substrate all rest
      (releaseInput stage (handled env substrate all.length stage s))).2 := by
  rw [runFrom_of_succeeds h]
  generalize runFrom env substrate all rest _ = r
  obtain ⟨f | r, s'⟩ := r <;> rfl

/-- A stage that does not succeed is the last one that is handled. -/
theorem snd_runFrom_of_not_succeeds (h : succeeds (substrate.submit stage s.storage).1 = false) :
    (runFrom env substrate all (stage :: rest) s).2 = handled env substrate all.length stage s := by
  obtain ⟨f, hf⟩ | ⟨e, he, -, -⟩ := fails_cases stage h
  · rw [runFrom_of_unclear hf]
  · rw [runFrom_of_fails he]

/-- **Induction along a run**: a stage does not succeed and nothing follows, or it succeeds and the
rest of the run follows in the session that it leaves. -/
theorem run_induction (env : Environment σ) (substrate : Substrate σ) (count : Nat)
    {motive : List Stage → Session σ → Prop} (nil : ∀ s, motive [] s)
    (stops : ∀ stage rest s, succeeds (substrate.submit stage s.storage).1 = false →
      motive (stage :: rest) s)
    (succeeds : ∀ stage rest s, succeeds (substrate.submit stage s.storage).1 = true →
      motive rest (releaseInput stage (handled env substrate count stage s)) →
      motive (stage :: rest) s)
    (stages : List Stage) (s : Session σ) : motive stages s := by
  induction stages generalizing s with
  | nil => exact nil s
  | cons stage rest ih =>
    cases h : Chain.succeeds (substrate.submit stage s.storage).1 with
    | true => exact succeeds stage rest s h (ih _)
    | false => exact stops stage rest s h

/-- **A run is its acts**, done in order. -/
theorem runFrom_snd : (runFrom env substrate all stages s).2
    = (acts (failsAt substrate stages s.storage) stages).foldl
        (Act.perform env substrate all.length) s := by
  induction stages, s using run_induction env substrate all.length with
  | nil s => simp [runFrom, acts]
  | stops stage rest s h =>
    rw [snd_runFrom_of_not_succeeds h, failsAt_cons_of_fails h, acts_cons_zero, foldl_actsOfFailed]
  | succeeds stage rest s h ih =>
    rw [snd_runFrom_of_succeeds h, failsAt_cons_of_succeeds h, acts_cons_succ, List.foldl_append,
      foldl_actsOfCompleted, ih, storage_next]

/-- The stages up to the first that fails are handed over, each with the storage of its time. -/
theorem submissions_runFrom : (runFrom env substrate all stages s).2.submissions
    = s.submissions ++ List.zipWith Submission.mk
        (stages.take (failsAt substrate stages s.storage + 1))
        (storages substrate stages s.storage) := by
  induction stages, s using run_induction env substrate all.length with
  | nil s => simp [runFrom]
  | stops stage rest s h =>
    rw [snd_runFrom_of_not_succeeds h, failsAt_cons_of_fails h, handled_frame.2.1]
    simp [storages]
  | succeeds stage rest s h ih =>
    rw [snd_runFrom_of_succeeds h, failsAt_cons_of_succeeds h, ih, storage_next,
      releaseInput_frame.2.2.1, handled_frame.2.1]
    simp [storages]

/-- A notice is given of each stage up to the first that fails, if anybody is told. -/
theorem events_runFrom : (runFrom env substrate all stages s).2.events
    = s.events ++ if env.progress.isSome then
        (stages.take (failsAt substrate stages s.storage + 1)).map (notice all.length) else [] := by
  induction stages, s using run_induction env substrate all.length with
  | nil s => simp [runFrom]
  | stops stage rest s h =>
    rw [snd_runFrom_of_not_succeeds h, failsAt_cons_of_fails h, handled_frame.2.2]
    split <;> simp
  | succeeds stage rest s h ih =>
    rw [snd_runFrom_of_succeeds h, failsAt_cons_of_succeeds h, ih, storage_next,
      releaseInput_frame.2.2.2, handled_frame.2.2]
    split <;> simp

/-- The storage that a run leaves: that of the stage that fails, or that after all stages. -/
theorem storage_runFrom : (runFrom env substrate all stages s).2.storage
    = match stages[failsAt substrate stages s.storage]? with
      | some stage => (substrate.submit stage
          (storageAt substrate stages s.storage (failsAt substrate stages s.storage))).2
      | none => storageAt substrate stages s.storage stages.length := by
  induction stages, s using run_induction env substrate all.length with
  | nil s => rfl
  | stops stage rest s h =>
    rw [snd_runFrom_of_not_succeeds h, failsAt_cons_of_fails h, List.getElem?_cons_zero,
      handled_frame.1]
    rfl
  | succeeds stage rest s h ih =>
    rw [snd_runFrom_of_succeeds h, failsAt_cons_of_succeeds h, ih, storage_next,
      List.getElem?_cons_succ]
    rfl

/-! ## The result of a run -/

/-- **A run has no result** exactly if the first reply that is no success is unclear. -/
theorem runFrom_eq_error_iff {f : Fault} : (runFrom env substrate all stages s).1 = .error f ↔
    (replies substrate stages s.storage)[failsAt substrate stages s.storage]?
      = some (.unclear f) := by
  induction stages, s using run_induction env substrate all.length with
  | nil s => simp [runFrom, replies]
  | stops stage rest s h =>
    rw [failsAt_cons_of_fails h, replies_cons, List.getElem?_cons_zero, Option.some.injEq,
      ← @verdict_eq_error_iff stage]
    obtain ⟨f', hf⟩ | ⟨e, he, -, -⟩ := fails_cases stage h
    · rw [runFrom_of_unclear hf, verdict_eq_error_iff.2 hf]
      simp
    · rw [runFrom_of_fails he, he]
      simp
  | succeeds stage rest s h ih =>
    rw [runFrom_of_succeeds h, failsAt_cons_of_succeeds h, replies_cons, List.getElem?_cons_succ,
      ← storage_next, ← ih]
    generalize runFrom env substrate all rest _ = r
    obtain ⟨f' | r, s'⟩ := r <;> simp

/-- A run has a result if every reply is clear. -/
theorem runFrom_eq_ok (h : ∀ f, .unclear f ∉ replies substrate stages s.storage) :
    ∃ r, (runFrom env substrate all stages s).1 = .ok r := by
  cases hr : (runFrom env substrate all stages s).1 with
  | ok r => exact ⟨r, rfl⟩
  | error f => exact absurd (List.mem_of_getElem? (runFrom_eq_error_iff.1 hr)) (h f)

/-- A result tells that the first reply that is no success is clear. -/
theorem clear_of_runFrom {r : ExecutionResult}
    (h : (runFrom env substrate all stages s).1 = .ok r) {reply : Reply}
    (hreply : (replies substrate stages s.storage)[failsAt substrate stages s.storage]? = some reply)
    (f : Fault) : reply ≠ .unclear f := by
  rintro rfl
  rw [runFrom_eq_error_iff.2 hreply] at h
  cases h

/-- **Stages that stand from a place on** among all stages of a pipeline, each with its place there as
its index. -/
structure Placed (all : List Stage) (k : Nat) (stages : List Stage) : Prop where
  behind : all.drop k = stages
  index : ∀ (i : Nat) (stage : Stage), stages[i]? = some stage → stage.index = k + i

omit [Storage σ] in
/-- What stands behind the index of the first of them is the rest of them. -/
theorem Placed.skippedAfter {k : Nat} (h : Placed all k (stage :: rest)) :
    skippedAfter all stage.index = rest.map fun r => .skipped r.index r.name := by
  have hindex : stage.index = k := h.index 0 stage rfl
  rw [Chain.skippedAfter, hindex, ← List.drop_drop, h.behind]
  rfl

omit [Storage σ] in
theorem Placed.tail {k : Nat} (h : Placed all k (stage :: rest)) : Placed all (k + 1) rest := by
  refine ⟨?_, fun i r hr => ?_⟩
  · rw [← List.drop_drop, h.behind]
    rfl
  · rw [h.index (i + 1) r hr]
    omega

/-- What becomes of the stage at a place, if the clock was read so often before the run. -/
def outcomeAt (env : Environment σ) (readings failsAt i : Nat) (stage : Stage) (reply : Reply) :
    Outcome :=
  if failsAt < i then .skipped stage.index stage.name
  else
    let start := env.clock (readings + 2 * i)
    let stop := env.clock (readings + 2 * i + 1)
    match errorOf stage reply with
    | none => .completed stage.index stage.name start stop
    | some e => .failed stage.index stage.name start stop e

omit [Storage σ] in
theorem outcomeAt_succ (readings failsAt i : Nat) (reply : Reply) :
    outcomeAt env readings (failsAt + 1) (i + 1) stage reply
      = outcomeAt env (readings + 2) failsAt i stage reply := by
  simp only [outcomeAt, Nat.add_lt_add_iff_right, Nat.mul_add, Nat.mul_one]
  rw [Nat.add_comm (2 * i) 2, ← Nat.add_assoc]

omit [Storage σ] in
theorem map_eq_mapIdx_zip {α β γ : Type} (f : α → γ) {as : List α} {bs : List β}
    (h : bs.length = as.length) : as.map f = (as.zip bs).mapIdx fun _ x => f x.1 := by
  apply List.ext_getElem
  · simp [h]
  · intro i h₁ h₂
    simp

/-- **What becomes of the stages**, each by its place and its reply, if their indices are their
places. -/
theorem outcomes_runFrom {k : Nat} {r : ExecutionResult} (hp : Placed all k stages)
    (h : (runFrom env substrate all stages s).1 = .ok r) : r.outcomes
    = (stages.zip (replies substrate stages s.storage)).mapIdx fun i x =>
        outcomeAt env s.readings (failsAt substrate stages s.storage) i x.1 x.2 := by
  induction stages, s using run_induction env substrate all.length generalizing k r with
  | nil s =>
    cases h
    rfl
  | stops stage rest s hstops =>
    have hclear : ∀ f, (substrate.submit stage s.storage).1 ≠ .unclear f := by
      refine clear_of_runFrom h ?_
      rw [failsAt_cons_of_fails hstops, replies_cons, List.getElem?_cons_zero]
    obtain ⟨e, he, -, -⟩ := verdict_of_fails stage hstops hclear
    rw [runFrom_of_fails he, hp.skippedAfter] at h
    cases h
    rw [replies_cons, List.zip_cons_cons, List.mapIdx_cons, failsAt_cons_of_fails hstops]
    have hlen := length_replies substrate rest (tidied stage (substrate.submit stage s.storage).2)
    simp only [outcomeAt, errorOf, he, Nat.lt_irrefl, if_false, Nat.zero_lt_succ, if_true,
      Nat.mul_zero, Nat.add_zero]
    rw [map_eq_mapIdx_zip (fun r : Stage => Outcome.skipped r.index r.name) hlen]
  | succeeds stage rest s hsucceeds ih =>
    have hclear : ∀ f, (substrate.submit stage s.storage).1 ≠ .unclear f := by
      rintro f hf
      simp [hf, succeeds] at hsucceeds
    rw [runFrom_of_succeeds hsucceeds] at h
    generalize hrest : runFrom env substrate all rest _ = result at h
    obtain ⟨f | r', s'⟩ := result
    · cases h
    · cases h
      rw [replies_cons, List.zip_cons_cons, List.mapIdx_cons, failsAt_cons_of_succeeds hsucceeds]
      simp only [outcomeAt_succ]
      rw [ih hp.tail (congrArg Prod.fst hrest), storage_next, releaseInput_frame.2.1,
        readings_handled hclear]
      simp [outcomeAt, errorOf_of_succeeds hsucceeds]

/-- The error of a run is that of the first stage that fails. -/
theorem error_runFrom {r : ExecutionResult} (h : (runFrom env substrate all stages s).1 = .ok r) :
    r.error = (stages.zip (replies substrate stages s.storage))[failsAt substrate stages
      s.storage]?.bind fun x => errorOf x.1 x.2 := by
  induction stages, s using run_induction env substrate all.length generalizing r with
  | nil s =>
    cases h
    rfl
  | stops stage rest s hstops =>
    have hclear : ∀ f, (substrate.submit stage s.storage).1 ≠ .unclear f := by
      refine clear_of_runFrom h ?_
      rw [failsAt_cons_of_fails hstops, replies_cons, List.getElem?_cons_zero]
    obtain ⟨e, he, -, -⟩ := verdict_of_fails stage hstops hclear
    rw [runFrom_of_fails he] at h
    cases h
    rw [replies_cons, List.zip_cons_cons, failsAt_cons_of_fails hstops]
    simp [errorOf, he]
  | succeeds stage rest s hsucceeds ih =>
    rw [runFrom_of_succeeds hsucceeds] at h
    generalize hrest : runFrom env substrate all rest _ = result at h
    obtain ⟨f | r', s'⟩ := result
    · cases h
    · cases h
      rw [replies_cons, List.zip_cons_cons, failsAt_cons_of_succeeds hsucceeds]
      rw [ih (congrArg Prod.fst hrest), storage_next, List.getElem?_cons_succ]

end Run

end Chain

end StageChain
