import StageChain.Proofs.Memory
import StageChain.Proofs.RunLaw
import StageChain.Proofs.Wiring

/-!
# How long intermediates live

A run over a storage in memory releases an intermediate location as soon as the stage that reads it
has completed. Releasing deletes all that lies below a location, and the substrate adds locations in
between, so it is an invariant of the run, and not a property of a single step, that no stage misses
its input.

* `release_split`: **when a location is released**.
* `Swept`: the invariant; `Swept.submit`, `Swept.clear`: what a submission and a release do to it.
* `underway_storageAt`: **the invariant holds along the run**, up to the stage that fails.
* `lifetime_of_compose`: intermediates live from the stage that writes them to the one that reads
  them.
-/

namespace StageChain

namespace Chain

/-! ## When a location is released -/

/-- The stages that are submitted in a list of acts. -/
def submitted (acts : List Act) : List Stage :=
  acts.filterMap fun
    | .submit stage => some stage
    | _ => none

theorem submitted_append (as bs : List Act) : submitted (as ++ bs) = submitted as ++ submitted bs :=
  List.filterMap_append

theorem submitted_actsOfCompleted (stage : Stage) : submitted (actsOfCompleted stage) = [stage] := by
  unfold actsOfCompleted
  split <;> rfl

theorem submitted_actsOfFailed (stage : Stage) : submitted (actsOfFailed stage) = [stage] := rfl

theorem submitted_acts (k : Nat) (stages : List Stage) :
    submitted (acts k stages) = stages.take (k + 1) := by
  induction stages generalizing k with
  | nil => simp [acts, submitted]
  | cons stage rest ih =>
    cases k with
    | zero => rw [acts_cons_zero, submitted_actsOfFailed]; rfl
    | succ k =>
      rw [acts_cons_succ, submitted_append, submitted_actsOfCompleted, ih, List.take_succ_cons]
      rfl

/-- The release among the acts about a stage that completes. -/
theorem release_of_completed {stage : Stage} {t : String} {before after : List Act}
    (h : actsOfCompleted stage = before ++ .release t :: after) :
    stage.inputIsIntermediate = true ∧ t = stage.inputLocation ∧ submitted before = [stage] ∧
      after = [] := by
  unfold actsOfCompleted at h
  match before with
  | [] => simp at h
  | [_] => simp at h
  | [a, b] =>
    split at h
    · next hi =>
      simp only [List.cons_append, List.nil_append, List.cons.injEq, Act.release.injEq] at h
      obtain ⟨rfl, rfl, rfl, rfl⟩ := h
      exact ⟨hi, rfl, rfl, rfl⟩
    · simp at h
  | a :: b :: c :: rest =>
    split at h <;> simp at h

/-- **When a location is released**: after the stage that reads it has completed and before any other
stage is submitted. -/
theorem release_split {k : Nat} {stages : List Stage} {t : String} {before after : List Act}
    (h : acts k stages = before ++ .release t :: after) :
    ∃ j stage, stages[j]? = some stage ∧ j < k ∧ stage.inputIsIntermediate = true ∧
      t = stage.inputLocation ∧ submitted before = stages.take (j + 1) ∧
      submitted after = (stages.take (k + 1)).drop (j + 1) := by
  induction stages generalizing k before with
  | nil => simp [acts] at h
  | cons stage rest ih =>
    cases k with
    | zero =>
      have hm : Act.release t ∈ acts 0 (stage :: rest) := by rw [h]; simp
      rw [acts_cons_zero] at hm
      simp [actsOfFailed] at hm
    | succ k =>
      rw [acts_cons_succ] at h
      rcases List.append_eq_append_iff.1 h with ⟨before', rfl, h'⟩ | ⟨c, hc, h'⟩
      · -- the release is about one of the stages that follow
        obtain ⟨j, s, hj, hjk, hi, ht, hb, ha⟩ := ih h'
        refine ⟨j + 1, s, hj, by omega, hi, ht, ?_, ?_⟩
        · rw [submitted_append, submitted_actsOfCompleted, hb, List.take_succ_cons]; rfl
        · rw [ha, List.take_succ_cons, List.drop_succ_cons]
      · cases c with
        | nil =>
          -- nothing is released before a stage is submitted
          have h₀ : acts k rest = [] ++ .release t :: after := h'.symm
          obtain ⟨j, s, hj, -, -, -, hb, -⟩ := ih h₀
          obtain ⟨hlt, -⟩ := List.getElem?_eq_some_iff.1 hj
          have hlen := congrArg List.length hb
          rw [List.length_take] at hlen
          simp only [submitted, List.filterMap_nil, List.length_nil] at hlen
          omega
        | cons a c =>
          rw [List.cons_append, List.cons.injEq] at h'
          obtain ⟨rfl, rfl⟩ := h'
          obtain ⟨hi, ht, hb, rfl⟩ := release_of_completed hc
          refine ⟨0, stage, rfl, by omega, hi, ht, by rw [hb]; rfl, ?_⟩
          rw [List.nil_append, submitted_acts, List.take_succ_cons, List.drop_succ_cons,
            List.drop_zero]

/-- A stage that completes releases what it read. -/
theorem release_mem_acts {k j : Nat} {stages : List Stage} {stage : Stage}
    (hj : stages[j]? = some stage) (hjk : j < k) (hi : stage.inputIsIntermediate = true) :
    .release stage.inputLocation ∈ acts k stages := by
  have hm : stage ∈ stages.take k := by
    refine List.mem_of_getElem? (i := j) ?_
    rw [List.getElem?_take_of_lt hjk, hj]
  refine List.mem_append_left _ (List.mem_flatMap.2 ⟨stage, hm, ?_⟩)
  simp [actsOfCompleted, hi]

end Chain

/-! ## What is asked of pipelines and substrates -/

/-- What the stages of a pipeline write is apart from every intermediate location but their own. -/
def Pipeline.Separated (p : Pipeline) : Prop :=
  ∀ (i : Nat) (t : String), p.intermediates[i]? = some t →
    ∀ (j : Nat) (stage : Stage), p.stages[j]? = some stage → j ≠ i →
      isApart stage.outputLocation t = true

/-- Whether the stages and the intermediate locations are apart, place by place. -/
theorem Pipeline.separated_iff (p : Pipeline) : p.Separated ↔
    ∀ x ∈ p.intermediates.zipIdx, ∀ y ∈ p.stages.zipIdx, y.2 ≠ x.2 →
      isApart y.1.outputLocation x.1 = true := by
  constructor
  · rintro h ⟨t, i⟩ hx ⟨stage, j⟩ hy hne
    exact h i t (List.mem_zipIdx_iff_getElem?.1 hx) j stage (List.mem_zipIdx_iff_getElem?.1 hy) hne
  · intro h i t hi j stage hj hne
    exact h (t, i) (List.mem_zipIdx_iff_getElem?.2 hi) (stage, j)
      (List.mem_zipIdx_iff_getElem?.2 hj) hne

instance (p : Pipeline) : Decidable p.Separated := decidable_of_iff _ p.separated_iff.symm

/-- A substrate that adds the output of a stage that succeeds. It takes nothing out, and what else it
adds is apart from the intermediate locations that the stage does not write. -/
structure Substrate.Adds (substrate : Substrate MemoryStorage) (p : Pipeline) : Prop where
  output : ∀ stage ∈ p.stages, ∀ m : MemoryStorage,
    Chain.succeeds (substrate.submit stage m).1 = true →
      stage.outputLocation ∈ (substrate.submit stage m).2.locations
  keeps : ∀ stage ∈ p.stages, ∀ (m : MemoryStorage), ∀ l ∈ m.locations,
    l ∈ (substrate.submit stage m).2.locations
  adds : ∀ (j : Nat) (stage : Stage), p.stages[j]? = some stage → ∀ (m : MemoryStorage),
    ∀ l ∈ (substrate.submit stage m).2.locations, l ∈ m.locations ∨ l = stage.outputLocation ∨
      ∀ (i : Nat) (t : String), p.intermediates[i]? = some t → j ≠ i → isApart l t = true
  deleted : ∀ stage ∈ p.stages, ∀ m : MemoryStorage,
    (substrate.submit stage m).2.deleted = m.deleted
  faults : ∀ stage ∈ p.stages, ∀ m : MemoryStorage,
    (substrate.submit stage m).2.containsFault = m.containsFault ∧
      (substrate.submit stage m).2.eraseFault = m.eraseFault

/-- A dry run that marks outputs adds them and nothing else. -/
theorem Substrate.Adds.dryRun (p : Pipeline) : (Substrate.dryRun true).Adds p where
  output _ _ _ _ := MemoryStorage.mem_add.2 (.inr rfl)
  keeps _ _ _ _ hl := MemoryStorage.mem_add.2 (.inl hl)
  adds _ _ _ _ l hl := by
    rcases MemoryStorage.mem_add.1 hl with hl | hl
    · exact .inl hl
    · exact .inr (.inl hl)
  deleted _ _ _ := MemoryStorage.frame_add.1
  faults _ _ _ := MemoryStorage.frame_add.2

/-! ## The invariant -/

variable {p : Pipeline} {substrate : Substrate MemoryStorage} {m₀ m : MemoryStorage} {n j : Nat}
  {stage : Stage} {t : String}

/-- What becomes of a storage while the first so many intermediate locations are released: those at
which no fault comes up are deleted in order and gone, and what is apart from them stays. -/
structure Swept (p : Pipeline) (m₀ : MemoryStorage) (n : Nat) (m : MemoryStorage) : Prop where
  faults : m.containsFault = m₀.containsFault ∧ m.eraseFault = m₀.eraseFault
  deleted : m.deleted = m₀.deleted ++ (p.intermediates.take n).filter m₀.clears
  gone : ∀ t ∈ p.intermediates.take n, m₀.clears t = true → m.holds t = false
  kept : ∀ l ∈ m₀.locations,
    (∀ t ∈ p.intermediates.take n, m₀.clears t = true → isApart l t = true) → l ∈ m.locations

namespace Swept

theorem start : Swept p m₀ 0 m₀ := by
  refine ⟨⟨rfl, rfl⟩, by simp, by simp, fun l hl _ => hl⟩

theorem clears (h : Swept p m₀ n m) (t : String) : m.clears t = m₀.clears t := by
  rw [MemoryStorage.clears, MemoryStorage.clears, h.faults.1, h.faults.2]

/-- **A submission** brings no location back that was released before. -/
theorem submit (hsep : p.Separated) (ha : substrate.Adds p) (h : Swept p m₀ n m)
    (hj : p.stages[j]? = some stage) (hn : n ≤ j) : Swept p m₀ n (substrate.submit stage m).2 := by
  have hmem := List.mem_of_getElem? hj
  obtain ⟨hc, he⟩ := ha.faults stage hmem m
  refine ⟨⟨hc.trans h.faults.1, he.trans h.faults.2⟩, (ha.deleted stage hmem m).trans h.deleted,
    ?_, ?_⟩
  · intro t ht hclears
    rw [MemoryStorage.holds_eq_false_iff]
    intro l hl
    obtain ⟨i, hi⟩ := List.mem_iff_getElem?.1 ht
    obtain ⟨hin, hi⟩ : i < n ∧ p.intermediates[i]? = some t := by
      rwa [List.getElem?_take, Option.ite_none_right_eq_some] at hi
    have hne : j ≠ i := by omega
    rcases ha.adds j stage hj m l hl with hold | rfl | hnew
    · exact MemoryStorage.holds_eq_false_iff.1 (h.gone t ht hclears) l hold
    · exact hsep i t hi j stage hj hne
    · exact hnew i t hi hne
  · intro l hl hapart
    exact ha.keeps stage hmem m l (h.kept l hl hapart)

/-- **A release** of the next intermediate location, if it is held. -/
theorem clear (h : Swept p m₀ n m) (hn : p.intermediates[n]? = some t) (ht : m.holds t = true) :
    Swept p m₀ (n + 1) (Chain.cleared m t) := by
  have htake : p.intermediates.take (n + 1) = p.intermediates.take n ++ [t] := by
    rw [List.take_add_one, hn]; rfl
  obtain ⟨hc, he⟩ := MemoryStorage.faults_cleared m t
  refine ⟨⟨hc.trans h.faults.1, he.trans h.faults.2⟩, ?_, ?_, ?_⟩
  · have hfun : m.clears = m₀.clears := funext h.clears
    rw [MemoryStorage.deleted_cleared ht, h.deleted, hfun, htake, List.filter_append,
      List.append_assoc]
  · intro u hu hclears
    rw [htake, List.mem_append, List.mem_singleton] at hu
    rcases hu with hu | rfl
    · rw [MemoryStorage.holds_eq_false_iff]
      intro l hl
      exact MemoryStorage.holds_eq_false_iff.1 (h.gone u hu hclears) l
        (MemoryStorage.mem_of_mem_cleared hl)
    · exact MemoryStorage.holds_cleared ((h.clears u).trans hclears)
  · intro l hl hapart
    rw [htake] at hapart
    refine MemoryStorage.mem_cleared (h.kept l hl fun u hu => hapart u (by simp [hu])) ?_
    intro hclears
    exact hapart t (by simp) ((h.clears t).symm.trans hclears)

/-- The end of a stage that completes: the intermediate location that it read is released. -/
theorem tidied (hp : p.Linked) (hj : p.stages[j]? = some stage) (h : Swept p m₀ (j - 1) m)
    (hin : 0 < j → m.holds stage.inputLocation = true) : Swept p m₀ j (Chain.tidied stage m) := by
  rw [Chain.tidied, hp.isIntermediate j stage hj]
  cases j with
  | zero => simpa using h
  | succ i =>
    rw [if_pos (by simp)]
    exact h.clear (hp.input i stage hj) (hin (by omega))

end Swept

/-- A run before the stage at a place is submitted: the locations up to its input are released, and
its input is there. -/
structure Underway (p : Pipeline) (m₀ : MemoryStorage) (j : Nat) (m : MemoryStorage) : Prop where
  swept : Swept p m₀ (j - 1) m
  input : ∀ stage, p.stages[j]? = some stage → 0 < j → stage.inputLocation ∈ m.locations

/-- **The invariant holds along a run**, up to the first stage that fails. -/
theorem underway_storageAt (hp : p.Linked) (hsep : p.Separated) (ha : substrate.Adds p)
    (hj : j ≤ Chain.failsAt substrate p.stages m₀) :
    Underway p m₀ j (Chain.storageAt substrate p.stages m₀ j) := by
  induction j with
  | zero => exact ⟨Swept.start, fun _ _ h => absurd h (by omega)⟩
  | succ j ih =>
    obtain ⟨hswept, hinput⟩ := ih (by omega)
    have hlt : j < p.stages.length := by
      have := Chain.failsAt_le substrate p.stages m₀
      omega
    have hstage := List.getElem?_eq_getElem hlt
    set stage := p.stages[j]
    have hmem := List.mem_of_getElem? hstage
    rw [Chain.storageAt_succ substrate hstage]
    set m := Chain.storageAt substrate p.stages m₀ j
    have hin (h0 : 0 < j) : stage.inputLocation ∈ (substrate.submit stage m).2.locations :=
      ha.keeps stage hmem m _ (hinput stage hstage h0)
    refine ⟨?_, ?_⟩
    · exact (hswept.submit hsep ha hstage (by omega)).tidied hp hstage fun h0 =>
        MemoryStorage.holds_of_mem (hin h0)
    · -- what the next stage reads was just written and is apart from what was released
      intro next hnext _
      have hout : next.inputLocation = stage.outputLocation := by
        have h₁ := hp.input j next hnext
        have h₂ := hp.output j stage hstage (List.getElem?_eq_some_iff.1 hnext).1
        exact Option.some.inj (h₁.symm.trans h₂)
      have hwritten := ha.output stage hmem m (Chain.succeeds_of_lt_failsAt hstage hj)
      rw [hout, Chain.tidied, hp.isIntermediate j stage hstage]
      cases j with
      | zero => simpa using hwritten
      | succ i =>
        rw [if_pos (by simp)]
        exact MemoryStorage.mem_cleared hwritten fun _ =>
          hsep i _ (hp.input i stage hstage) (i + 1) stage hstage (by omega)

/-! ## The lifetime of intermediates -/

namespace Chain

/-- What the stages of a composed pipeline but the first one read. -/
theorem inputs_take (hp : p.Linked) (k : Nat) :
    ((p.stages.take k).drop 1).map (·.inputLocation) = p.intermediates.take (k - 1) := by
  apply List.ext_getElem?
  intro i
  rw [List.getElem?_map, List.getElem?_drop, List.getElem?_take, List.getElem?_take]
  by_cases hi : 1 + i < k
  · rw [if_pos hi, if_pos (by omega), Nat.add_comm 1 i]
    cases hs : p.stages[i + 1]? with
    | some stage => rw [hp.input i stage hs]; rfl
    | none =>
      rw [List.getElem?_eq_none_iff] at hs
      rw [List.getElem?_eq_none (by rw [hp.length]; omega)]; rfl
  · rw [if_neg hi, if_neg (by omega)]; rfl

variable (env : Environment MemoryStorage) (substrate : Substrate MemoryStorage) (p : Pipeline)
  (s : Session MemoryStorage)

/-- **Intermediates live exactly as long as they are needed**, in a run whose first failing stage is
at a certain place. -/
structure Lifetime (failsAt : Nat) : Prop where
  /-- What is done, in order. -/
  acts : (run env substrate p s).2
    = (acts failsAt p.stages).foldl (Act.perform env substrate p.size) s
  /-- No stage misses its input when it is submitted. -/
  present : ∀ x ∈ (run env substrate p s).2.submissions.drop s.submissions.length,
    0 < x.stage.index → x.storage.holds x.stage.inputLocation = true
  /-- An intermediate location is released if and only if the stage that reads it completes. By then
  the stages up to that one were submitted, and those that follow it were not. -/
  released : ∀ (i : Nat) (t : String), p.intermediates[i]? = some t →
    (.release t ∈ Chain.acts failsAt p.stages ↔ i + 1 < failsAt) ∧
    ∀ before after : List Act, Chain.acts failsAt p.stages = before ++ .release t :: after →
      submitted before = p.stages.take (i + 2) ∧
      submitted after = (p.stages.take (failsAt + 1)).drop (i + 2)
  /-- A run in which every stage completes leaves no intermediate location but by a fault. -/
  swept : ∀ r, (run env substrate p s).1 = .ok r → r.success = true → ∀ t ∈ p.intermediates,
    s.storage.clears t = true → (run env substrate p s).2.storage.holds t = false
  /-- The input of the stage that fails is still there. -/
  standing : ∀ stage, p.stages[failsAt]? = some stage → 0 < failsAt →
    (run env substrate p s).2.storage.holds stage.inputLocation = true
  /-- What is deleted are the inputs of the stages that completed, the first one apart, but for
  those at which a fault comes up. -/
  deleted : (run env substrate p s).2.storage.deleted = s.storage.deleted
    ++ (((p.stages.take failsAt).drop 1).map (·.inputLocation)).filter s.storage.clears
  /-- What is apart from all that is still there. -/
  kept : ∀ l ∈ s.storage.locations,
    (∀ t ∈ ((p.stages.take failsAt).drop 1).map (·.inputLocation),
      s.storage.clears t = true → isApart l t = true) →
    l ∈ (run env substrate p s).2.storage.locations

variable {substrate p}

/-- What a run leaves behind. -/
theorem swept_run (hp : p.Linked) (hsep : p.Separated) (ha : substrate.Adds p) :
    Swept p s.storage (failsAt substrate p.stages s.storage - 1) (run env substrate p s).2.storage ∧
    ∀ stage, p.stages[failsAt substrate p.stages s.storage]? = some stage →
      0 < failsAt substrate p.stages s.storage →
      (run env substrate p s).2.storage.holds stage.inputLocation = true := by
  obtain ⟨hswept, hinput⟩ := underway_storageAt hp hsep ha (Nat.le_refl _)
  rw [run, storage_runFrom]
  cases hk : p.stages[failsAt substrate p.stages s.storage]? with
  | some stage =>
    refine ⟨hswept.submit hsep ha hk (by omega), ?_⟩
    rintro _ ⟨⟩ h0
    exact MemoryStorage.holds_of_mem
      (ha.keeps stage (List.mem_of_getElem? hk) _ _ (hinput stage hk h0))
  | none =>
    have hle := failsAt_le substrate p.stages s.storage
    rw [List.getElem?_eq_none_iff] at hk
    rw [Nat.le_antisymm hle hk] at hswept ⊢
    exact ⟨hswept, by simp⟩

theorem released_acts (hp : p.Linked) {k i : Nat} {t : String} (hk : k ≤ p.stages.length)
    (hi : p.intermediates[i]? = some t) :
    (.release t ∈ acts k p.stages ↔ i + 1 < k) ∧
    ∀ before after : List Act, acts k p.stages = before ++ .release t :: after →
      submitted before = p.stages.take (i + 2) ∧
      submitted after = (p.stages.take (k + 1)).drop (i + 2) := by
  -- a release of the location can only be that after the stage that reads it
  have hsplit (before after : List Act) (h : acts k p.stages = before ++ .release t :: after) :
      i + 1 < k ∧ submitted before = p.stages.take (i + 2) ∧
        submitted after = (p.stages.take (k + 1)).drop (i + 2) := by
    obtain ⟨j, stage, hj, hjk, hint, rfl, hb, ha⟩ := release_split h
    rw [hp.isIntermediate j stage hj, decide_eq_true_eq] at hint
    obtain ⟨j, rfl⟩ : ∃ j', j = j' + 1 := ⟨j - 1, by omega⟩
    obtain ⟨hlt, hi'⟩ := List.getElem?_eq_some_iff.1 hi
    obtain ⟨hlt', hj'⟩ := List.getElem?_eq_some_iff.1 (hp.input j stage hj)
    obtain rfl : i = j := hp.nodup.getElem_inj_iff.1 (hi'.trans hj'.symm)
    exact ⟨hjk, hb, ha⟩
  refine ⟨⟨?_, ?_⟩, fun before after h => (hsplit before after h).2⟩
  · intro hm
    obtain ⟨before, after, h⟩ := List.append_of_mem hm
    exact (hsplit before after h).1
  · intro hik
    have hstage := List.getElem?_eq_getElem (l := p.stages) (show i + 1 < p.stages.length by omega)
    have hin : p.stages[i + 1].inputLocation = t :=
      Option.some.inj ((hp.input i _ hstage).symm.trans hi)
    rw [← hin]
    exact release_mem_acts hstage hik (by rw [hp.isIntermediate _ _ hstage]; simp)

theorem present_submissions (hp : p.Linked) (hsep : p.Separated) (ha : substrate.Adds p) :
    ∀ x ∈ (run env substrate p s).2.submissions.drop s.submissions.length,
      0 < x.stage.index → x.storage.holds x.stage.inputLocation = true := by
  intro x hx h0
  rw [run, submissions_runFrom, List.drop_left] at hx
  obtain ⟨i, hi⟩ := List.mem_iff_getElem?.1 hx
  obtain ⟨stage, m, hstage, hm, rfl⟩ := List.getElem?_zipWith_eq_some.1 hi
  rw [List.getElem?_take, Option.ite_none_right_eq_some] at hstage
  obtain ⟨hik, hstage⟩ := hstage
  rw [getElem?_storages substrate (List.getElem?_eq_some_iff.1 hstage).1] at hm
  obtain rfl := Option.some.inj hm
  have hunder := underway_storageAt hp hsep ha (Nat.le_of_lt_succ hik)
  have hpos : 0 < i := by rwa [← hp.index i stage hstage]
  exact MemoryStorage.holds_of_mem (hunder.input stage hstage hpos)

/-- **Intermediates live exactly as long as they are needed.** Take a pipeline that was composed and
whose stages write apart from each other's intermediate locations, and a substrate that adds what the
stages write. Whatever is in the storage, at whichever locations faults come up and whichever stage
fails, no stage misses its input, and what is deleted are the inputs of the stages that completed. -/
theorem lifetime_of_compose {σ : Type} [Storage σ] {env₀ : Environment σ} {root : String}
    {plans : List Plan} {e : Endpoints} {s₀ s₁ : Session σ}
    (hp : Wiring.compose env₀ root plans e s₀ = (.ok p, s₁)) (hsep : p.Separated)
    (ha : substrate.Adds p) (env : Environment MemoryStorage) (s : Session MemoryStorage) :
    Lifetime env substrate p s (failsAt substrate p.stages s.storage) := by
  have hl := Wiring.linked_of_compose hp
  obtain ⟨hswept, hstanding⟩ := swept_run env s hl hsep ha
  have hinputs := inputs_take hl (failsAt substrate p.stages s.storage)
  refine ⟨runFrom_snd, present_submissions env s hl hsep ha, ?_, ?_, hstanding, ?_, ?_⟩
  · intro i t hi
    exact released_acts hl (failsAt_le substrate p.stages s.storage) hi
  · intro r hr hsuccess t ht hclears
    refine hswept.gone t ?_ hclears
    have hk : failsAt substrate p.stages s.storage = p.stages.length :=
      (success_iff hr).1 hsuccess
    have hlen := hl.length
    rwa [List.take_of_length_le (by omega)]
  · rw [hinputs]; exact hswept.deleted
  · rw [hinputs]; exact hswept.kept

/-- The three stages of the sample, run dry: the source is still there, and both intermediate
locations are deleted. -/
theorem lifetime_of_compose_sample : ∃ p s₁,
    Wiring.compose (.counting MemoryStorage) "" sampleFusion.plans .sample (.start (.ofList ["in"]))
      = (.ok p, s₁) ∧
    p.Separated ∧ (Substrate.dryRun true).Adds p ∧
    Lifetime (.counting _) (.dryRun true) p (.start (.ofList ["in"])) 3 ∧
    (run (.counting _) (.dryRun true) p (.start (.ofList ["in"]))).2.storage.deleted
      = ["tmp-0", "tmp-1"] := by
  have hc : Wiring.compose (.counting MemoryStorage) "" sampleFusion.plans .sample
    (.start (.ofList ["in"])) = (.ok _, _) := rfl
  have h := lifetime_of_compose hc (by decide) (.dryRun _) (.counting _)
    (.start (.ofList ["in"]))
  exact ⟨_, _, hc, by decide, .dryRun _, h, h.deleted⟩

end Chain

end StageChain
