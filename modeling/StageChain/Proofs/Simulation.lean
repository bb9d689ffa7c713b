import StageChain.Proofs.Source

/-!
# Runs that cannot be told apart

A run looks at a storage only where it clears a location and where it hands a stage over. Two runs
in storages that answer alike there come to the same: the same results, names, records and notices,
and the same stages handed over. What "alike" means is left open here: it is any relation between
storages that the answers respect and that clearing and handing over keep.

* `Storage.Respects`, `Substrate.Respects`: what a relation has to do with a location and a
  substrate.
* `Session.Alike`, `Agree`: sessions, and what came of them, that differ in their storages alone.
* `agree_clear`: clearing a location; leasing, composing and running stages build on it.
* `Draft.touched`: **the locations that a run may clear.**
* `Draft.agree_run`: **runs agree** if the locations that they may clear and the substrate do not
  tell their storages apart.
-/

namespace StageChain

variable {σ : Type} {R : σ → σ → Prop}

/-- A location at which related storages answer alike, and stay related if it is deleted. -/
structure Storage.Respects [Storage σ] (R : σ → σ → Prop) (location : String) : Prop where
  contains {m m' : σ} (h : R m m') : contains m' location = contains m location
  erase {m m' : σ} (h : R m m') : (erase m' location true).1 = (erase m location true).1 ∧
    R (erase m location true).2 (erase m' location true).2

/-- A substrate that replies alike in related storages, and leaves them related. -/
def Substrate.Respects (substrate : Substrate σ) (R : σ → σ → Prop) : Prop :=
  ∀ stage m m', R m m' → (substrate.submit stage m').1 = (substrate.submit stage m).1 ∧
    R (substrate.submit stage m).2 (substrate.submit stage m').2

/-! ## Sessions that are alike -/

/-- **Sessions that are alike**: only their storages differ, and those are related, now and at every
submission. -/
structure Session.Alike (R : σ → σ → Prop) (s t : Session σ) : Prop where
  storage : R s.storage t.storage
  drawn : t.drawn = s.drawn
  readings : t.readings = s.readings
  journal : t.journal = s.journal
  submissions : List.Forall₂ (fun x y => y.stage = x.stage ∧ R x.storage y.storage)
    s.submissions t.submissions
  events : t.events = s.events

/-- **Two steps agree** if they come to the same and leave sessions that are alike. -/
structure Agree {α : Type} (R : σ → σ → Prop) (r r' : α × Session σ) : Prop where
  result : r'.1 = r.1
  session : r.2.Alike R r'.2

/-- Steps that agree have one result between them. -/
theorem Agree.elim {α : Type} {r r' : α × Session σ} (h : Agree R r r') :
    ∃ a s t, r = (a, s) ∧ r' = (a, t) ∧ s.Alike R t :=
  ⟨r.1, r.2, r'.2, rfl, Prod.ext h.result rfl, h.session⟩

namespace Session.Alike

variable {s t : Session σ}

theorem start {m m' : σ} (h : R m m') : (Session.start m).Alike R (.start m') :=
  ⟨h, rfl, rfl, rfl, .nil, rfl⟩

theorem noteAll (h : s.Alike R t) (rs : List LogRecord) :
    (s.noteAll rs).Alike R (t.noteAll rs) where
  __ := h
  journal := by rw [Session.noteAll, Session.noteAll, h.journal]

theorem note (h : s.Alike R t) (r : LogRecord) : (s.note r).Alike R (t.note r) := h.noteAll [r]

theorem draw (h : s.Alike R t) (env : Environment σ) : Agree R (s.draw env) (t.draw env) where
  result := by rw [Session.draw, Session.draw, h.drawn]
  session := { h with drawn := congrArg (· + 1) h.drawn }

theorem read (h : s.Alike R t) (env : Environment σ) : Agree R (s.read env) (t.read env) where
  result := by rw [Session.read, Session.read, h.readings]
  session := { h with readings := congrArg (· + 1) h.readings }

/-- A storage may be exchanged for a related one. -/
theorem withStorage (h : s.Alike R t) {m m' : σ} (hm : R m m') :
    ({ s with storage := m } : Session σ).Alike R { t with storage := m' } :=
  { h with storage := hm }

/-- **Clearing** a location that tells nothing apart. -/
theorem agree_clear [Storage σ] {location : String} (hr : Storage.Respects R location)
    (h : s.Alike R t) : Agree R (s.clear location) (t.clear location) := by
  unfold Session.clear
  rw [hr.contains h.storage]
  cases Storage.contains s.storage location with
  | error f => exact ⟨rfl, h⟩
  | ok there =>
    cases there with
    | false => exact ⟨rfl, h⟩
    | true =>
      obtain ⟨hresult, hstorage⟩ := hr.erase h.storage
      generalize Storage.erase s.storage location true = r,
        Storage.erase t.storage location true = r' at hresult hstorage ⊢
      obtain ⟨result, m⟩ := r
      obtain ⟨result', m'⟩ := r'
      obtain rfl : result' = result := hresult
      cases result' <;> exact ⟨rfl, h.withStorage hstorage⟩

end Session.Alike

/-! ## Leases -/

namespace Leases

variable (env : Environment σ) {s t : Session σ}

theorem agree_acquire (h : s.Alike R t) (l : Leases) :
    (l.acquire env t).1 = (l.acquire env s).1 ∧
      Agree R (l.acquire env s).2 (l.acquire env t).2 := by
  unfold acquire
  obtain ⟨name, s₁, t₁, hs, ht, h₁⟩ := (h.draw env).elim
  rw [hs, ht]
  cases name with
  | error f => exact ⟨rfl, rfl, h₁⟩
  | ok name =>
    simp only
    obtain ⟨lease, l'⟩ := l.take name
    cases lease with
    | error f => exact ⟨rfl, rfl, h₁⟩
    | ok location => exact ⟨rfl, rfl, h₁.note _⟩

/-- **Leasing** does not look at the storage. -/
theorem agree_acquireAll (h : s.Alike R t) (n : Nat) (l : Leases) :
    (acquireAll env n l t).1 = (acquireAll env n l s).1 ∧
      Agree R (acquireAll env n l s).2 (acquireAll env n l t).2 := by
  induction n generalizing l s t with
  | zero => exact ⟨rfl, rfl, h⟩
  | succ n ih =>
    obtain ⟨hlease, hagree⟩ := agree_acquire env h l
    obtain ⟨l', s₁, t₁, hs, ht, h₁⟩ := hagree.elim
    rw [acquireAll, acquireAll]
    generalize l.acquire env t = r', l.acquire env s = r at hlease hs ht ⊢
    obtain ⟨lease', _⟩ := r'
    obtain ⟨lease, _⟩ := r
    obtain rfl : lease' = lease := hlease
    obtain rfl := hs
    obtain rfl := ht
    cases lease' with
    | error f => exact ⟨rfl, rfl, h₁⟩
    | ok location => exact ih h₁ l'

theorem acquire_congr (h : t.drawn = s.drawn) (l : Leases) :
    (l.acquire env t).1 = (l.acquire env s).1 ∧
      (l.acquire env t).2.1 = (l.acquire env s).2.1 ∧
      (l.acquire env t).2.2.drawn = (l.acquire env s).2.2.drawn := by
  unfold acquire Session.draw
  rw [h]
  cases env.names s.drawn with
  | error f => exact ⟨rfl, rfl, rfl⟩
  | ok name =>
    simp only
    obtain ⟨lease, l'⟩ := l.take name
    cases lease <;> exact ⟨rfl, rfl, rfl⟩

/-- What is leased depends on how many names were drawn before, and on nothing else of a session. -/
theorem held_acquireAll_congr (h : t.drawn = s.drawn) (n : Nat) (l : Leases) :
    (acquireAll env n l t).2.1 = (acquireAll env n l s).2.1 := by
  induction n generalizing l s t with
  | zero => rfl
  | succ n ih =>
    obtain ⟨hlease, hheld, hdrawn⟩ := acquire_congr env h l
    rw [acquireAll, acquireAll]
    generalize l.acquire env t = r', l.acquire env s = r at hlease hheld hdrawn ⊢
    obtain ⟨lease', l', t₁⟩ := r'
    obtain ⟨lease, l₁, s₁⟩ := r
    obtain rfl : lease' = lease := hlease
    obtain rfl : l' = l₁ := hheld
    cases lease' with
    | error f => rfl
    | ok location => exact ih hdrawn l'

variable [Storage σ]

/-- **Releasing** a location that tells nothing apart. -/
theorem agree_release {location : String} (hr : Storage.Respects R location) (h : s.Alike R t)
    (l : Leases) : (l.release location t).1 = (l.release location s).1 ∧
      Agree R (l.release location s).2 (l.release location t).2 := by
  obtain ⟨cleared, s₁, t₁, hs, ht, h₁⟩ := (h.agree_clear hr).elim
  rw [release, release, hs, ht]
  rcases cleared with f | _ | _
  · exact ⟨rfl, rfl, h₁.note _⟩
  · exact ⟨rfl, rfl, h₁⟩
  · exact ⟨rfl, rfl, h₁.note _⟩

/-- Releasing locations that tell nothing apart, one after the other. -/
theorem agree_releaseEach {locations : List String}
    (hr : ∀ location ∈ locations, Storage.Respects R location) (h : s.Alike R t) (l : Leases) :
    (releaseEach locations l t).1 = (releaseEach locations l s).1 ∧
      Agree R (releaseEach locations l s).2 (releaseEach locations l t).2 := by
  induction locations generalizing l s t with
  | nil => exact ⟨rfl, rfl, h⟩
  | cons location rest ih =>
    rw [List.forall_mem_cons] at hr
    obtain ⟨hfault, hagree⟩ := agree_release hr.1 h l
    obtain ⟨hfaults, hrest⟩ := ih hr.2 hagree.session (l.release location s).2.1
    simp only [releaseEach]
    rw [hagree.result, hfault, hfaults]
    exact ⟨rfl, hrest⟩

/-- A rollback of leases that tell nothing apart. -/
theorem alike_rollback (l : Leases) (hr : ∀ location ∈ l.held, Storage.Respects R location)
    (h : s.Alike R t) : (Wiring.rollback l s).Alike R (Wiring.rollback l t) := by
  obtain ⟨hfaults, hagree⟩ := agree_releaseEach hr h l
  simp only [Wiring.rollback, releaseAll, hfaults]
  split
  · exact hagree.session
  · exact hagree.session.note _

end Leases

/-! ## Composing -/

namespace Wiring

variable [Storage σ] {env : Environment σ} {root : String} {plans : List Plan} {e : Endpoints}
  {s t s' : Session σ} {p : Pipeline}

/-- The intermediate locations of a pipeline are what was leased for it. -/
theorem intermediates_of_compose (h : compose env root plans e s = (.ok p, s')) :
    p.intermediates = (Leases.acquireAll env (plans.length - 1) (.start root) s).2.1.held := by
  unfold compose at h
  split at h
  case isTrue hnil =>
    obtain rfl : plans = [] := by simpa using hnil
    cases h
    rfl
  case isFalse =>
    split at h
    · cases h
    · simp only at h
      split at h
      · cases h
      · next ha =>
        split at h
        · cases h
        · cases h
          exact (congrArg (·.2.1.held) ha).symm

/-- Composing ends with the first lease that is refused. -/
theorem compose_of_unleased {source : String} {f : Fault} {l : Leases} {s₁ : Session σ}
    (hne : plans.isEmpty = false) (hsource : checkSource e = .ok source)
    (ha : Leases.acquireAll env (plans.length - 1) (.start root) s = (some f, l, s₁)) :
    compose env root plans e s = (.error (failureOf f), rollback l s₁) := by
  unfold compose
  rw [if_neg (by simp [hne]), hsource]
  simp only
  split
  case h_1 ha' => rw [ha'] at ha; cases ha; rfl
  case h_2 ha' => rw [ha'] at ha; cases ha

/-- Once the leases are held, composing asks for the sink alone, and what pipeline it makes is
settled by the leases and the format of the sink. -/
theorem compose_of_leased {source : String} {l : Leases} (root : String)
    (hne : plans.isEmpty = false) (hsource : checkSource e = .ok source)
    (hlength : l.held.length = plans.length - 1) :
    ∃ p : String → Pipeline, ∀ (env : Environment σ) (s s₁ : Session σ),
      Leases.acquireAll env (plans.length - 1) (.start root) s = (none, l, s₁) →
      compose env root plans e s = match checkSink (sinkOf e (isDerivation plans)) with
        | .error err => (.error (sinkFailure err), rollback l s₁)
        | .ok sink => (.ok (p sink), s₁.note (composedRecord (p sink))) := by
  refine ⟨fun sink =>
    { stages := wire e.properties ⟨(sinkOf e (isDerivation plans)).location.getD "", sink⟩ 0
        ⟨e.sourceLocation.getD "", source⟩ plans l.held
      intermediates := l.held
      isDerivation := isDerivation plans
      intermediates_length := fun _ => by rw [wire_length, hlength] }, ?_⟩
  intro env s s₁ ha
  unfold compose
  rw [if_neg (by simp [hne]), hsource]
  simp only
  split
  case h_1 ha' => rw [ha'] at ha; cases ha
  case h_2 ha' => rw [ha'] at ha; cases ha; rfl

/-- **Composing** agrees if the locations that it leases tell nothing apart. -/
theorem agree_compose (hr : ∀ source, checkSource e = .ok source →
      ∀ l ∈ (Leases.acquireAll env (plans.length - 1) (.start root) s).2.1.held,
        Storage.Respects R l)
    (h : s.Alike R t) : Agree R (compose env root plans e s) (compose env root plans e t) := by
  cases hne : plans.isEmpty with
  | true =>
    unfold compose
    rw [if_pos hne, if_pos hne]
    exact ⟨rfl, h⟩
  | false =>
    cases hsource : checkSource e with
    | error err =>
      unfold compose
      rw [if_neg (by simp [hne]), if_neg (by simp [hne]), hsource]
      exact ⟨rfl, h⟩
    | ok source =>
      obtain ⟨hfault, hagree⟩ := Leases.agree_acquireAll env h (plans.length - 1) (.start root)
      obtain ⟨l, s₁, t₁, hs, ht, h₁⟩ := hagree.elim
      replace hr := hr source hsource
      rw [hs] at hr
      cases hf : (Leases.acquireAll env (plans.length - 1) (.start root) s).1 with
      | some f =>
        rw [compose_of_unleased hne hsource (Prod.ext hf hs),
          compose_of_unleased hne hsource (Prod.ext (hfault.trans hf) ht)]
        exact ⟨rfl, Leases.alike_rollback l hr h₁⟩
      | none =>
        have ha : Leases.acquireAll env (plans.length - 1) (.start root) s = (none, l, s₁) :=
          Prod.ext hf hs
        have hlength : l.held.length = plans.length - 1 := by
          rw [Leases.acquireAll_length ha]
          simp [Leases.start]
        obtain ⟨p, hp⟩ := @compose_of_leased σ _ _ _ _ _ root hne hsource hlength
        rw [hp env s s₁ ha, hp env t t₁ (Prod.ext (hfault.trans hf) ht)]
        cases checkSink (sinkOf e (isDerivation plans)) with
        | error err => exact ⟨rfl, Leases.alike_rollback l hr h₁⟩
        | ok sink => exact ⟨rfl, h₁.note _⟩

end Wiring

/-! ## Stages -/

namespace Chain

variable (env : Environment σ) {substrate : Substrate σ} {s t : Session σ}

theorem alike_announce (count : Nat) (stage : Stage) (h : s.Alike R t) :
    (announce env count stage s).Alike R (announce env count stage t) := by
  unfold announce
  cases env.progress with
  | none => exact h.note _
  | some tell =>
    have htold (r : LogRecord) (event : ProgressEvent) :
        ({ s.note r with events := s.events ++ [event] } : Session σ).Alike R
          { t.note r with events := t.events ++ [event] } :=
      { h.note r with events := by rw [h.events] }
    simp only
    cases tell ⟨stage.index, count, stage.name⟩ with
    | none => exact htold _ _
    | some f => exact (htold _ _).note _

/-- **Handing a stage over** to a substrate that tells nothing apart. -/
theorem agree_submit (hsubstrate : substrate.Respects R) (stage : Stage) (h : s.Alike R t) :
    Agree R (submit substrate stage s) (submit substrate stage t) := by
  obtain ⟨hreply, hstorage⟩ := hsubstrate stage _ _ h.storage
  have hhanded (m m' : σ) (hm : R m m') :
      ({ s.noteAll (substrate.notes stage) with
          submissions := s.submissions ++ [⟨stage, s.storage⟩], storage := m } : Session σ).Alike R
        { t.noteAll (substrate.notes stage) with
          submissions := t.submissions ++ [⟨stage, t.storage⟩], storage := m' } :=
    { (h.noteAll (substrate.notes stage)).withStorage hm with
      submissions := List.rel_append h.submissions (.cons ⟨rfl, h.storage⟩ .nil) }
  exact ⟨congrArg (verdict stage) hreply, hhanded _ _ hstorage⟩

variable [Storage σ]

theorem alike_releaseInput {stage : Stage}
    (hr : stage.inputIsIntermediate = true → Storage.Respects R stage.inputLocation)
    (h : s.Alike R t) : (releaseInput stage s).Alike R (releaseInput stage t) := by
  unfold releaseInput
  split
  · next hintermediate => exact (Leases.agree_release (hr hintermediate) h _).2.session
  · exact h

/-- **Running stages** agrees if neither the substrate nor the locations that are released tell
anything apart. -/
theorem agree_runFrom (hsubstrate : substrate.Respects R) (all : List Stage) {stages : List Stage}
    (hr : ∀ stage ∈ stages, stage.inputIsIntermediate = true →
      Storage.Respects R stage.inputLocation) (h : s.Alike R t) :
    Agree R (runFrom env substrate all stages s) (runFrom env substrate all stages t) := by
  induction stages generalizing s t with
  | nil => exact ⟨rfl, h⟩
  | cons stage rest ih =>
    rw [List.forall_mem_cons] at hr
    -- both runs read the clock equally often, so it shows the same to both
    obtain ⟨start, s₁, t₁, hs, ht, h₁⟩ := ((alike_announce env all.length stage h).read env).elim
    obtain ⟨verdict, s₂, t₂, hs₂, ht₂, h₂⟩ := (agree_submit hsubstrate stage h₁).elim
    simp only [runFrom, hs, ht, hs₂, ht₂]
    rcases verdict with f | _ | e
    · exact ⟨rfl, h₂⟩
    · obtain ⟨stop, s₃, t₃, hs₃, ht₃, h₃⟩ := (h₂.read env).elim
      simp only [hs₃, ht₃]
      obtain ⟨result, s₄, t₄, hs₄, ht₄, h₄⟩ := (ih hr.2 (alike_releaseInput hr.1
        (h₃.note (completedRecord stage all.length (elapsed start stop))))).elim
      simp only [hs₄, ht₄]
      cases result <;> exact ⟨rfl, h₄⟩
    · obtain ⟨stop, s₃, t₃, hs₃, ht₃, h₃⟩ := (h₂.read env).elim
      simp only [hs₃, ht₃]
      exact ⟨rfl, h₃.note _⟩

/-- Running a pipeline agrees if neither the substrate nor the intermediate locations tell anything
apart. -/
theorem agree_run (hsubstrate : substrate.Respects R) {p : Pipeline} (hp : p.Linked)
    (hr : ∀ l ∈ p.intermediates, Storage.Respects R l) (h : s.Alike R t) :
    Agree R (run env substrate p s) (run env substrate p t) := by
  refine agree_runFrom env hsubstrate p.stages ?_ h
  intro stage hstage hintermediate
  obtain ⟨i, hi⟩ := List.mem_iff_getElem?.1 hstage
  cases i with
  | zero => simp [hp.isIntermediate 0 stage hi] at hintermediate
  | succ i => exact hr _ (List.mem_of_getElem? (hp.input i stage hi))

end Chain

/-! ## Runs of a draft -/

namespace Draft

/-- The locations that a run of a draft leases. -/
def leases (env : Environment σ) (d : Draft) (s : Session σ) : List String :=
  match d.plans, Wiring.checkSource d.settings.endpoints with
  | .ok plans, .ok _ =>
    (Leases.acquireAll env (plans.length - 1) (.start d.settings.intermediateRoot) s).2.1.held
  | _, _ => []

/-- **The locations that a run may clear**: those that it leases, and the sink that it overwrites.
-/
def touched (env : Environment σ) (d : Draft) (s : Session σ) : List String :=
  d.leases env s ++ d.overwrites?.toList

variable {env : Environment σ} {d : Draft} {s t s' : Session σ} {p : Pipeline}

/-- What a run leases depends on how many names were drawn before it, and not on what was logged. -/
theorem leases_noteAll (env : Environment σ) (d : Draft) (s : Session σ) (rs : List LogRecord) :
    d.leases env (s.noteAll rs) = d.leases env s := by
  unfold leases
  split
  · rw [Leases.held_acquireAll_congr env (show (s.noteAll rs).drawn = s.drawn from rfl)]
  · rfl

theorem leases_note (env : Environment σ) (d : Draft) (s : Session σ) (r : LogRecord) :
    d.leases env (s.note r) = d.leases env s := leases_noteAll env d s [r]

theorem leases_eq {plans : List Plan} {source : String} (hplans : d.plans = .ok plans)
    (hsource : Wiring.checkSource d.settings.endpoints = .ok source) (s : Session σ) :
    d.leases env s = (Leases.acquireAll env (plans.length - 1)
      (.start d.settings.intermediateRoot) s).2.1.held := by
  rw [leases, hplans, hsource]

variable [Storage σ]

/-- The pipeline of a draft is linked by what the run leases and overwrites what the settings say.
-/
theorem touched_of_compile (h : d.compile env s = (.ok p, s')) : p.Linked ∧
    (∀ l ∈ p.intermediates, l ∈ d.leases env s) ∧
    ∀ sink ∈ d.overwritten? p, sink ∈ d.overwrites? := by
  unfold compile planned at h
  cases hplans : d.plans with
  | error e => rw [hplans] at h; cases h
  | ok plans =>
    rw [hplans] at h
    simp only at h
    split at h
    · cases h
    next hc =>
      cases h
      refine ⟨Wiring.linked_of_compose hc, ?_⟩
      -- without plans nothing is leased or written, and the source is not looked at
      by_cases hne : plans = []
      · obtain rfl : Pipeline.empty = p := by
          simpa [Wiring.compose, hne] using congrArg Prod.fst hc
        exact ⟨by simp [Pipeline.empty], by simp [overwritten?, Pipeline.sinkLocation?,
          Pipeline.empty]⟩
      · obtain ⟨names, source, sink, left⟩ := Wiring.wired_of_ok hne hc
        have hsource : Wiring.checkSource d.settings.endpoints = .ok source := by
          rw [Wiring.checkSource_eq, Wiring.checkEnd_ok_iff]
          exact left.source
        have hsink := sinkLocation?_of_wire hne left.length_intermediates left.stages
        rw [overwritten?_of_sink hplans hsink, Wiring.intermediates_of_compose hc,
          ← leases_eq hplans hsource, leases_noteAll]
        exact ⟨fun _ hl => hl, fun _ hl => hl⟩

/-- Compiling a draft agrees if what it leases tells nothing apart. -/
theorem agree_compile (hr : ∀ l ∈ d.leases env s, Storage.Respects R l) (h : s.Alike R t) :
    Agree R (d.compile env s) (d.compile env t) := by
  unfold compile planned
  cases hplans : d.plans with
  | error e => exact ⟨rfl, h⟩
  | ok plans =>
    simp only
    have hcompose : Agree R
        (Wiring.compose env d.settings.intermediateRoot plans d.settings.endpoints
          (s.noteAll (closedRecords 0 plans)))
        (Wiring.compose env d.settings.intermediateRoot plans d.settings.endpoints
          (t.noteAll (closedRecords 0 plans))) := by
      refine Wiring.agree_compose ?_ (h.noteAll _)
      intro source hsource
      rwa [← leases_noteAll env d s (closedRecords 0 plans), leases_eq hplans hsource] at hr
    obtain ⟨r, s₁, t₁, hs, ht, h₁⟩ := hcompose.elim
    rw [hs, ht]
    cases r with
    | error e => exact ⟨rfl, h₁⟩
    | ok p => exact ⟨rfl, h₁.note _⟩

/-- Preparing the sink agrees if neither the sink nor the leases tell anything apart. -/
theorem agree_prepareSink (hsink : ∀ sink ∈ d.overwritten? p, Storage.Respects R sink)
    (hr : ∀ l ∈ p.intermediates, Storage.Respects R l) (h : s.Alike R t) :
    Agree R (d.prepareSink p s) (d.prepareSink p t) := by
  unfold overwritten? at hsink
  unfold prepareSink
  cases hlocation : p.sinkLocation? with
  | none => exact ⟨rfl, h⟩
  | some sink =>
    rw [hlocation] at hsink
    simp only
    by_cases hskip : (!d.settings.overwrite || sink = "") = true
    · rw [if_pos hskip, if_pos hskip]
      exact ⟨rfl, h⟩
    · rw [if_neg hskip, if_neg hskip]
      have hclear : Storage.Respects R sink := hsink sink (by simpa using hskip)
      obtain ⟨r, s₁, t₁, hs, ht, h₁⟩ := (h.agree_clear hclear).elim
      rw [hs, ht]
      rcases r with f | _ | _
      · exact ⟨rfl, (Leases.agree_releaseEach hr h₁ _).2.session⟩
      · exact ⟨rfl, h₁⟩
      · exact ⟨rfl, h₁.note _⟩

/-- **Preparing a pipeline** agrees if what the run may clear tells nothing apart. -/
theorem agree_prepare (hr : ∀ l ∈ d.touched env s, Storage.Respects R l) (h : s.Alike R t) :
    Agree R (d.prepare env s) (d.prepare env t) := by
  simp only [touched, List.mem_append, Option.mem_toList, or_imp, forall_and] at hr
  obtain ⟨hleases, hsink⟩ := hr
  unfold prepare
  obtain ⟨r, s₁, t₁, hs, ht, h₁⟩ := (agree_compile hleases h).elim
  rw [hs, ht]
  cases r with
  | error e => exact ⟨rfl, h₁⟩
  | ok p =>
    obtain ⟨-, hintermediates, hoverwritten⟩ := touched_of_compile hs
    have hprepare : Agree R (d.prepareSink p s₁) (d.prepareSink p t₁) :=
      agree_prepareSink (fun sink hoverwrite => hsink sink (hoverwritten sink hoverwrite))
        (fun l hl => hleases l (hintermediates l hl)) h₁
    obtain ⟨r, s₂, t₂, hs₂, ht₂, h₂⟩ := hprepare.elim
    simp only [hs₂, ht₂]
    cases r with
    | error e => exact ⟨rfl, h₂⟩
    | ok _ => exact ⟨rfl, h₂⟩

/-- The pipeline that is prepared is linked by what the run leases. -/
theorem leases_of_prepare (h : d.prepare env s = (.ok p, s')) :
    p.Linked ∧ ∀ l ∈ p.intermediates, l ∈ d.leases env s := by
  unfold prepare at h
  split at h
  · cases h
  next p' s₁ hc =>
    obtain ⟨hlinked, hleases, -⟩ := touched_of_compile hc
    split at h
    · cases h
    · cases h
      exact ⟨hlinked, hleases⟩

/-- **Runs agree**: they report the same, log the same and hand the same stages over, if neither
what they may clear nor the substrate tells their storages apart. -/
theorem agree_run (hsubstrate : ∀ substrate ∈ env.substrate, substrate.Respects R)
    (hr : ∀ l ∈ d.touched env s, Storage.Respects R l) (h : s.Alike R t) :
    Agree R (d.run env s) (d.run env t) := by
  unfold run
  cases hrun : env.substrate with
  | none => exact ⟨rfl, h⟩
  | some substrate =>
    replace hsubstrate := hsubstrate substrate hrun
    have hprepare : Agree R
        (d.prepare env (s.note (info ("Generating stage chain: " ++ d.settings.name.plain))))
        (d.prepare env (t.note (info ("Generating stage chain: " ++ d.settings.name.plain)))) := by
      refine agree_prepare ?_ (h.note _)
      rwa [touched, leases_note]
    obtain ⟨r, s₁, t₁, hs, ht, h₁⟩ := hprepare.elim
    simp only [hs, ht]
    cases r with
    | error e =>
      simp only
      split
      · exact ⟨rfl, h₁.note _⟩
      · exact ⟨rfl, h₁⟩
    | ok p =>
      simp only
      split
      · exact ⟨rfl, h₁.note _⟩
      · obtain ⟨hlinked, hleases⟩ := leases_of_prepare hs
        have hintermediates : ∀ l ∈ p.intermediates, Storage.Respects R l := by
          intro l hl
          have hl := hleases l hl
          rw [leases_note] at hl
          exact hr l (List.mem_append_left _ hl)
        obtain ⟨result, s₂, t₂, hs₂, ht₂, h₂⟩ :=
          (Chain.agree_run env hsubstrate hlinked hintermediates h₁).elim
        simp only [hs₂, ht₂]
        cases result with
        | error f => exact ⟨rfl, h₂⟩
        | ok r =>
          simp only
          split
          · exact ⟨rfl, h₂.note _⟩
          · exact ⟨rfl, h₂⟩

end Draft

end StageChain
