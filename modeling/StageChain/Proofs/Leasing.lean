import StageChain.Pipeline.Wiring
import StageChain.Proofs.Execution

/-!
# Leases and names

Which locations are leased is settled by the names that are drawn: each name gives one location under
the root, up to the first draw that fails or repeats a location. Leasing leaves the storage alone, and
releasing clears one location after the other.

* `Grants`, `Refuses`: what names give, and why the next one gives nothing.
* `Spends`: how many names were drawn for the leases of some.
* `leasing_acquireAll`: **what leasing comes to**, in terms of the names alone.
* `Refuses.length_le`, `Refuses.unique`: past a refusal there is nothing to lease, and there is only
  one.
* `rollback_frame`: a rollback clears what is held.
-/

namespace StageChain

variable {σ : Type}

/-- Between two sessions nothing was run: no stage was handed over, nobody was told of progress, and
the clock was not read. -/
structure Session.Quiet (s s' : Session σ) : Prop where
  readings : s'.readings = s.readings
  submissions : s'.submissions = s.submissions
  events : s'.events = s.events

namespace Session.Quiet

theorem refl (s : Session σ) : s.Quiet s := ⟨rfl, rfl, rfl⟩

theorem trans {a b c : Session σ} (h : a.Quiet b) (h' : b.Quiet c) : a.Quiet c :=
  ⟨h'.readings.trans h.readings, h'.submissions.trans h.submissions, h'.events.trans h.events⟩

theorem note {a b : Session σ} (h : a.Quiet b) (r : LogRecord) : a.Quiet (b.note r) :=
  ⟨h.readings, h.submissions, h.events⟩

end Session.Quiet

namespace Leases

variable {env : Environment σ} {root : String} {drawn : Nat} {names names' : List String}

/-- The leases of names under a root. -/
def ofNames (root : String) (names : List String) : Leases := ⟨root, names.map (joinLocation root)⟩

/-- **What names grant.** No draw of the names fails, and under the root they are locations no two of
which are the same. -/
structure Grants (env : Environment σ) (root : String) (drawn : Nat) (names : List String) :
    Prop where
  draws : ∀ (i : Nat) (name : String), names[i]? = some name → env.names (drawn + i) = .ok name
  nodup : (names.map (joinLocation root)).Nodup

/-- Why there is no lease after those of some names: the next draw fails, or its location is held. -/
inductive Refuses (env : Environment σ) (root : String) (drawn : Nat) (names : List String) :
    Fault → Prop where
  | raised {f : Fault} (draw : env.names (drawn + names.length) = .error f) :
    Refuses env root drawn names f
  | repeated {name : String} (draw : env.names (drawn + names.length) = .ok name)
    (held : joinLocation root name ∈ names.map (joinLocation root)) :
    Refuses env root drawn names (.duplicateLocation (joinLocation root name))

/-- So many names were drawn for the leases of some: as many as there are leases, and one more if that
was refused. -/
def Spends (env : Environment σ) (root : String) (drawn : Nat) (names : List String) (after : Nat) :
    Prop :=
  after = drawn + names.length ∨
    (∃ f, Refuses env root drawn names f) ∧ after = drawn + names.length + 1

theorem Grants.nil : Grants env root drawn [] := ⟨by simp, by simp⟩

theorem Grants.append {name : String} (h : Grants env root drawn names)
    (hdraw : env.names (drawn + names.length) = .ok name)
    (hnew : joinLocation root name ∉ names.map (joinLocation root)) :
    Grants env root drawn (names ++ [name]) := by
  constructor
  · intro i n hi
    rcases Nat.lt_trichotomy i names.length with hlt | heq | hgt
    · rw [List.getElem?_append_left hlt] at hi
      exact h.draws i n hi
    · subst heq
      rw [List.getElem?_concat_length, Option.some.injEq] at hi
      exact hi ▸ hdraw
    · rw [List.getElem?_eq_none (by rw [List.length_append]; exact hgt)] at hi
      exact absurd hi (by simp)
  · rw [List.map_append, List.nodup_append]
    refine ⟨h.nodup, by simp, ?_⟩
    rintro a ha b hb rfl
    rw [List.map_singleton, List.mem_singleton] at hb
    exact hnew (hb ▸ ha)

/-- The names that grant leases are those that are drawn. -/
theorem Grants.eq_take (h : Grants env root drawn names) (h' : Grants env root drawn names')
    (hle : names.length ≤ names'.length) : names = names'.take names.length := by
  apply List.ext_getElem
  · rw [List.length_take]; omega
  · intro i hi hi'
    rw [List.getElem_take]
    have hn := h.draws i _ (List.getElem?_eq_getElem hi)
    have hn' := h'.draws i _ (List.getElem?_eq_getElem (by omega))
    exact Except.ok.inj (hn.symm.trans hn')

/-- Past a refusal there is nothing to lease. -/
theorem Refuses.length_le {f : Fault} (hf : Refuses env root drawn names f)
    (h : Grants env root drawn names) (h' : Grants env root drawn names') :
    names'.length ≤ names.length := by
  rcases Nat.lt_or_ge names.length names'.length with hlt | hle
  case inr => exact hle
  have hdraw := h'.draws names.length _ (List.getElem?_eq_getElem hlt)
  cases hf with
  | raised hraise => rw [hraise] at hdraw; simp at hdraw
  | repeated hname hheld =>
    obtain rfl := Except.ok.inj (hname.symm.trans hdraw)
    -- the location would stand at two places among those of the names
    have hsplit : names'.take (names.length + 1) = names ++ [names'[names.length]] := by
      rw [List.take_add_one, ← h.eq_take h' (by omega), List.getElem?_eq_getElem hlt]; rfl
    have hnodup := (h'.nodup.sublist ((List.take_sublist (names.length + 1) names').map _))
    rw [hsplit, List.map_append, List.nodup_append] at hnodup
    exact absurd rfl (hnodup.2.2 _ hheld _ (by simp))

/-- Names that grant leases up to a refusal are settled by the draws, and so is the refusal. -/
theorem Refuses.unique {f f' : Fault} (hf : Refuses env root drawn names f)
    (h : Grants env root drawn names) (hf' : Refuses env root drawn names' f')
    (h' : Grants env root drawn names') : names' = names ∧ f' = f := by
  have hlength : names'.length = names.length :=
    Nat.le_antisymm (hf.length_le h h') (hf'.length_le h' h)
  obtain rfl : names' = names := by
    rw [h'.eq_take h (Nat.le_of_eq hlength), hlength, List.take_length]
  refine ⟨rfl, ?_⟩
  cases hf <;> cases hf' <;> simp_all

/-! ## Leasing -/

variable {s : Session σ}

theorem take_ofNames (name : String) : (ofNames root names).take name =
    if joinLocation root name ∈ names.map (joinLocation root) then
      (.error (.duplicateLocation (joinLocation root name)), ofNames root names)
    else (.ok (joinLocation root name), ofNames root (names ++ [name])) := by
  by_cases hheld : joinLocation root name ∈ names.map (joinLocation root) <;>
    simp [take, ofNames, hheld]

/-- **One lease**, by what the next draw gives. -/
theorem acquire_ofNames (hs : s.drawn = drawn + names.length) :
    (∃ f, Refuses env root drawn names f ∧
      (ofNames root names).acquire env s
        = (.error f, ofNames root names, { s with drawn := s.drawn + 1 })) ∨
    ∃ name r, env.names (drawn + names.length) = .ok name ∧
      joinLocation root name ∉ names.map (joinLocation root) ∧
      (ofNames root names).acquire env s
        = (.ok (joinLocation root name), ofNames root (names ++ [name]),
            ({ s with drawn := s.drawn + 1 } : Session σ).note r) := by
  rw [acquire, Session.draw, hs]
  cases hdraw : env.names (drawn + names.length) with
  | error f => exact .inl ⟨f, .raised hdraw, rfl⟩
  | ok name =>
    simp only [take_ofNames]
    by_cases hheld : joinLocation root name ∈ names.map (joinLocation root)
    · rw [if_pos hheld]
      exact .inl ⟨_, .repeated hdraw hheld, rfl⟩
    · rw [if_neg hheld]
      exact .inr ⟨name, _, rfl, hheld, rfl⟩

/-- What leasing so many locations comes to: the names that gave leases, and the fault that ended it
if there are fewer of them. -/
structure Leasing (env : Environment σ) (root : String) (drawn n : Nat) (s s' : Session σ)
    (names : List String) (fault : Option Fault) : Prop where
  grants : Grants env root drawn names
  complete : fault = none → names.length = n
  refused : ∀ f ∈ fault, names.length < n ∧ Refuses env root drawn names f
  drawn : s'.drawn = drawn + names.length + fault.toList.length
  storage : s'.storage = s.storage
  quiet : s.Quiet s'

theorem leasing_from {n : Nat} (h : Grants env root drawn names)
    (hs : s.drawn = drawn + names.length) :
    ∃ names' fault s', acquireAll env n (ofNames root names) s = (fault, ofNames root names', s') ∧
      Leasing env root drawn (names.length + n) s s' names' fault := by
  induction n generalizing names s with
  | zero => exact ⟨names, none, s, rfl, h, by simp, by simp, by simp [hs], rfl, .refl s⟩
  | succ n ih =>
    rw [acquireAll]
    rcases @acquire_ofNames σ env root drawn names s hs with
      ⟨f, hf, he⟩ | ⟨name, r, hdraw, hnew, he⟩
    · rw [he]
      refine ⟨names, some f, _, rfl, h, by simp, ?_, by simp [hs], rfl, rfl, rfl, rfl⟩
      rintro _ ⟨⟩
      exact ⟨by omega, hf⟩
    · rw [he]
      obtain ⟨names', fault, s', hall, hl⟩ :=
        @ih (names ++ [name]) (({ s with drawn := s.drawn + 1 } : Session σ).note r)
          (h.append hdraw hnew) (by simp [Session.note, hs, Nat.add_assoc])
      refine ⟨names', fault, s', hall, hl.grants, ?_, ?_, hl.drawn, hl.storage, ?_⟩
      · intro hn
        rw [hl.complete hn, List.length_append, List.length_singleton]; omega
      · intro f hf
        obtain ⟨hlt, hr⟩ := hl.refused f hf
        rw [List.length_append, List.length_singleton] at hlt
        exact ⟨by omega, hr⟩
      · exact ⟨hl.quiet.readings, hl.quiet.submissions, hl.quiet.events⟩

/-- **What leasing comes to**: leases of the names that are drawn, as many as are asked for or as
there are before the first refusal. -/
theorem leasing_acquireAll (env : Environment σ) (root : String) (n : Nat) (s : Session σ) :
    ∃ names fault s', acquireAll env n (.start root) s = (fault, ofNames root names, s') ∧
      Leasing env root s.drawn n s s' names fault := by
  have h := @leasing_from σ env root s.drawn [] s n .nil rfl
  rwa [List.length_nil, Nat.zero_add] at h

/-! ## Releasing -/

variable [Storage σ]

theorem drawn_release (l : Leases) (location : String) (s : Session σ) :
    (l.release location s).2.2.drawn = s.drawn := by
  have h := Chain.clear_snd s location
  unfold release
  split <;> next hc => rw [hc] at h; simp only at h; subst h; rfl

/-- Releasing locations clears them in order, and nothing is run. -/
theorem releaseEach_frame (locations : List String) (l : Leases) (s : Session σ) :
    (releaseEach locations l s).2.2.storage = locations.foldl Chain.cleared s.storage ∧
      (releaseEach locations l s).2.2.drawn = s.drawn ∧
      s.Quiet (releaseEach locations l s).2.2 := by
  induction locations generalizing l s with
  | nil => exact ⟨rfl, rfl, .refl s⟩
  | cons location rest ih =>
    obtain ⟨hstorage, hreadings, hsubmissions, hevents⟩ := Chain.release_frame s location l
    obtain ⟨hrest, hdrawn, hquiet⟩ := ih (l.release location s).2.1 (l.release location s).2.2
    simp only [releaseEach]
    refine ⟨?_, ?_, .trans ⟨hreadings, hsubmissions, hevents⟩ hquiet⟩
    · rw [hrest, hstorage, List.foldl_cons]
    · rw [hdrawn, drawn_release]

/-- A rollback clears what is held, and nothing is run. -/
theorem rollback_frame (l : Leases) (s : Session σ) :
    (Wiring.rollback l s).storage = l.held.foldl Chain.cleared s.storage ∧
      (Wiring.rollback l s).drawn = s.drawn ∧ s.Quiet (Wiring.rollback l s) := by
  obtain ⟨hstorage, hdrawn, hquiet⟩ := releaseEach_frame l.held l s
  simp only [Wiring.rollback, releaseAll]
  split
  · exact ⟨hstorage, hdrawn, hquiet⟩
  · exact ⟨hstorage, hdrawn, hquiet.note _⟩

end Leases

end StageChain
