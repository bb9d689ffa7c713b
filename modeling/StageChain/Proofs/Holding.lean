import StageChain.Proofs.History
import StageChain.Proofs.Leasing
import StageChain.Proofs.Memory

/-!
# Leases in whatever order they are called for

Locations are leased and released again and again, held ones and others, while more and more is
stored, and any name and any deletion may fail. What is held is known from the calls and their
answers alone, and what is left in the storage from what is held.

* `outstanding`: the locations that a history leases and does not give up later.
* `held_reached`: **what is held after calls**, from whatever was held before them.
* `release_eq_none_iff`: a release reports nothing if the location is gone.
* `mem_releaseAll`: **what is left when all leases are released**, whatever their order.
* `leases_accounted`: all of it, after whatever calls.
-/

namespace StageChain

namespace Leases

open History

/-- What leases are called for. Something may also be stored from outside. -/
inductive Call where
  | acquire
  | release (location : String)
  | releaseAll
  | store (location : String)

/-- What a call comes to. -/
inductive Answer where
  | acquired (location : String)
  | refused (fault : Fault)
  | released (fault : Option Fault)
  | releasedAll (faults : List Fault)
  | stored

/-- Leases with the session in which they are called for. -/
abbrev State : Type := Leases × Session MemoryStorage

/-- The answer to a call, and the state after it. -/
def answer (env : Environment MemoryStorage) (state : State) : Call → Answer × State
  | .acquire => match state.1.acquire env state.2 with
    | (.ok location, l, s) => (.acquired location, l, s)
    | (.error f, l, s) => (.refused f, l, s)
  | .release location =>
    let r := state.1.release location state.2
    (.released r.1, r.2)
  | .releaseAll =>
    let r := state.1.releaseAll state.2
    (.releasedAll r.1, r.2)
  | .store location =>
    (.stored, state.1, { state.2 with storage := state.2.storage.add location })

/-- Whether a call gives a location up, if it is held. -/
def Call.givesUp (location : String) : Call → Bool
  | .release l => l = location
  | .releaseAll => true
  | .acquire | .store _ => false

/-- **The locations that a history leases** and does not give up later, in the order of their leases.
-/
def outstanding : List (Call × Answer) → List String
  | [] => []
  | (_, .acquired location) :: rest =>
    if rest.any fun e => e.1.givesUp location then outstanding rest
    else location :: outstanding rest
  | _ :: rest => outstanding rest

variable {env : Environment MemoryStorage} {state : State} {l : Leases}
  {s : Session MemoryStorage} {calls : List Call}

/-! ## One call -/

/-- A lease is a new location behind those that are held, or nothing is held that was not. The
storage has no part in it. -/
theorem answer_acquire (env : Environment MemoryStorage) (state : State) :
    (∃ location, (answer env state .acquire).1 = .acquired location ∧
      location ∉ state.1.held ∧
      (answer env state .acquire).2.1.held = state.1.held ++ [location]) ∨
    ∃ f, (answer env state .acquire).1 = .refused f ∧ (answer env state .acquire).2.1 = state.1 := by
  obtain ⟨location, s', ha, -, hnew⟩ | ⟨f, s', ha, -⟩ := acquire_cases env state.1 state.2
  · exact .inl ⟨location, by simp [answer, ha, hnew]⟩
  · exact .inr ⟨f, by simp [answer, ha]⟩

theorem storage_acquire (env : Environment MemoryStorage) (state : State) :
    (answer env state .acquire).2.2.storage = state.2.storage := by
  obtain ⟨location, s', ha, hs, -⟩ | ⟨f, s', ha, hs⟩ := acquire_cases env state.1 state.2 <;>
    simp [answer, ha, hs]

/-- Nothing is held twice, so a release takes all that it can. -/
theorem held_release (h : l.held.Nodup) (location : String) (s : Session MemoryStorage) :
    (l.release location s).2.1.held = l.held.filter (· ≠ location) := by
  rw [release_held, drop, h.erase_eq_filter]
  exact List.filter_congr fun x _ => by by_cases hx : x = location <;> simp [hx]

/-- Releasing what is held, one location after the other, leaves nothing held. -/
theorem held_releaseEach {locations : List String} (h : l.held = locations)
    (s : Session MemoryStorage) : (releaseEach locations l s).2.1.held = [] := by
  induction locations generalizing l s with
  | nil => exact h
  | cons location rest ih =>
    have hrest : (l.release location s).2.1.held = rest := by
      rw [release_held, drop, h, List.erase_cons_head]
    exact ih hrest _

/-- **A release reports nothing** if the location is gone: the storage says so when it is asked. -/
theorem release_eq_none_iff (l : Leases) (location : String) (s : Session MemoryStorage) :
    (l.release location s).1 = none ↔
      Storage.contains (l.release location s).2.2.storage location = .ok false := by
  have hfaults : (s.storage.remove location).containsFault = s.storage.containsFault := rfl
  cases hasked : s.storage.containsFault location with
  | some f => simp [release, Session.clear, Storage.contains, hasked]
  | none =>
    cases hholds : s.storage.holds location with
    | false => simp [release, Session.clear, Storage.contains, hasked, hholds]
    | true =>
      cases herase : s.storage.eraseFault location with
      | some f =>
        simp [release, Session.clear, Storage.contains, Storage.erase, hasked, hholds, herase]
      | none =>
        simp [release, Session.clear, Storage.contains, Storage.erase, hasked, hholds, herase,
          hfaults, MemoryStorage.holds_remove_self]

/-- **What is left when all leases are released**: what was stored, less what is at or below a held
location at which no fault comes up. -/
theorem mem_releaseAll (l : Leases) (s : Session MemoryStorage) (x : String) :
    x ∈ (l.releaseAll s).2.2.storage.locations ↔ x ∈ s.storage.locations ∧
      ∀ t ∈ l.held, s.storage.clears t = true → isApart x t = true := by
  rw [releaseAll, (releaseEach_frame l.held l s).1, MemoryStorage.mem_foldl_cleared]

/-! ## All calls -/

theorem nodup_answer (h : state.1.held.Nodup) (c : Call) : (answer env state c).2.1.held.Nodup := by
  cases c with
  | acquire =>
    obtain ⟨location, -, hnew, hheld⟩ | ⟨f, -, hsame⟩ := answer_acquire env state
    · rw [hheld, List.nodup_append]
      exact ⟨h, by simp, fun a ha b hb hab =>
        hnew (List.mem_singleton.1 hb ▸ hab ▸ ha)⟩
    · rwa [hsame]
  | release location =>
    rw [answer, release_held, drop]
    exact h.erase location
  | releaseAll =>
    rw [answer, releaseAll, held_releaseEach rfl]
    exact List.nodup_nil
  | store location => exact h

theorem outstanding_cons_of_acquired {c : Call} {location : String} {h : List (Call × Answer)} :
    outstanding ((c, .acquired location) :: h)
      = [location].filter (fun x => !h.any fun e => e.1.givesUp x) ++ outstanding h := by
  rw [outstanding]
  cases hany : h.any fun e => e.1.givesUp location <;> simp [hany]

/-- **What is held after calls**: of what was held before them what none of them gives up, and behind
it what they lease and do not give up later. -/
theorem held_reached (h : state.1.held.Nodup) (calls : List Call) :
    (reached (answer env) state calls).1.held
      = state.1.held.filter (fun x => !(answered (answer env) state calls).any (·.1.givesUp x))
        ++ outstanding (answered (answer env) state calls) := by
  induction calls generalizing state with
  | nil => simp [reached, answered, outstanding]
  | cons c cs ih =>
    rw [reached_cons, ih (nodup_answer h c), answered]
    cases c with
    | acquire =>
      obtain ⟨location, hanswer, -, hheld⟩ | ⟨f, hanswer, hsame⟩ := answer_acquire env state
      · rw [hanswer, hheld, List.filter_append, outstanding_cons_of_acquired, List.append_assoc]
        simp [Call.givesUp]
      · rw [hanswer, hsame, outstanding]
        · simp [Call.givesUp]
        · simp
    | release location =>
      have hheld : (answer env state (.release location)).2.1.held
          = state.1.held.filter (· ≠ location) := held_release h location _
      rw [hheld, List.filter_filter]
      simp only [answer, outstanding]
      congr 1
      refine List.filter_congr fun x _ => ?_
      by_cases hx : x = location
      · simp [Call.givesUp, hx]
      · simp [Call.givesUp, hx, Ne.symm hx]
    | releaseAll =>
      have hheld : (answer env state .releaseAll).2.1.held = [] := held_releaseEach rfl _
      rw [hheld]
      simp [answer, outstanding, Call.givesUp]
    | store location => simp [answer, outstanding, Call.givesUp]

/-- The history of calls for leases under a root, where nothing is held at the start. -/
def historyOf (env : Environment MemoryStorage) (root : String) (s : Session MemoryStorage)
    (calls : List Call) : List (Call × Answer) := answered (answer env) (start root, s) calls

/-- The state after such calls. -/
def after (env : Environment MemoryStorage) (root : String) (s : Session MemoryStorage)
    (calls : List Call) : State := reached (answer env) (start root, s) calls

/-- **What can be said of leases after calls**, of what is held and of what the next call does. -/
structure Accounted (env : Environment MemoryStorage) (root : String) (s : Session MemoryStorage)
    (calls : List Call) : Prop where
  /-- What is held is what was leased and not given up since then, in the order of the leases. -/
  held : (after env root s calls).1.held = outstanding (historyOf env root s calls)
  nodup : (after env root s calls).1.held.Nodup
  /-- A lease is a new location, and one that is refused changes neither what is held nor what is
  stored. -/
  acquire : ∃ a state, answer env (after env root s calls) .acquire = (a, state) ∧
    state.2.storage = (after env root s calls).2.storage ∧
    ((∃ location, a = .acquired location ∧ location ∉ (after env root s calls).1.held ∧
        state.1.held = (after env root s calls).1.held ++ [location]) ∨
      ∃ f, a = .refused f ∧ state.1.held = (after env root s calls).1.held)
  /-- A release gives up that location and no other, and it reports nothing if the location is gone.
  -/
  release : ∀ location, ∃ fault state,
    answer env (after env root s calls) (.release location) = (.released fault, state) ∧
    state.1.held = (after env root s calls).1.held.filter (· ≠ location) ∧
    (fault = none ↔ Storage.contains state.2.storage location = .ok false)
  /-- When all leases are released none is held, and of what was stored there is left what is neither
  at nor below a held location at which no fault comes up. -/
  releaseAll : ∃ faults state,
    answer env (after env root s calls) .releaseAll = (.releasedAll faults, state) ∧
    state.1.held = [] ∧
    ∀ x, x ∈ state.2.storage.locations ↔ x ∈ (after env root s calls).2.storage.locations ∧
      ∀ t ∈ (after env root s calls).1.held,
        (after env root s calls).2.storage.clears t = true → isApart x t = true
  /-- In another order the same locations leave the same when they are released. -/
  reordered : ∀ l : Leases, l.held.Perm (after env root s calls).1.held → ∀ x,
    x ∈ (l.releaseAll (after env root s calls).2).2.2.storage.locations ↔
      x ∈ ((after env root s calls).1.releaseAll (after env root s calls).2).2.2.storage.locations

/-- **Whatever leases are called for**, and whatever fails on the way. -/
theorem leases_accounted (env : Environment MemoryStorage) (root : String)
    (s : Session MemoryStorage) (calls : List Call) : Accounted env root s calls := by
  have hnodup : (after env root s calls).1.held.Nodup :=
    reached_induction (P := fun state : State => state.1.held.Nodup) List.nodup_nil
      fun _ c _ h => nodup_answer h c
  refine ⟨?_, hnodup, ?_, ?_, ?_, ?_⟩
  · have hstart : ((start root, s) : State).1.held.Nodup := List.nodup_nil
    have hheld : (after env root s calls).1.held = _ := held_reached hstart calls
    rwa [start, List.filter_nil, List.nil_append] at hheld
  · refine ⟨_, _, rfl, storage_acquire env _, ?_⟩
    obtain hleased | ⟨f, hanswer, hsame⟩ := answer_acquire env (after env root s calls)
    · exact .inl hleased
    · exact .inr ⟨f, hanswer, congrArg Leases.held hsame⟩
  · intro location
    exact ⟨_, _, rfl, held_release hnodup location _, release_eq_none_iff _ location _⟩
  · exact ⟨_, _, rfl, held_releaseEach rfl _, mem_releaseAll _ _⟩
  · intro l hperm x
    rw [mem_releaseAll, mem_releaseAll]
    simp only [hperm.mem_iff]

end Leases

end StageChain
