import StageChain.Session.Basic

/-!
# Leases

Intermediate locations are leased: each is a new name under a root, and it is held until it is
released. Releasing deletes what is there; a fault on the way is reported and does no more harm.

* `acquire_cases`: a lease, and the frame of a refused one.
* `release_held`: a release gives up that location and no other.
* `acquireAll_length`: after so many leases that many more locations are held.
-/

namespace StageChain

/-- The locations that are held, in the order of their leases, and the root of new ones. -/
structure Leases where
  root : String
  held : List String
  deriving DecidableEq, Inhabited

namespace Leases

variable {σ : Type}

/-- Nothing is held. -/
def start (root : String) : Leases := ⟨root, []⟩

/-- The part of the library that logs here. -/
def logger : String := "graphstage.locations"

/-- Leases a location under a name, or refuses one that is held: what came of it, and what is held
after it. -/
def take (l : Leases) (name : String) : Except Fault String × Leases :=
  let location := joinLocation l.root name
  if l.held.contains location then (.error (.duplicateLocation location), l)
  else (.ok location, { l with held := l.held ++ [location] })

/-- Leases a location under the next name. -/
def acquire (env : Environment σ) (l : Leases) (s : Session σ) :
    Except Fault String × Leases × Session σ :=
  match s.draw env with
  | (.error f, s) => (.error f, l, s)
  | (.ok name, s) => match l.take name with
    | (.error f, l) => (.error f, l, s)
    | (.ok location, l) =>
      (.ok location, l,
        s.note (.plain Level.debug logger ("Allocated intermediate location: " ++ location)))

/-- Leases so many locations one after the other, up to the first fault: the fault, and what is held
then. -/
def acquireAll (env : Environment σ) : Nat → Leases → Session σ → Option Fault × Leases × Session σ
  | 0, l, s => (none, l, s)
  | n + 1, l, s => match l.acquire env s with
    | (.error f, l, s) => (some f, l, s)
    | (.ok _, l, s) => acquireAll env n l s

/-- Gives up a location. -/
def drop (l : Leases) (location : String) : Leases := { l with held := l.held.erase location }

/-- Releases a location, which need not be held: what is there is deleted. The result is the fault
that kept it there. -/
def release [Storage σ] (l : Leases) (location : String) (s : Session σ) :
    Option Fault × Leases × Session σ :=
  match s.clear location with
  | (.ok true, s) =>
    (none, l.drop location,
      s.note (.plain Level.debug logger ("Deleted intermediate location: " ++ location)))
  | (.ok false, s) => (none, l.drop location, s)
  | (.error f, s) =>
    (some f, l.drop location,
      s.note (.withEvent Level.warning logger
        ("Failed to delete intermediate location " ++ location ++ ": " ++ f.message)
        "cleanup_failed" [("location", .text location)]))

/-- Releases locations one after the other, with the faults that came up. -/
def releaseEach [Storage σ] :
    List String → Leases → Session σ → List Fault × Leases × Session σ
  | [], l, s => ([], l, s)
  | location :: rest, l, s =>
    let (fault, l, s) := l.release location s
    let (faults, l, s) := releaseEach rest l s
    (fault.toList ++ faults, l, s)

/-- Releases every location that is held. -/
def releaseAll [Storage σ] (l : Leases) (s : Session σ) : List Fault × Leases × Session σ :=
  releaseEach l.held l s

theorem release_held [Storage σ] (l : Leases) (location : String) (s : Session σ) :
    (l.release location s).2.1 = l.drop location := by
  unfold release
  split <;> rfl

theorem take_of_held {l : Leases} {name : String} (h : joinLocation l.root name ∈ l.held) :
    l.take name = (.error (.duplicateLocation (joinLocation l.root name)), l) := by
  simp [take, h]

theorem take_of_new {l : Leases} {name : String} (h : joinLocation l.root name ∉ l.held) :
    l.take name
      = (.ok (joinLocation l.root name),
          { l with held := l.held ++ [joinLocation l.root name] }) := by
  simp [take, h]

/-- **What a lease comes to**: a new location is held behind the others, or it is refused and what
is held stays. The storage has no part in it. -/
theorem acquire_cases (env : Environment σ) (l : Leases) (s : Session σ) :
    (∃ location s', l.acquire env s
        = (.ok location, { l with held := l.held ++ [location] }, s') ∧
      s'.storage = s.storage ∧ location ∉ l.held) ∨
    ∃ f s', l.acquire env s = (.error f, l, s') ∧ s'.storage = s.storage := by
  unfold acquire Session.draw
  cases env.names s.drawn with
  | error f => exact .inr ⟨f, _, rfl, rfl⟩
  | ok name =>
    by_cases h : joinLocation l.root name ∈ l.held
    · simp only [take_of_held h]
      exact .inr ⟨_, _, rfl, rfl⟩
    · simp only [take_of_new h]
      exact .inl ⟨_, _, rfl, rfl, h⟩

theorem acquireAll_length {env : Environment σ} {n : Nat} {l l' : Leases} {s s' : Session σ}
    (h : acquireAll env n l s = (none, l', s')) : l'.held.length = l.held.length + n := by
  induction n generalizing l s with
  | zero =>
    simp only [acquireAll, Prod.mk.injEq] at h
    simp [h.2.1]
  | succ n ih =>
    rw [acquireAll] at h
    obtain ⟨location, s₁, ha, -⟩ | ⟨f, s₁, ha, -⟩ := acquire_cases env l s
    · rw [ha] at h
      rw [ih h, List.length_append, List.length_singleton]
      omega
    · rw [ha] at h
      simp at h

end Leases

end StageChain
