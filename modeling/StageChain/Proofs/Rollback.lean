import StageChain.Proofs.Composition
import StageChain.Proofs.Memory

/-!
# Rollback

Composing that fails leaves no trace but what cannot be deleted. A source that is refused is refused
before any name is drawn. Later failures give the leases back: all that lies at or below a leased
location goes, unless a fault comes up at that location, and the failure that is reported is the one
that ended composing, whatever goes wrong while leases are given back.

* `Surfaces`: what is reported of a failure.
* `Recovery`: **what a late failure leaves behind.**
* `compose_rollback`: **every failure leaves behind one of the two.**
-/

namespace StageChain

/-- Whether a failure is one of the library's own kinds. -/
def PlanningFailure.isOwn : PlanningFailure → Bool
  | .fault f => f.isOwn
  | .mismatch _ | .format _ | .composition _ => true

namespace Wiring

/-- **What is reported of a failure.** One of the library's own kinds is reported as it is, and any
other one is the cause of a composition failure. -/
def Surfaces (original failure : PlanningFailure) : Prop :=
  if original.isOwn then failure = original
  else ∃ f c, original = .fault f ∧ failure = .composition c ∧ c.cause? = some f ∧
    c.message = "Failed to compose pipeline: " ++ f.message

theorem surfaces_sinkFailure (original : PlanningFailure) :
    Surfaces original (sinkFailure original) := by
  cases original with
  | fault f =>
    cases hown : f.isOwn with
    | true => simp [Surfaces, PlanningFailure.isOwn, sinkFailure, failureOf, hown]
    | false =>
      have hfailure : sinkFailure (.fault f) = .composition (.interrupted f) := by
        simp [sinkFailure, failureOf, hown]
      rw [Surfaces, PlanningFailure.isOwn, hown, hfailure]
      exact ⟨f, .interrupted f, rfl, rfl, rfl, rfl⟩
  | mismatch _ => rfl
  | format _ => rfl
  | composition _ => rfl

/-- **What a failure leaves behind** that comes after the leases of some names, in a storage in
memory: what was there, less all that is at or below a leased location at which no fault comes up. -/
structure Recovery (env : Environment MemoryStorage) (root : String) (plans : List Plan)
    (e : Endpoints) (s s' : Session MemoryStorage) (failure : PlanningFailure)
    (names : List String) (original : PlanningFailure) : Prop where
  grants : Leases.Grants env root s.drawn names
  interrupted :
    Interrupted env root s.drawn (plans.length - 1) (sinkOf e (isDerivation plans)) names original
  surfaces : Surfaces original failure
  locations : ∀ l, l ∈ s'.storage.locations ↔ l ∈ s.storage.locations ∧
    ∀ t ∈ names.map (joinLocation root), s.storage.clears t = true → isApart l t = true
  /-- Only leased locations are deleted, and no fault comes up at any of those. -/
  deleted : ∃ ds, s'.storage.deleted = s.storage.deleted ++ ds ∧
    ds.Sublist ((names.map (joinLocation root)).filter s.storage.clears)

theorem RolledBack.recovery {env : Environment MemoryStorage} {root : String} {plans : List Plan}
    {e : Endpoints} {s s' : Session MemoryStorage} {names : List String}
    {original : PlanningFailure} (h : RolledBack env root plans e s s' names original) :
    Recovery env root plans e s s' (sinkFailure original) names original where
  grants := h.grants
  interrupted := h.interrupted
  surfaces := surfaces_sinkFailure original
  locations l := by rw [h.storage, MemoryStorage.mem_foldl_cleared]
  deleted := by rw [h.storage]; exact MemoryStorage.deleted_foldl_cleared _ _

/-- A source that is refused is refused in every session and changes none. -/
theorem compose_of_sourceRefused {σ : Type} [Storage σ] {e : Endpoints} {failure : PlanningFailure}
    (h : SourceRefused e failure) {plans : List Plan} (hne : plans ≠ []) (env : Environment σ)
    (root : String) (s : Session σ) : compose env root plans e s = (.error failure, s) := by
  have hc := composition env root plans e s
  generalize compose env root plans e s = r at hc
  cases hc with
  | idle hnil => exact absurd hnil hne
  | refused _ hrefused => rw [hrefused.failure_eq h]
  | rolledBack _ left =>
    obtain ⟨name, haccepts⟩ := left.source
    exact absurd h haccepts.not_refused
  | wired _ left => exact absurd h left.source.not_refused

/-- **Composing that fails is rolled back.** If the source is refused, no name is drawn and the
storage is left alone: it is the same in every session over every storage. Any other failure gives the
leases back, and neither they nor the faults that come up on the way change what is reported. -/
theorem compose_rollback (env : Environment MemoryStorage) (root : String) (plans : List Plan)
    (e : Endpoints) (s s' : Session MemoryStorage) (failure : PlanningFailure)
    (h : compose env root plans e s = (.error failure, s')) :
    (SourceRefused e failure ∧ s' = s ∧
      ∀ {τ : Type} [Storage τ] (env' : Environment τ) (root' : String) (t : Session τ),
        compose env' root' plans e t = (.error failure, t)) ∨
    (∃ name, Accepts Format.sources e.sourceFormat e.sourceLocation name) ∧
      ∃ names original, Recovery env root plans e s s' failure names original := by
  have hc := composition env root plans e s
  rw [h] at hc
  cases hc with
  | refused hne hrefused =>
    exact .inl ⟨hrefused, rfl, fun env' root' t => compose_of_sourceRefused hrefused hne env' root' t⟩
  | rolledBack _ left => exact .inr ⟨left.source, _, _, left.recovery⟩

/-- Two leases of which one lies below the other, a fault where the upper one should be deleted, and a
sink whose format cannot even be looked up: what lies at the lower one is deleted, and the failure to
look the format up is reported. -/
theorem compose_rollback_sample :
    let env : Environment MemoryStorage :=
      { Environment.counting MemoryStorage with names := fun n => .ok (if n = 0 then "a" else "a/b") }
    let s : Session MemoryStorage := .start ⟨["in", "a/b/part", "a/c", "ab"], [], fun _ => none,
      fun l => if l = "a" then some (.raised .system []) else none⟩
    let e := { Endpoints.sample with graphFormat := .list [] }
    ∃ s' names original, compose env "" sampleFusion.plans e s
        = (.error (.composition (.interrupted (.unhashable "list"))), s') ∧
      Recovery env "" sampleFusion.plans e s s' (.composition (.interrupted (.unhashable "list")))
        names original ∧
      s'.storage.locations = ["in", "a/c", "ab"] ∧ s'.storage.deleted = ["a/b"] := by
  intro env s e
  have hc : compose env "" sampleFusion.plans e s = (.error _, _) := rfl
  rcases compose_rollback env "" sampleFusion.plans e s _ _ hc with
    ⟨hsource, -⟩ | ⟨-, names, original, h⟩
  · have haccepts : Accepts Format.sources e.sourceFormat e.sourceLocation "graphson" :=
      ⟨rfl, rfl, by decide, by decide⟩
    exact absurd hsource haccepts.not_refused
  · exact ⟨_, names, original, hc, h, by decide +kernel, by decide +kernel⟩

end Wiring

end StageChain
