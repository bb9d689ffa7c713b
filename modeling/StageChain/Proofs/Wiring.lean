import Mathlib.Data.List.Nodup
import StageChain.Pipeline.Wiring

/-!
# Composed pipelines

What composing plans gives when it gives a pipeline: the leased locations stand between the stages,
each is written by one stage and read by the next one, and no two of them are the same.

* `Leases.nodup_acquireAll`: a location is leased once.
* `compose_ok`: **a composed pipeline is wired** between its endpoints.
* `wire_stage`: **the stage at a place**, with its location on both sides.
* `linked_of_compose`: **the stages of a composed pipeline hang together**.
-/

namespace StageChain

namespace Leases

variable {σ : Type} {env : Environment σ} {l l' : Leases} {s s' : Session σ}

/-- A location is leased once. -/
theorem nodup_acquireAll {n : Nat} (hl : l.held.Nodup)
    (h : acquireAll env n l s = (none, l', s')) : l'.held.Nodup := by
  induction n generalizing l s with
  | zero =>
    simp only [acquireAll, Prod.mk.injEq] at h
    rw [← h.2.1]; exact hl
  | succ n ih =>
    rw [acquireAll] at h
    obtain ⟨location, s₁, ha, -, hnew⟩ | ⟨f, s₁, ha, -⟩ := acquire_cases env l s
    · rw [ha] at h
      refine ih ?_ h
      rw [List.nodup_append]
      refine ⟨hl, by simp, ?_⟩
      rintro a ha b hb rfl
      rw [List.mem_singleton] at hb
      exact hnew (hb ▸ ha)
    · rw [ha] at h
      simp at h

end Leases

namespace Wiring

variable {σ : Type} [Storage σ] {env : Environment σ} {root : String} {plans : List Plan}
  {e : Endpoints} {s s' : Session σ} {p : Pipeline}

/-- **A composed pipeline is wired** from its source to its sink through the leased locations. -/
theorem compose_ok (hne : plans ≠ []) (h : compose env root plans e s = (.ok p, s')) :
    ∃ sourceFormat sinkFormat,
      p.stages = wire e.properties ⟨(sinkOf e (isDerivation plans)).location.getD "", sinkFormat⟩ 0
        ⟨e.sourceLocation.getD "", sourceFormat⟩ plans p.intermediates ∧
      p.intermediates.length = plans.length - 1 ∧ p.intermediates.Nodup := by
  unfold compose at h
  rw [if_neg (by simpa using hne)] at h
  split at h
  · simp at h
  · next sourceFormat _ =>
    simp only at h
    split at h
    · simp at h
    · next l s₁ ha =>
      split at h
      · simp at h
      · next sinkFormat _ =>
        simp only [Prod.mk.injEq, Except.ok.injEq] at h
        obtain ⟨rfl, -⟩ := h
        have hlen : l.held.length = plans.length - 1 := by
          rw [Leases.acquireAll_length ha]; simp [Leases.start]
        have hnodup := Leases.nodup_acquireAll (by simp [Leases.start]) ha
        exact ⟨sourceFormat, sinkFormat, rfl, hlen, hnodup⟩

/-- An intermediate location with its format. -/
def between (location : String) : Place := ⟨location, Format.intermediate⟩

theorem getElem?_of_between {ls : List String} {i : Nat} {location format : String}
    (h : (ls.map between)[i]? = some ⟨location, format⟩) : ls[i]? = some location := by
  rw [List.getElem?_map, Option.map_eq_some_iff] at h
  obtain ⟨l, hl, he⟩ := h
  rw [hl, (Place.mk.inj he).1]

/-- **The stage at a place.** The places that the stages read are the input and then the leased ones;
those that they write are the leased ones and then the output. -/
theorem wire_stage {properties : Table String Value} {output input : Place} {k i : Nat}
    {ps : List Plan} {ls : List String} {stage : Stage} (hl : ls.length = ps.length - 1)
    (h : (wire properties output k input ps ls)[i]? = some stage) :
    stage.index = k + i ∧ ps[i]? = some stage.plan ∧
      (input :: ls.map between)[i]? = some ⟨stage.inputLocation, stage.inputFormat⟩ ∧
      (ls.map between ++ [output])[i]? = some ⟨stage.outputLocation, stage.outputFormat⟩ ∧
      stage.inputIsIntermediate = decide (0 < k + i) ∧
      stage.outputIsIntermediate = decide (i < ls.length) := by
  induction ps generalizing k i input ls with
  | nil => simp [wire] at h
  | cons p ps ih =>
    cases ps with
    | nil =>
      obtain rfl : ls = [] := by simpa using hl
      cases i with
      | zero =>
        simp only [wire, List.getElem?_cons_zero, Option.some.injEq] at h
        subst h; simp
      | succ i => simp [wire] at h
    | cons q ps =>
      obtain ⟨l, ls, rfl⟩ : ∃ l ls', ls = l :: ls' := by
        cases ls with
        | nil => simp at hl
        | cons l ls => exact ⟨l, ls, rfl⟩
      cases i with
      | zero =>
        rw [wire] at h
        simp only [List.getElem?_cons_zero, Option.some.injEq] at h
        subst h; simp [between]
      | succ i =>
        rw [wire] at h
        simp only [List.getElem?_cons_succ, List.tail_cons] at h
        have := ih (by simpa using hl) h
        simpa [between, Nat.add_assoc, Nat.add_comm 1 i] using this

end Wiring

/-- **How the stages of a composed pipeline hang together**: they are counted from zero, and the
intermediate location at a place is what the stage there writes and the one after it reads. -/
structure Pipeline.Linked (p : Pipeline) : Prop where
  length : p.intermediates.length = p.stages.length - 1
  nodup : p.intermediates.Nodup
  index : ∀ (i : Nat) (stage : Stage), p.stages[i]? = some stage → stage.index = i
  isIntermediate : ∀ (i : Nat) (stage : Stage), p.stages[i]? = some stage →
    stage.inputIsIntermediate = decide (0 < i)
  input : ∀ (i : Nat) (stage : Stage), p.stages[i + 1]? = some stage →
    p.intermediates[i]? = some stage.inputLocation
  output : ∀ (i : Nat) (stage : Stage), p.stages[i]? = some stage → i + 1 < p.stages.length →
    p.intermediates[i]? = some stage.outputLocation

namespace Wiring

variable {σ : Type} [Storage σ] {env : Environment σ} {root : String} {plans : List Plan}
  {e : Endpoints} {s s' : Session σ} {p : Pipeline}

theorem linked_empty : Pipeline.empty.Linked := by
  constructor <;> simp [Pipeline.empty]

/-- The stages of a composed pipeline hang together. -/
theorem linked_of_compose (h : compose env root plans e s = (.ok p, s')) : p.Linked := by
  by_cases hne : plans = []
  · obtain rfl : Pipeline.empty = p := by simpa [compose, hne] using congrArg Prod.fst h
    exact linked_empty
  · obtain ⟨sourceFormat, sinkFormat, hstages, hlen, hnodup⟩ := compose_ok hne h
    have hn : p.stages.length = plans.length := by rw [hstages, wire_length]
    have hat {i : Nat} {stage : Stage} (hi : p.stages[i]? = some stage) :=
      wire_stage hlen (hstages ▸ hi)
    refine ⟨by rw [hn, hlen], hnodup, ?_, ?_, ?_, ?_⟩
    · intro i stage hi
      simpa using (hat hi).1
    · intro i stage hi
      simpa using (hat hi).2.2.2.2.1
    · intro i stage hi
      have := (hat hi).2.2.1
      rw [List.getElem?_cons_succ] at this
      exact getElem?_of_between this
    · intro i stage hi hlt
      have := (hat hi).2.2.2.1
      rw [List.getElem?_append_left (by rw [List.length_map, hlen]; omega)] at this
      exact getElem?_of_between this

end Wiring

/-- An environment in which names are counted and the clock stands still. -/
def Environment.counting (σ : Type) : Environment σ :=
  { names := fun n => .ok ("tmp-" ++ toString n), clock := fun _ => ⟨0, some 0⟩, substrate := none,
    progress := none }

/-- Endpoints for chains that make a graph. -/
def Endpoints.sample : Endpoints :=
  { sourceLocation := some "in", sourceFormat := .text "graphson", graphLocation := some "out",
    graphFormat := .text "graphson", statisticsLocation := none, statisticsFormat := .text "text",
    properties := .ofList [("queue", .text "main")] }

end StageChain
