import StageChain.Proofs.Partition

/-!
# The fewest stages

A stage ends at the latest behind its grouping operation, so that a list of operations cannot be cut
into fewer stages than there are segments between grouping operations. A fusion cuts it into exactly
these, and whoever needs as many stages has to cut at the same places.

* `segments`: a list of operations cut behind each grouping operation.
* `segments_operations_append`: the first segment, by the plan that a list starts with.
* `segments_bound`: **no plans are fewer than the segments**, and as many are the segments.
* `map_operations_of_closes`: plans that are cut behind each grouping operation are the segments.
* `plans_minimal`: **a fusion makes the fewest plans**, and nobody else does so at other places.
-/

namespace StageChain

namespace Plan

variable {d : Descriptor} {ds rest : List Descriptor}

/-- Operations put before the first segment, or alone in one. -/
def extend (ds : List Descriptor) : List (List Descriptor) → List (List Descriptor)
  | [] => [ds]
  | s :: ss => (ds ++ s) :: ss

/-- **A list of operations, cut behind each grouping operation.** -/
def segments : List Descriptor → List (List Descriptor)
  | [] => []
  | d :: ds => if d.kind = .grouping then [d] :: segments ds else extend [d] (segments ds)

theorem extend_append (ds ds' : List Descriptor) (ss : List (List Descriptor)) :
    extend ds (extend ds' ss) = extend (ds ++ ds') ss := by
  cases ss <;> simp [extend]

theorem segments_cons_grouping (h : d.kind = .grouping) :
    segments (d :: ds) = [d] :: segments ds := by rw [segments, if_pos h]

theorem segments_cons_mapOnly (h : d.kind = .mapOnly) :
    segments (d :: ds) = extend [d] (segments ds) := by
  rw [segments, if_neg (by simp [h])]

/-- Map-only operations stand before the first segment of what comes after them. -/
theorem segments_append_of_mapOnly (h : ∀ d ∈ ds, d.kind = .mapOnly) (hne : ds ≠ []) :
    segments (ds ++ rest) = extend ds (segments rest) := by
  induction ds with
  | nil => exact absurd rfl hne
  | cons d ds ih =>
    rw [List.cons_append, segments_cons_mapOnly (h d List.mem_cons_self)]
    by_cases hds : ds = []
    · subst hds; rfl
    · rw [ih (fun e he => h e (List.mem_cons_of_mem d he)) hds, extend_append]; rfl

/-- A grouping operation ends the segment that the map-only operations before it are in. -/
theorem segments_append_grouping (h : ∀ d ∈ ds, d.kind = .mapOnly) (hd : d.kind = .grouping) :
    segments (ds ++ d :: rest) = (ds ++ [d]) :: segments rest := by
  by_cases hds : ds = []
  · subst hds; exact segments_cons_grouping hd
  · rw [segments_append_of_mapOnly h hds, segments_cons_grouping hd]; rfl

/-- **The first segment**, by the plan that a list starts with: the plan's operations, with those
that come after them if no grouping operation ends the plan. -/
theorem segments_operations_append (p : Plan) (rest : List Descriptor) :
    segments (p.operations ++ rest) = if p.grouping.isSome then p.operations :: segments rest
      else extend p.operations (segments rest) := by
  cases hg : p.grouping with
  | some g =>
    have ho : p.operations = p.mapOnly ++ [g] := by simp [operations, hg]
    rw [ho, List.append_assoc]
    exact segments_append_grouping p.mapOnly_kind (p.grouping_kind g hg)
  | none =>
    have ho : p.operations = p.mapOnly := by simp [operations, hg]
    rw [ho]
    exact segments_append_of_mapOnly p.mapOnly_kind (ho ▸ p.operations_ne_nil)

/-- **No plans are fewer than the segments of their operations**, and if they are as many, each has
the operations of one segment. -/
theorem segments_bound (plans : List Plan) :
    (segments (plans.flatMap (·.operations))).length ≤ plans.length ∧
      (plans.length = (segments (plans.flatMap (·.operations))).length →
        plans.map (·.operations) = segments (plans.flatMap (·.operations))) := by
  induction plans with
  | nil => exact ⟨Nat.le_refl 0, fun _ => rfl⟩
  | cons p plans ih =>
    obtain ⟨hle, heq⟩ := ih
    rw [List.flatMap_cons, segments_operations_append, List.length_cons, List.map_cons]
    generalize segments (plans.flatMap (·.operations)) = ss at hle heq ⊢
    cases hg : p.grouping with
    | some g =>
      simp only [Option.isSome_some, if_true, List.length_cons]
      exact ⟨by omega, fun hn => by rw [heq (by omega)]⟩
    | none =>
      simp only [Option.isSome_none, Bool.false_eq_true, if_false]
      cases ss with
      | nil =>
        refine ⟨Nat.succ_le_succ (Nat.zero_le _), fun hn => ?_⟩
        rw [heq (by simpa [extend] using hn)]; rfl
      | cons s ss =>
        -- the plan shares its segment with the next one, so there is a plan too many
        rw [List.length_cons] at hle
        simp only [extend, List.length_cons]
        exact ⟨by omega, fun hn => absurd hn (by omega)⟩

/-- Plans of which only the last may lack a grouping operation have the operations of one segment
each. -/
theorem map_operations_of_closes {plans : List Plan}
    (h : ∀ p ∈ plans.dropLast, p.grouping ≠ none) :
    plans.map (·.operations) = segments (plans.flatMap (·.operations)) := by
  induction plans with
  | nil => rfl
  | cons p plans ih =>
    rw [List.map_cons, List.flatMap_cons, segments_operations_append]
    cases plans with
    | nil => cases p.grouping <;> rfl
    | cons q plans =>
      rw [List.dropLast_cons_cons, List.forall_mem_cons] at h
      rw [if_pos (Option.isSome_iff_ne_none.2 h.1), ih h.2]

end Plan

namespace Fusion

variable {initial : Schema} {ds : List Descriptor} {f : Fusion}

/-- **A fusion makes the fewest plans, and only it does.** Whatever plans have the operations of an
accepted list in order, there are at least as many of them as an empty fusion makes, and if there
are not more they cut the list at the same places. -/
theorem plans_minimal (h : (start initial).appendAll ds = .ok f) (plans : List Plan)
    (hplans : plans.flatMap (·.operations) = ds) :
    f.flush.1.length ≤ plans.length ∧
      (plans.length = f.flush.1.length →
        plans.map (·.operations) = f.flush.1.map (·.operations)) := by
  have held := holds_start.appendAll h
  have hcut : f.plans.map (·.operations) = Plan.segments ds := by
    rw [Plan.map_operations_of_closes fun p hp => held.grouping_dropLast hp, held.operations_plans]
    rfl
  have hlength : f.plans.length = (Plan.segments ds).length := by
    rw [← hcut, List.length_map]
  subst hplans
  obtain ⟨hle, heq⟩ := Plan.segments_bound plans
  refine ⟨hlength ▸ hle, fun hn => ?_⟩
  exact (heq (hn.trans hlength)).trans hcut.symm

/-- The sample, with its first operation in a stage of its own: there is one stage more than needed.
-/
theorem plans_minimal_sample : ∃ first others,
    (start .graph).appendAll (sampleChain.take 1) = .ok first ∧
    (start .graph).appendAll (sampleChain.drop 1) = .ok others ∧
    (start .graph).appendAll sampleChain = .ok sampleFusion ∧
    (first.plans ++ others.plans).flatMap (·.operations) = sampleChain ∧
    sampleFusion.flush.1.length ≤ (first.plans ++ others.plans).length ∧
    (first.plans ++ others.plans).length = 4 ∧ sampleFusion.flush.1.length = 3 := by
  have hfirst : (start .graph).appendAll (sampleChain.take 1) = .ok _ := rfl
  have hothers : (start .graph).appendAll (sampleChain.drop 1) = .ok _ := rfl
  have hf : (start .graph).appendAll sampleChain = .ok sampleFusion := rfl
  exact ⟨_, _, hfirst, hothers, hf, rfl, (plans_minimal hf _ rfl).1, rfl, rfl⟩

end Fusion

end StageChain
