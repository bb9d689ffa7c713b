import StageChain.Plan.Basic

/-!
# Fusion

Operations are appended one by one and become plans: map-only operations wait in the open stage, and
a grouping operation closes it. An operation that does not read what the chain writes so far is
refused.

* `append_of_fits`, `append_of_not_fits`: what an append comes to, and the fusion after it.
* `append_refused`: **the frame of a refusal**: the fusion is what it was.
* `flush_snd`: a flush starts anew with the same initial schema.
-/

namespace StageChain

/-- An operation reads another schema than the chain writes at its place. -/
inductive SchemaMismatch where
  | input (op : Op) (expected actual : Schema)
  /-- An error that a caller states in words of its own. -/
  | stated (text : String)
  deriving DecidableEq, Inhabited

/-- The message of the error. -/
def SchemaMismatch.message : SchemaMismatch → String
  | input op expected actual =>
    "Op '" ++ op.name ++ "' expects " ++ expected.display ++ " input but the pipeline produces "
      ++ actual.display ++ " at this point"
  | stated text => text

/-- Operations on their way to plans: the closed stages, the map-only operations of the open one,
and what the chain writes so far. -/
structure Fusion where
  initial : Schema
  closed : List Plan
  pending : List Descriptor
  running : Schema
  pending_kind : ∀ d ∈ pending, d.kind = .mapOnly

namespace Fusion

/-- The start of a chain that reads a schema. -/
def start (initial : Schema) : Fusion := ⟨initial, [], [], initial, Plan.mapOnly_nil⟩

instance : Inhabited Fusion := ⟨start .graph⟩

/-- The stage that a grouping operation closes. -/
def closedBy (f : Fusion) (g : Descriptor) (h : g.kind = .grouping) : Plan where
  mapOnly := f.pending
  grouping := some g
  combiner := if g.combinable then some g else none
  mapOutput := g.mapOutput
  output := g.output
  nonempty := .inr (by simp)
  mapOnly_kind := f.pending_kind
  grouping_kind := Plan.grouping_some h
  combiner_op := by
    intro c hc
    split at hc
    · next hg => exact ⟨g, rfl, by simp_all⟩
    · simp at hc

/-- The stage of the operations that wait at the end of the chain, if there are any. -/
def trailing? (f : Fusion) : Option Plan :=
  if h : f.pending = [] then none
  else some {
    mapOnly := f.pending
    grouping := none
    combiner := none
    mapOutput := f.running
    output := f.running
    nonempty := .inl h
    mapOnly_kind := f.pending_kind
    grouping_kind := Plan.grouping_none
    combiner_op := by simp }

/-- Appends an operation that reads what the chain writes. -/
def accept (f : Fusion) (d : Descriptor) : Fusion :=
  if h : d.kind = .grouping then
    -- the map side of the grouping operation runs last in the open stage
    { f with
      closed := f.closed ++ [f.closedBy d h]
      pending := []
      running := d.output
      pending_kind := Plan.mapOnly_nil }
  else
    { f with
      pending := f.pending ++ [d]
      running := d.output
      pending_kind := by
        intro e he
        rcases List.mem_append.1 he with he | he
        · exact f.pending_kind e he
        · rw [List.mem_singleton.1 he]
          cases hk : d.kind with
          | mapOnly => rfl
          | grouping => exact absurd hk h }

/-- Appends an operation, or refuses it: what came of it, and the fusion after it. -/
def append (f : Fusion) (d : Descriptor) : Except SchemaMismatch Unit × Fusion :=
  if d.input = f.running then (.ok (), f.accept d)
  else (.error (.input d.op d.input f.running), f)

/-- Appends operations one after the other. With the first that is refused the fusion is given up. -/
def appendAll (f : Fusion) : List Descriptor → Except SchemaMismatch Fusion
  | [] => .ok f
  | d :: ds => match f.append d with
    | (.ok (), f) => appendAll f ds
    | (.error e, _) => .error e

/-- The plans of all operations. -/
def plans (f : Fusion) : List Plan := f.closed ++ f.trailing?.toList

/-- The plans of all operations, and a start anew. -/
def flush (f : Fusion) : List Plan × Fusion := (f.plans, start f.initial)

/-- The plans of a list of operations that starts from graph elements. -/
def plansOf (ds : List Descriptor) : Except SchemaMismatch (List Plan) :=
  match (start .graph).appendAll ds with
  | .ok f => .ok f.plans
  | .error e => .error e

@[simp] theorem running_accept (f : Fusion) (d : Descriptor) : (f.accept d).running = d.output := by
  unfold accept
  split <;> rfl

@[simp] theorem initial_accept (f : Fusion) (d : Descriptor) :
    (f.accept d).initial = f.initial := by
  unfold accept
  split <;> rfl

theorem append_of_fits {f : Fusion} {d : Descriptor} (h : d.input = f.running) :
    f.append d = (.ok (), f.accept d) := if_pos h

theorem append_of_not_fits {f : Fusion} {d : Descriptor} (h : d.input ≠ f.running) :
    f.append d = (.error (.input d.op d.input f.running), f) := if_neg h

theorem append_ok_iff {f : Fusion} {d : Descriptor} :
    (f.append d).1 = .ok () ↔ d.input = f.running := by
  by_cases h : d.input = f.running
  · simp [append_of_fits h, h]
  · simp [append_of_not_fits h, h]

/-- **The frame of a refusal**: a fusion that refused an operation is what it was. -/
theorem append_refused {f : Fusion} {d : Descriptor} {e : SchemaMismatch}
    (h : (f.append d).1 = .error e) : (f.append d).2 = f := by
  by_cases hd : d.input = f.running
  · rw [append_of_fits hd] at h
    cases h
  · rw [append_of_not_fits hd]

theorem flush_snd (f : Fusion) : f.flush.2 = start f.initial := rfl

end Fusion

end StageChain
