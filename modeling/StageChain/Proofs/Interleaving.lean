import StageChain.Proofs.History
import StageChain.Proofs.Partition

/-!
# Appends and flushes in any order

A fusion is used again and again: operations are appended, accepted or refused, and from time to
time it is flushed. Whatever the order, a refused append leaves no trace, and each flush gives the
plans of what was accepted since the flush before it, as if nothing else had ever happened.

* `Row`: all that shows after a call.
* `batches`: the operations appended before each flush, and those after the last one.
* `appendAll_waiting`: **what a fusion has come to**: that of a fresh one to which the operations
  since the last flush were appended.
* `rejected_leave_no_trace`: **appends and flushes in any order.**
-/

namespace StageChain

namespace Fusion

open History

/-- What a fusion is called for. -/
inductive Call where
  | append (d : Descriptor)
  | flush

/-- What a call comes to. -/
inductive Answer where
  | appended
  | refused (error : SchemaMismatch)
  | flushed (plans : List Plan)

/-- **All that shows after a call**: its answer, what the chain writes, how many operations wait in
the open stage and how many stages are closed. -/
structure Row where
  answer : Answer
  running : Schema
  pending : Nat
  closed : Nat

/-- Whether the call was not an append that is refused. -/
def Row.accepted (r : Row) : Bool :=
  match r.answer with
  | .refused _ => false
  | _ => true

/-- The answer to a call, and the fusion after it. -/
def answer (f : Fusion) : Call → Answer × Fusion
  | .append d => match f.append d with
    | (.ok (), f) => (.appended, f)
    | (.error e, f) => (.refused e, f)
  | .flush => (.flushed f.flush.1, f.flush.2)

/-- A call with all that shows after it. -/
def step (f : Fusion) (c : Call) : Row × Fusion :=
  let r := f.answer c
  (⟨r.1, r.2.running, r.2.pending.length, r.2.closed.length⟩, r.2)

/-- The plans that the flushes of a history gave. -/
def flushed (h : List (Call × Row)) : List (List Plan) :=
  h.filterMap fun e => match e.2.answer with
    | .flushed plans => some plans
    | _ => none

/-- The operations that are appended before each flush, and those after the last one, where some
wait at the start. -/
def batchesFrom : (waiting : List Descriptor) → List Call → List (List Descriptor) × List Descriptor
  | ds, [] => ([], ds)
  | ds, .append d :: cs => batchesFrom (ds ++ [d]) cs
  | ds, .flush :: cs =>
    let rest := batchesFrom [] cs
    (ds :: rest.1, rest.2)

/-- **The operations that are appended before each flush**, and those after the last one. -/
def batches (calls : List Call) : List (List Descriptor) × List Descriptor := batchesFrom [] calls

/-- What a fresh fusion gives for operations that are appended and flushed. -/
def fresh (initial : Schema) (ds : List Descriptor) : Except SchemaMismatch (List Plan) :=
  ((start initial).appendAll ds).map fun f => f.flush.1

variable {f f' : Fusion} {d : Descriptor} {ds : List Descriptor} {initial : Schema}
  {calls : List Call} {c : Call}

/-! ## One call -/

theorem step_append_of_fits (h : d.input = f.running) : f.step (.append d)
    = (⟨.appended, d.output, (f.accept d).pending.length, (f.accept d).closed.length⟩,
        f.accept d) := by
  simp [step, answer, append_of_fits h]

theorem step_append_of_not_fits (h : d.input ≠ f.running) : f.step (.append d)
    = (⟨.refused (.input d.op d.input f.running), f.running, f.pending.length, f.closed.length⟩,
      f) := by
  simp [step, answer, append_of_not_fits h]

theorem step_flush : f.step .flush
    = (⟨.flushed f.plans, f.initial, 0, 0⟩, start f.initial) := rfl

/-- After a refused call the fusion is what it was: the frame of a refused append. -/
theorem step_of_refused (h : (f.step c).1.accepted = false) : (f.step c).2 = f := by
  cases c with
  | append d =>
    cases ha : f.append d with
    | mk r f' =>
      cases r with
      | ok => simp [step, answer, ha, Row.accepted] at h
      | error e =>
        have hframe : f' = f := by simpa [ha] using append_refused (f := f) (d := d) (e := e)
        simp only [step, answer, ha, hframe]
  | flush => simp [step_flush, Row.accepted] at h

theorem prunes_refused : Prunes step Row.accepted Eq where
  dropped := by
    rintro f _ c rfl hrefused
    exact step_of_refused hrefused
  kept := by
    rintro f _ c rfl -
    exact ⟨rfl, rfl⟩

/-! ## What waits since the last flush -/

theorem appendAll_concat (h : (start initial).appendAll ds = .ok f) (hd : d.input = f.running) :
    (start initial).appendAll (ds ++ [d]) = .ok (f.accept d) := by
  generalize start initial = s at h ⊢
  induction ds generalizing s with
  | nil =>
    obtain rfl : s = f := by simpa [appendAll] using h
    simp [appendAll, append_of_fits hd]
  | cons e ds ih =>
    obtain ⟨he, hrest⟩ := appendAll_cons_ok_iff.1 h
    exact appendAll_cons_ok_iff.2 ⟨he, ih _ hrest⟩

theorem initial_appendAll (h : f.appendAll ds = .ok f') : f'.initial = f.initial := by
  induction ds generalizing f with
  | nil =>
    obtain rfl : f = f' := by simpa [appendAll] using h
    rfl
  | cons d ds ih => rw [ih (appendAll_cons_ok_iff.1 h).2, initial_accept]

theorem flushed_cons (e : Call × Row) (h : List (Call × Row)) :
    flushed (e :: h) = flushed [e] ++ flushed h := by
  rw [← List.singleton_append, flushed, List.filterMap_append]; rfl

/-- **Batch by batch**: a fusion to which some operations were appended comes to what a fresh one
comes to with the accepted ones since the last flush, and each flush gives what a fresh one gives
for those since the flush before it. -/
theorem batches_from (hf : (start initial).appendAll ds = .ok f) (calls : List Call) :
    (start initial).appendAll (batchesFrom ds (kept Row.accepted (answered step f calls))).2
        = .ok (reached step f calls) ∧
      (flushed (answered step f calls)).map Except.ok
        = (batchesFrom ds (kept Row.accepted (answered step f calls))).1.map (fresh initial) := by
  -- what is carried along is that the fusion is a fresh one with the operations that wait
  induction calls generalizing f ds with
  | nil => exact ⟨by simpa [answered, kept, batchesFrom, reached] using hf, rfl⟩
  | cons c cs ih =>
    rw [answered, reached_cons, flushed_cons, List.map_append]
    cases c with
    | append d =>
      by_cases hd : d.input = f.running
      · rw [kept_cons_of_pos (by simp [step_append_of_fits hd, Row.accepted]), batchesFrom,
          step_append_of_fits hd]
        exact ih (appendAll_concat hf hd)
      · rw [kept_cons_of_neg (by simp [step_append_of_not_fits hd, Row.accepted]),
          step_append_of_not_fits hd]
        exact ih hf
    | flush =>
      have hinitial : f.initial = initial := (initial_appendAll hf).trans rfl
      -- nothing waits after a flush, so the rest starts from a fresh fusion
      have hstart : (start initial).appendAll [] = .ok (start initial) := rfl
      obtain ⟨hend, hflushed⟩ := ih hstart
      have hstep : f.step .flush = (⟨.flushed f.plans, initial, 0, 0⟩, start initial) := by
        rw [step_flush, hinitial]
      have hfresh : fresh initial ds = .ok f.plans := by rw [fresh, hf]; rfl
      rw [kept_cons_of_pos (by simp [hstep, Row.accepted]), batchesFrom, hstep]
      refine ⟨hend, ?_⟩
      rw [List.map_cons, hfresh, ← hflushed]
      rfl

/-- **What a fusion has come to**, whatever it was called for: that of a fresh one to which the
accepted operations since the last flush were appended. -/
theorem appendAll_waiting (initial : Schema) (calls : List Call) :
    (start initial).appendAll
        (batches (kept Row.accepted (answered step (start initial) calls))).2
      = .ok (reached step (start initial) calls) :=
  (batches_from rfl calls).1

/-- **Appends and flushes in any order.** Without the refused appends, all others come to the same
and show the same after them; after each call the fusion is the one that the calls up to there lead
to without the refused ones; and each flush gives what a fresh fusion gives for the accepted
operations since the flush before it. -/
theorem rejected_leave_no_trace (initial : Schema) (calls : List Call) :
    let history := answered step (start initial) calls
    answered step (start initial) (kept Row.accepted history)
        = history.filter (fun e => e.2.accepted) ∧
      (∀ n, reached step (start initial) (kept Row.accepted (history.take n))
        = reached step (start initial) (calls.take n)) ∧
      (flushed history).map Except.ok
        = (batches (kept Row.accepted history)).1.map (fresh initial) := by
  intro history
  refine ⟨(prunes_refused.answered rfl calls).1, fun n => ?_, (batches_from rfl calls).2⟩
  rw [← answered_take]
  exact (prunes_refused.answered rfl (calls.take n)).2.symm

end Fusion

end StageChain
