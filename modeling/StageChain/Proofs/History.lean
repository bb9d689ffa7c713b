import Mathlib.Data.List.Basic

/-!
# Histories

Something is called again and again, answers each call and moves on to another state. A history is
the list of the calls with their answers. Some of the calls may leave no trace: then the others are
answered alike without them.

* `getElem?_answered`: each answer is given in the state that the calls before it lead to.
* `reached_induction`: what each call preserves holds after all of them.
* `Prunes`: **calls that leave no trace**, by their answers.
* `Prunes.answered`: **a history without them** has the other answers and ends alike.
-/

namespace StageChain

namespace History

variable {σ κ α : Type} (step : σ → κ → α × σ)

/-- The state in which calls end. -/
def reached (s : σ) (calls : List κ) : σ := calls.foldl (fun s c => (step s c).2) s

/-- **The history of calls**: each with its answer. -/
def answered : σ → List κ → List (κ × α)
  | _, [] => []
  | s, c :: cs => (c, (step s c).1) :: answered (step s c).2 cs

/-- The calls of a history whose answers satisfy a test. -/
def kept (keep : α → Bool) (h : List (κ × α)) : List κ := (h.filter fun e => keep e.2).map Prod.fst

variable {step} {keep : α → Bool} {s t : σ} {c : κ} {calls : List κ}

theorem reached_cons : reached step s (c :: calls) = reached step (step s c).2 calls := rfl

/-- The answer at a place is the one that is given in the state before it. -/
theorem getElem?_answered (n : Nat) : (answered step s calls)[n]?
    = calls[n]?.map fun c => (c, (step (reached step s (calls.take n)) c).1) := by
  induction calls generalizing s n with
  | nil => rfl
  | cons c cs ih =>
    cases n with
    | zero => rfl
    | succ n => exact ih n

theorem answered_take (n : Nat) :
    answered step s (calls.take n) = (answered step s calls).take n := by
  induction calls generalizing s n with
  | nil => simp [answered]
  | cons c cs ih =>
    cases n with
    | zero => rfl
    | succ n => exact congrArg (_ :: ·) (ih n)

/-- **What each call preserves** holds after all of them. -/
theorem reached_induction {P : σ → Prop} (h : P s)
    (hstep : ∀ s, ∀ c ∈ calls, P s → P (step s c).2) : P (reached step s calls) := by
  induction calls generalizing s with
  | nil => exact h
  | cons c cs ih =>
    exact ih (hstep s c List.mem_cons_self h) fun s c hc => hstep s c (List.mem_cons_of_mem _ hc)

theorem kept_cons_of_pos {e : κ × α} {h : List (κ × α)} (he : keep e.2 = true) :
    kept keep (e :: h) = e.1 :: kept keep h := by simp [kept, he]

theorem kept_cons_of_neg {e : κ × α} {h : List (κ × α)} (he : keep e.2 = false) :
    kept keep (e :: h) = kept keep h := by simp [kept, he]

/-- **Calls whose answers fail a test leave no trace**, where only what states have in common is
looked at: such a call keeps that, and every other one is answered alike and keeps it as well. -/
structure Prunes (step : σ → κ → α × σ) (keep : α → Bool) (R : σ → σ → Prop) : Prop where
  dropped : ∀ {s t c}, R s t → keep (step s c).1 = false → R (step s c).2 t
  kept : ∀ {s t c}, R s t → keep (step s c).1 = true →
    (step t c).1 = (step s c).1 ∧ R (step s c).2 (step t c).2

/-- **A history without the calls that leave no trace** has the other answers, and it ends alike. -/
theorem Prunes.answered {R : σ → σ → Prop} (h : Prunes step keep R) (hst : R s t)
    (calls : List κ) :
    answered step t (History.kept keep (History.answered step s calls))
        = (History.answered step s calls).filter (fun e => keep e.2) ∧
      R (reached step s calls)
        (reached step t (History.kept keep (History.answered step s calls))) := by
  induction calls generalizing s t with
  | nil => exact ⟨rfl, hst⟩
  | cons c cs ih =>
    rw [History.answered]
    cases hk : keep (step s c).1 with
    | false =>
      rw [kept_cons_of_neg hk, List.filter_cons_of_neg (by simp [hk])]
      exact ih (h.dropped hst hk)
    | true =>
      obtain ⟨hanswer, hnext⟩ := h.kept hst hk
      obtain ⟨hrest, hend⟩ := ih hnext
      rw [kept_cons_of_pos hk, List.filter_cons_of_pos (by simp [hk])]
      refine ⟨?_, hend⟩
      rw [History.answered, hanswer, hrest]

end History

end StageChain
