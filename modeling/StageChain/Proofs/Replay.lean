import StageChain.Proofs.Flow
import StageChain.Run.Draft

/-!
# Drafts that are called again and again

A draft keeps its operations twice: as a list, from which plans are made anew each time, and in a
fusion, by which an operation is checked when it is appended. Whatever a draft is called for, the
two agree. Only an accepted operation changes them; what is refused, plans, compiling and running
leave no trace.

* `Reply`: what a call comes to.
* `Replays`: **the fusion is what the list replays to.**
* `Replays.reached`: so it is after whatever calls.
* `prunes_unappended`: **all calls but accepted operations leave no trace.**
* `Agrees`, `plans_agree`: what a draft has come to after whatever calls.
-/

namespace StageChain

namespace Draft

open History

/-- What a draft is called for. -/
inductive Call where
  | append (x : Descriptor)
  /-- An operation is called with arguments. -/
  | method (op : Op) (positional : List Value) (named : List (Value × Value))
  | plans
  | compile
  | run

/-- What a call comes to. -/
inductive Reply where
  | appended
  | refused (error : CallError)
  | planned (result : Except SchemaMismatch (List Plan))
  | compiled (result : Except PlanningFailure Pipeline)
  | ran (result : Except PlanningFailure Report)

/-- Whether an operation was appended. -/
def Reply.isAppended : Reply → Bool
  | .appended => true
  | _ => false

/-- The operation that a call is to append, if its arguments make one. -/
def Call.descriptor? : Call → Option Descriptor
  | .append x => some x
  | .method op positional named => (Descriptor.call op positional named).toOption
  | _ => none

/-- The operations that were appended in a history. -/
def appendedIn (h : List (Call × Reply)) : List Descriptor :=
  (kept Reply.isAppended h).filterMap (·.descriptor?)

variable {σ : Type} [Storage σ]

/-- The reply to a call, with the draft and the session after it. -/
def answer (env : Environment σ) (state : Draft × Session σ) : Call → Reply × Draft × Session σ
  | .append x => match state.1.append x with
    | (.ok (), d) => (.appended, d, state.2.noteAll (recordsBetween state.1 d))
    | (.error e, d) => (.refused (.mismatch e), d, state.2)
  | .method op positional named => match state.1.call op positional named with
    | (.ok (), d) => (.appended, d, state.2.noteAll (recordsBetween state.1 d))
    | (.error e, d) => (.refused e, d, state.2)
  | .plans =>
    let r := state.1.planned state.2
    (.planned r.1, state.1, r.2)
  | .compile =>
    let r := state.1.compile env state.2
    (.compiled r.1, state.1, r.2)
  | .run =>
    let r := state.1.run env state.2
    (.ran r.1, state.1, r.2)

variable {env : Environment σ} {d : Draft} {x : Descriptor} {c : Call} {calls : List Call}
  {state state' : Draft × Session σ} {ds : List Descriptor}

/-! ## One call -/

theorem answer_of_fits (env : Environment σ) (state : Draft × Session σ)
    (hc : c.descriptor? = some x) (hx : x.input = state.1.fusion.running) :
    (answer env state c).1 = .appended ∧ (answer env state c).2.1 = state.1.accept x := by
  cases c with
  | append y =>
    obtain rfl : y = x := by simpa [Call.descriptor?] using hc
    simp [answer, append_of_fits hx]
  | method op positional named =>
    have hmade : Descriptor.call op positional named = .ok x := by
      cases hcall : Descriptor.call op positional named with
      | error e => simp [Call.descriptor?, hcall, Except.toOption] at hc
      | ok y => simpa [Call.descriptor?, hcall, Except.toOption] using hc
    simp [answer, call, hmade, append_of_fits hx]
  | plans | compile | run => simp [Call.descriptor?] at hc

/-- Any other call appends nothing and keeps the draft. -/
theorem answer_of_not_fits (h : ∀ x ∈ c.descriptor?, x.input ≠ state.1.fusion.running) :
    (answer env state c).1.isAppended = false ∧ (answer env state c).2.1 = state.1 := by
  cases c with
  | append x =>
    have hx : x.input ≠ state.1.fusion.running := h x rfl
    simp [answer, append_of_not_fits hx, Reply.isAppended]
  | method op positional named =>
    cases hcall : Descriptor.call op positional named with
    | error e => simp [answer, call, hcall, Reply.isAppended]
    | ok x =>
      have hx : x.input ≠ state.1.fusion.running :=
        h x (by simp [Call.descriptor?, hcall, Except.toOption])
      simp [answer, call, hcall, append_of_not_fits hx, Reply.isAppended]
  | plans | compile | run => exact ⟨rfl, rfl⟩

/-- **A call appends an operation that fits, or it keeps the draft.** -/
theorem answer_cases (env : Environment σ) (state : Draft × Session σ) (c : Call) :
    (∃ x, c.descriptor? = some x ∧ x.input = state.1.fusion.running ∧
      (answer env state c).1 = .appended ∧ (answer env state c).2.1 = state.1.accept x) ∨
    ((answer env state c).1.isAppended = false ∧ (answer env state c).2.1 = state.1) := by
  by_cases h : ∃ x, c.descriptor? = some x ∧ x.input = state.1.fusion.running
  · obtain ⟨x, hc, hx⟩ := h
    exact .inl ⟨x, hc, hx, answer_of_fits env state hc hx⟩
  · exact .inr (answer_of_not_fits fun x hc hx => h ⟨x, hc, hx⟩)

/-! ## All calls -/

/-- **The fusion of a draft is what its operations replay to**, where these were accepted: they are
its list, and a fresh fusion comes to the same with them. -/
structure Replays (d : Draft) (ds : List Descriptor) : Prop where
  descriptors : d.descriptors = ds
  fusion : (Fusion.start .graph).appendAll ds = .ok d.fusion

theorem replays_start (settings : Settings) : (start settings).Replays [] := ⟨rfl, rfl⟩

theorem Replays.accept (h : d.Replays ds) (hx : x.input = d.fusion.running) :
    (d.accept x).Replays (ds ++ [x]) :=
  ⟨congrArg (· ++ [x]) h.descriptors, Fusion.appendAll_concat h.fusion hx⟩

/-- **Plans that are made anew** are those that a flush of the fusion gives. -/
theorem Replays.plans (h : d.Replays ds) : d.plans = .ok d.fusion.flush.1 := by
  rw [Draft.plans, Fusion.plansOf, h.descriptors, h.fusion]
  rfl

/-- An operation is accepted if it reads what the last accepted one writes. -/
theorem Replays.append_ok_iff (h : d.Replays ds) :
    (d.append x).1 = .ok () ↔ x.input = (ds.getLast?.map (·.output)).getD .graph := by
  rw [Draft.append_ok_iff, Fusion.running_appendAll h.fusion]
  rfl

theorem appendedIn_cons (e : Call × Reply) (h : List (Call × Reply)) :
    appendedIn (e :: h) = appendedIn [e] ++ appendedIn h := by
  cases he : e.2.isAppended with
  | true =>
    rw [appendedIn, appendedIn, kept_cons_of_pos he, kept_cons_of_pos he,
      ← List.singleton_append, List.filterMap_append]
    rfl
  | false =>
    rw [appendedIn, appendedIn, kept_cons_of_neg he, kept_cons_of_neg he]
    rfl

/-- **After whatever calls**, from whatever state, the fusion is what the accepted operations replay
to. -/
theorem Replays.reached (state : Draft × Session σ) (h : state.1.Replays ds) (env : Environment σ)
    (calls : List Call) : (History.reached (answer env) state calls).1.Replays
      (ds ++ appendedIn (answered (answer env) state calls)) := by
  -- the operations before the calls are carried along, since each accepted one joins them
  induction calls generalizing state ds with
  | nil => simpa [answered, appendedIn, kept, History.reached] using h
  | cons c cs ih =>
    rw [answered, reached_cons, appendedIn_cons, ← List.append_assoc]
    rcases answer_cases env state c with ⟨x, hc, hx, hreply, hdraft⟩ | ⟨hreply, hdraft⟩
    · have hone : appendedIn [(c, (answer env state c).1)] = [x] := by
        simp [appendedIn, kept, hreply, Reply.isAppended, hc]
      rw [hone]
      exact ih _ (by rw [hdraft]; exact h.accept hx)
    · have hone : appendedIn [(c, (answer env state c).1)] = [] := by
        simp [appendedIn, kept, hreply]
      rw [hone, List.append_nil]
      exact ih _ (by rw [hdraft]; exact h)

/-- **All calls but accepted operations leave no trace** in a draft, and the session makes no
difference to what is accepted. -/
theorem prunes_unappended (env : Environment σ) :
    Prunes (answer env) Reply.isAppended fun state state' => state.1 = state'.1 where
  dropped := by
    intro state state' c hsame hreply
    rcases answer_cases env state c with ⟨x, -, -, happended, -⟩ | ⟨-, hdraft⟩
    · rw [happended] at hreply
      exact absurd hreply (by simp [Reply.isAppended])
    · exact hdraft.trans hsame
  kept := by
    intro state state' c hsame hreply
    rcases answer_cases env state c with ⟨x, hc, hx, happended, hdraft⟩ | ⟨hnot, -⟩
    · obtain ⟨happended', hdraft'⟩ := answer_of_fits env state' hc (hsame ▸ hx)
      rw [happended, happended', hdraft, hdraft', hsame]
      exact ⟨rfl, rfl⟩
    · rw [hnot] at hreply
      cases hreply

/-- The history of calls to a draft that starts without operations. -/
def historyOf (env : Environment σ) (settings : Settings) (s : Session σ) (calls : List Call) :
    List (Call × Reply) := answered (answer env) (start settings, s) calls

/-- The draft after such calls. -/
def after (env : Environment σ) (settings : Settings) (s : Session σ) (calls : List Call) : Draft :=
  (reached (answer env) (start settings, s) calls).1

theorem replays_after (env : Environment σ) (settings : Settings) (s : Session σ)
    (calls : List Call) :
    (after env settings s calls).Replays (appendedIn (historyOf env settings s calls)) := by
  have h := Replays.reached (start settings, s) (replays_start settings) env calls
  rwa [List.nil_append] at h

/-- **The two ways in which a draft keeps its operations agree**, and nothing but accepted
operations counts. -/
structure Agrees (env : Environment σ) (settings : Settings) (s : Session σ) (calls : List Call) :
    Prop where
  /-- The list of a draft holds the accepted operations. -/
  descriptors : (after env settings s calls).descriptors
    = appendedIn (historyOf env settings s calls)
  /-- Plans can be made anew, and a flush of the fusion would give the same ones. -/
  plans : (after env settings s calls).plans = .ok (after env settings s calls).fusion.flush.1
  /-- A fresh fusion gives them too, with the accepted operations alone. -/
  fresh : Fusion.fresh .graph (appendedIn (historyOf env settings s calls))
    = .ok (after env settings s calls).fusion.flush.1
  /-- Each call for plans was answered so at its moment. -/
  planned : ∀ (n : Nat) (r : Reply), (historyOf env settings s calls)[n]? = some (.plans, r) →
    r = .planned (.ok (after env settings s (calls.take n)).fusion.flush.1)
  /-- An operation is accepted next if it reads what the last accepted one writes. -/
  accepts : ∀ x, ((after env settings s calls).append x).1 = .ok () ↔
    x.input = ((appendedIn (historyOf env settings s calls)).getLast?.map (·.output)).getD .graph
  /-- The accepted operations alone are accepted again and lead to the same draft, whatever the
  session is in which they are appended. -/
  pruned : ∀ t,
    historyOf env settings t (kept Reply.isAppended (historyOf env settings s calls))
        = (historyOf env settings s calls).filter (fun e => e.2.isAppended) ∧
      after env settings t (kept Reply.isAppended (historyOf env settings s calls))
        = after env settings s calls

/-- **Whatever a draft is called for**, the two ways in which it keeps its operations agree. -/
theorem plans_agree (env : Environment σ) (settings : Settings) (s : Session σ)
    (calls : List Call) : Agrees env settings s calls where
  descriptors := (replays_after env settings s calls).descriptors
  plans := (replays_after env settings s calls).plans
  fresh := by
    rw [Fusion.fresh, (replays_after env settings s calls).fusion]
    rfl
  planned := by
    intro n r hn
    rw [historyOf, getElem?_answered] at hn
    obtain ⟨c, -, hanswer⟩ := Option.map_eq_some_iff.1 hn
    rw [Prod.mk.injEq] at hanswer
    obtain ⟨rfl, rfl⟩ := hanswer
    have hplans := (replays_after env settings s (calls.take n)).plans
    rw [after] at hplans ⊢
    simp only [answer, Draft.planned, hplans]
  accepts _ := (replays_after env settings s calls).append_ok_iff
  pruned t := by
    obtain ⟨hanswers, hend⟩ := (prunes_unappended env).answered
      (s := (start settings, s)) (t := (start settings, t)) rfl calls
    exact ⟨hanswers, hend.symm⟩

end Draft

end StageChain
