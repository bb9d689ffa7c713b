import StageChain.Fault
import StageChain.Session.Instant

/-!
# Outcomes

What became of each stage of a run: it waits, it completed, it failed or it was skipped. Only a
stage that was handed to the substrate has times, and a stage that failed says why.

* `make_status`: what is made has the status that was asked for.
-/

namespace StageChain

/-- A stage failed on the substrate, which raised a fault or only reported a failure. -/
structure ExecutionError where
  stage : Int
  reason : String
  cause : Option Fault
  deriving DecidableEq, Inhabited

namespace ExecutionError

/-- The message of the error. -/
def message (e : ExecutionError) : String := "Stage " ++ toString e.stage ++ " failed: " ++ e.reason

/-- The error as a mapping. -/
def document (e : ExecutionError) : Value :=
  let cause := e.cause.map fun f =>
    Value.object [("type", .text f.kindName), ("message", .text f.message)]
  .object [("stage_index", .int e.stage), ("message", .text e.message),
    ("cause", .ofOption cause)]

end ExecutionError

/-- What became of a stage. -/
inductive Status where
  | pending
  | completed
  | failed
  | skipped
  deriving DecidableEq, Repr, Inhabited

namespace Status

/-- The name of a status. -/
def name : Status → String
  | pending => "pending"
  | completed => "completed"
  | failed => "failed"
  | skipped => "skipped"

/-- The status that a value names. -/
def ofValue? (v : Value) : Option Status :=
  v.text?.bind fun s => [pending, completed, failed, skipped].find? (·.name = s)

/-- Whether the stage was handed to the substrate. -/
def wasSubmitted : Status → Bool
  | completed | failed => true
  | pending | skipped => false

end Status

/-- Why there is no such outcome. -/
inductive OutcomeError where
  | unknownStatus (v : Value)
  | unexpectedTimes (status : Status)
  | missingTimes (status : Status)
  | noDetails
  /-- Only one of the two times has an offset. -/
  | mixedClocks
  deriving DecidableEq, Inhabited

namespace OutcomeError

/-- The kind of the error. -/
def kindName : OutcomeError → String
  | mixedClocks => "TypeError"
  | _ => "ValueError"

/-- The message of the error. -/
def message : OutcomeError → String
  | unknownStatus v => v.quoted ++ " is not a valid StageStatus"
  | unexpectedTimes status => status.name ++ " stages should not have timestamps"
  | missingTimes status => status.name ++ " stages must have started_at and completed_at"
  | noDetails => "Failed stages must carry error details"
  | mixedClocks => "can't subtract offset-naive and offset-aware datetimes"

end OutcomeError

/-- The outcome of a stage. -/
structure Outcome where
  index : Int
  name : String
  status : Status
  startedAt : Option Instant
  completedAt : Option Instant
  details : Option Value
  started_iff : startedAt.isSome = status.wasSubmitted
  completed_iff : completedAt.isSome = status.wasSubmitted
  details_of_failed : status = .failed → details.isSome = true
  deriving DecidableEq

namespace Outcome

/-- The outcome of a stage that completed between two moments. -/
def completed (index : Nat) (name : String) (start stop : Instant) : Outcome :=
  ⟨index, name, .completed, some start, some stop, none, rfl, rfl, by simp⟩

/-- The outcome of a stage that failed between two moments. -/
def failed (index : Nat) (name : String) (start stop : Instant) (e : ExecutionError) : Outcome :=
  ⟨index, name, .failed, some start, some stop, some e.document, rfl, rfl, by simp⟩

/-- The outcome of a stage after one that failed. -/
def skipped (index : Nat) (name : String) : Outcome :=
  ⟨index, name, .skipped, none, none, none, rfl, rfl, by simp⟩

/-- The outcome that is asked for. -/
def make (index : Int) (name : String) (status : Status) (startedAt completedAt : Option Instant)
    (details : Option Value) : Except OutcomeError Outcome :=
  if h : startedAt.isSome = status.wasSubmitted ∧ completedAt.isSome = status.wasSubmitted then
    if hd : status = .failed → details.isSome = true then
      .ok ⟨index, name, status, startedAt, completedAt, details, h.1, h.2, hd⟩
    else .error .noDetails
  else if status.wasSubmitted then .error (.missingTimes status)
  else .error (.unexpectedTimes status)

/-- The time that the stage took in milliseconds, if it was handed to the substrate. -/
def duration (o : Outcome) : Except OutcomeError (Option Int) :=
  match o.startedAt, o.completedAt with
  | some start, some stop => match Instant.since? start stop with
    | some us => .ok (some (Instant.milliseconds us))
    | none => .error .mixedClocks
  | _, _ => .ok none

/-- An outcome as a mapping. -/
def document (o : Outcome) : Value :=
  let time (name : String) (i : Option Instant) : List (String × Value) :=
    i.toList.map fun i => (name, .text i.text)
  .object <|
    [("stage_index", .int o.index), ("name", .text o.name), ("status", .text o.status.name)]
    ++ time "started_at" o.startedAt ++ time "completed_at" o.completedAt
    ++ (o.details.toList.map fun d => ("error", d))

theorem make_status {index : Int} {name : String} {status : Status} {a b : Option Instant}
    {details : Option Value} {o : Outcome} (h : make index name status a b details = .ok o) :
    o.status = status := by
  unfold make at h
  split at h
  · split at h
    · simp only [Except.ok.injEq] at h
      rw [← h]
    · simp at h
  · split at h <;> simp at h

end Outcome

end StageChain
