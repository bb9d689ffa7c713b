import StageChain.Run.Outcome
import StageChain.Session.Lease

/-!
# Running a pipeline

Stages are handed to the substrate one after the other. Before each one a notice of progress is
given; after it the intermediate location that it read is released. The first stage that fails
ends the run: the stages whose places are behind its index are skipped, and nothing that was done is
undone. A reply of which nobody can tell whether it is a success ends the run without a result.

* `verdict_eq_error_iff`: no other reply does.
-/

namespace StageChain

/-- The result of a run: an outcome for each stage, and the failure that ended it. -/
structure ExecutionResult where
  outcomes : List Outcome
  error : Option ExecutionError
  deriving DecidableEq

namespace ExecutionResult

/-- Whether every stage completed. -/
def success (r : ExecutionResult) : Bool := r.error.isNone

/-- The index of the stage that failed. -/
def failedStage? (r : ExecutionResult) : Option Int := r.error.map (·.stage)

/-- The outcomes of the stages that completed. -/
def completed (r : ExecutionResult) : List Outcome := r.outcomes.filter (·.status = .completed)

/-- A result as a mapping. -/
def document (r : ExecutionResult) : Value :=
  .object [("success", .bool r.success), ("outcomes", .list (r.outcomes.map (·.document))),
    ("error", .ofOption (r.error.map (·.document)))]

end ExecutionResult

namespace Chain

variable {σ : Type}

/-- The part of the library that logs here. -/
def logger : String := "graphstage.executor"

/-- Gives the notice that a stage is about to be handed over. A fault of who is told is logged and
does no more. -/
def announce (env : Environment σ) (count : Nat) (stage : Stage) (s : Session σ) : Session σ :=
  let event : ProgressEvent := ⟨stage.index, count, stage.name⟩
  let s := s.note (.aboutStage Level.info logger
    ("Executing stage " ++ toString (stage.index + 1) ++ " out of " ++ toString count ++ ": "
      ++ stage.name)
    stage.name "stage_started" event.fields)
  match env.progress with
  | none => s
  | some tell =>
    let s := { s with events := s.events ++ [event] }
    match tell event with
    | none => s
    | some f => s.note
      { LogRecord.plain Level.warning logger ("Progress callback failed: " ++ f.message) with
        fault := some f }

/-- What a reply says of a stage: that it completed, or why it failed. -/
def verdict (stage : Stage) : Reply → Except Fault (Option ExecutionError)
  | .answered true => .ok none
  | .answered false => .ok (some ⟨stage.index, "substrate reported failure", none⟩)
  | .failed f => .ok (some ⟨stage.index, f.summary, some f⟩)
  -- the answer is looked at where faults are no longer taken for failures of the stage
  | .unclear f => .error f

/-- Hands a stage over: why it failed, if it did. -/
def submit (substrate : Substrate σ) (stage : Stage) (s : Session σ) :
    Except Fault (Option ExecutionError) × Session σ :=
  let s := s.noteAll (substrate.notes stage)
  let s := { s with submissions := s.submissions ++ [Submission.mk stage s.storage] }
  let (reply, storage) := substrate.submit stage s.storage
  (verdict stage reply, { s with storage := storage })

/-- The milliseconds between two readings of the clock. -/
def elapsed (start stop : Instant) : Int :=
  Instant.milliseconds ((Instant.since? start stop).getD 0)

/-- What starts a message about the end of a stage. -/
def position (stage : Stage) (count : Nat) : String :=
  "Stage " ++ toString (stage.index + 1) ++ "/" ++ toString count

/-- The record of a stage that failed. -/
def failedRecord (stage : Stage) (count : Nat) (e : ExecutionError) : LogRecord :=
  .aboutStage Level.error logger
    (position stage count ++ " failed: " ++ stage.name ++ ": " ++ e.message)
    stage.name "stage_failed" [("stage_index", .nat stage.index)]

/-- The record of a stage that completed. -/
def completedRecord (stage : Stage) (count : Nat) (milliseconds : Int) : LogRecord :=
  .aboutStage Level.info logger
    (position stage count ++ " completed: " ++ stage.name ++ " (" ++ toString milliseconds ++ "ms)")
    stage.name "stage_completed"
    [("stage_index", .nat stage.index), ("duration_ms", .int milliseconds)]

/-- Releases the location that a stage read, if it is an intermediate one. -/
def releaseInput [Storage σ] (stage : Stage) (s : Session σ) : Session σ :=
  if stage.inputIsIntermediate then
    ((Leases.start "").release stage.inputLocation s).2.2
  else s

/-- The outcomes of the stages behind an index. -/
def skippedAfter (all : List Stage) (index : Nat) : List Outcome :=
  (all.drop (index + 1)).map fun stage => .skipped stage.index stage.name

/-- Runs stages up to the first that fails; `all` are the stages of the pipeline. -/
def runFrom [Storage σ] (env : Environment σ) (substrate : Substrate σ) (all : List Stage) :
    List Stage → Session σ → Except Fault ExecutionResult × Session σ
  | [], s => (.ok ⟨[], none⟩, s)
  | stage :: rest, s =>
    let s := announce env all.length stage s
    -- the clock is read on both sides of the substrate, also of a stage that fails
    let (start, s) := s.read env
    match submit substrate stage s with
    | (.error f, s) => (.error f, s)
    | (.ok (some e), s) =>
      let (stop, s) := s.read env
      (.ok ⟨.failed stage.index stage.name start stop e :: skippedAfter all stage.index, some e⟩,
        s.note (failedRecord stage all.length e))
    | (.ok none, s) =>
      let (stop, s) := s.read env
      let s := s.note (completedRecord stage all.length (elapsed start stop))
      match runFrom env substrate all rest (releaseInput stage s) with
      | (.error f, s) => (.error f, s)
      | (.ok r, s) =>
        (.ok ⟨.completed stage.index stage.name start stop :: r.outcomes, r.error⟩, s)

/-- Runs a pipeline. -/
def run [Storage σ] (env : Environment σ) (substrate : Substrate σ) (p : Pipeline)
    (s : Session σ) : Except Fault ExecutionResult × Session σ :=
  runFrom env substrate p.stages p.stages s

theorem verdict_eq_error_iff {stage : Stage} {r : Reply} {f : Fault} :
    verdict stage r = .error f ↔ r = .unclear f := by
  rcases r with (_ | _) | f' | f' <;> simp [verdict]

end Chain

end StageChain
