import StageChain.Operation.Construction
import StageChain.Plan.Fusion
import StageChain.Recipe.Basic
import StageChain.Run.Chain
import StageChain.Settings.Basic

/-!
# Drafts

A draft collects operations for one pipeline. Each is checked when it is appended and refused if
it does not read what the chain writes so far. A draft is compiled into a pipeline as often as one
likes, and run: then the sink is deleted first if the settings say so, and the result is a report.

* `append_of_fits`, `append_of_not_fits`: what an append comes to, and the draft after it.
* `Report.status_eq_zero_iff`: when a run is a success.
-/

namespace StageChain

/-- What a run ended in. -/
inductive Report where
  /-- No pipeline could be planned. -/
  | unplanned (failure : PlanningFailure)
  /-- There was nothing to run. -/
  | idle (pipeline : Pipeline)
  /-- Stages were run. -/
  | executed (pipeline : Pipeline) (result : ExecutionResult)

namespace Report

/-- The status of a run: 0 for success, 1 for a failure on the substrate, 2 for one in planning. -/
def status : Report → Nat
  | unplanned _ => 2
  | idle _ => 0
  | executed _ r => if r.success then 0 else 1

/-- The pipeline that was planned. -/
def pipeline? : Report → Option Pipeline
  | unplanned _ => none
  | idle p | executed p _ => some p

/-- The result of the stages that were run. -/
def result? : Report → Option ExecutionResult
  | executed _ r => some r
  | _ => none

/-- Where the run failed. -/
def failureName? : Report → Option String
  | unplanned _ => some "planning"
  | idle _ => none
  | executed _ r => if r.success then none else some "execution"

/-- What the failure says. -/
def errorMessage? : Report → Option String
  | unplanned e => some e.message
  | idle _ => none
  | executed _ r => r.error.map (·.message)

/-- The number of stages of the pipeline. -/
def stageCount (r : Report) : Nat := (r.pipeline?.map (·.size)).getD 0

/-- A report as a mapping. -/
def document (r : Report) : Value :=
  .object [("status", .nat r.status), ("failure", .ofOption (r.failureName?.map .text)),
    ("stage_index", .ofOption ((r.result?.bind (·.failedStage?)).map .int)),
    ("error", .ofOption (r.errorMessage?.map .text)), ("stages", .nat r.stageCount),
    ("outcomes", .list (((r.result?.map (·.outcomes)).getD []).map (·.document)))]

theorem status_eq_zero_iff (r : Report) : r.status = 0 ↔ r.failureName? = none := by
  cases r with
  | unplanned _ => simp [status, failureName?]
  | idle _ => simp [status, failureName?]
  | executed _ r => cases h : r.success <;> simp [status, failureName?, h]

end Report

/-- Operations for one pipeline, with its settings. -/
structure Draft where
  settings : Settings
  descriptors : List Descriptor
  fusion : Fusion

/-- Why a call does not append an operation. -/
inductive CallError where
  | build (error : BuildError)
  | mismatch (error : SchemaMismatch)
  deriving DecidableEq, Inhabited

/-- Why the entries of a recipe are not all appended. -/
inductive ApplyError where
  | recipe (failure : RecipeFailure)
  | mismatch (error : SchemaMismatch)
  deriving DecidableEq, Inhabited

namespace Draft

/-- A draft without operations. -/
def start (settings : Settings) : Draft := ⟨settings, [], .start .graph⟩

/-- Appends an operation, or refuses it: what came of it, and the draft after it. -/
def append (d : Draft) (x : Descriptor) : Except SchemaMismatch Unit × Draft :=
  match d.fusion.append x with
  | (.error e, f) => (.error e, { d with fusion := f })
  | (.ok (), f) => (.ok (), { d with descriptors := d.descriptors ++ [x], fusion := f })

/-- Appends an operation that is called with arguments. -/
def call (d : Draft) (op : Op) (positional : List Value) (named : List (Value × Value)) :
    Except CallError Unit × Draft :=
  match Descriptor.call op positional named with
  | .error e => (.error (.build e), d)
  | .ok x => match d.append x with
    | (.error e, d) => (.error (.mismatch e), d)
    | (.ok (), d) => (.ok (), d)

/-- Appends the entries of a recipe from a position on, up to the first that is refused. -/
def applyFrom : (position : Nat) → List RecipeEntry → Draft → Draft × Option ApplyError
  | _, [], d => (d, none)
  | i, e :: es, d => match Recipe.build i e with
    | .error f => (d, some (.recipe f))
    | .ok x => match d.append x with
      | (.error m, d) => (d, some (.mismatch m))
      | (.ok (), d) => applyFrom (i + 1) es d

/-- Appends the entries of a recipe. -/
def apply (d : Draft) (es : List RecipeEntry) : Draft × Option ApplyError := applyFrom 0 es d

/-- The plans of the operations. -/
def plans (d : Draft) : Except SchemaMismatch (List Plan) := Fusion.plansOf d.descriptors

/-- The record of a stage that is closed. -/
def closedRecord (index : Nat) (p : Plan) : LogRecord :=
  .plain Level.debug "graphstage.builder" ("Closed stage " ++ toString index ++ ": " ++ p.name)

/-- The records of stages that are closed from an index on. -/
def closedRecords : (index : Nat) → List Plan → List LogRecord
  | _, [] => []
  | i, p :: ps => closedRecord i p :: closedRecords (i + 1) ps

/-- The records of the stages that were closed between two drafts. -/
def recordsBetween (before after : Draft) : List LogRecord :=
  let n := before.fusion.closed.length
  closedRecords n (after.fusion.closed.drop n)

/-- The part of the library that logs here. -/
def logger : String := "graphstage.compiler"

/-- A record for who wants to know. -/
def info (message : String) : LogRecord := .plain Level.info logger message

variable {σ : Type}

/-- The plans of the operations, logged. -/
def planned (d : Draft) (s : Session σ) : Except SchemaMismatch (List Plan) × Session σ :=
  match d.plans with
  | .error e => (.error e, s)
  | .ok ps => (.ok ps, s.noteAll (closedRecords 0 ps))

/-- The pipeline of the operations. -/
def compile [Storage σ] (env : Environment σ) (d : Draft) (s : Session σ) :
    Except PlanningFailure Pipeline × Session σ :=
  match d.planned s with
  | (.error e, s) => (.error (.mismatch e), s)
  | (.ok ps, s) =>
    match Wiring.compose env d.settings.intermediateRoot ps d.settings.endpoints s with
    | (.error e, s) => (.error e, s)
    | (.ok p, s) => (.ok p, s.note (info ("Compiled to " ++ toString p.size ++ " stage(s)")))

/-- Releases the locations of a pipeline that will not be run. -/
def abandon [Storage σ] (p : Pipeline) (s : Session σ) : Session σ :=
  (Leases.releaseEach p.intermediates (.start "") s).2.2

/-- Deletes the sink of a pipeline, if the settings say so and it is there. -/
def prepareSink [Storage σ] (d : Draft) (p : Pipeline) (s : Session σ) :
    Except PlanningFailure Unit × Session σ :=
  match p.sinkLocation? with
  | none => (.ok (), s)
  | some sink =>
    if !d.settings.overwrite || sink = "" then (.ok (), s)
    else match s.clear sink with
      | (.ok true, s) => (.ok (), s.note (info ("Deleted existing output location: " ++ sink)))
      | (.ok false, s) => (.ok (), s)
      -- no stage will be run, so nobody needs the intermediate locations
      | (.error f, s) => (.error (.composition (.notOverwritten sink f)), abandon p s)

/-- The pipeline of the operations, with its sink out of the way. -/
def prepare [Storage σ] (env : Environment σ) (d : Draft) (s : Session σ) :
    Except PlanningFailure Pipeline × Session σ :=
  match d.compile env s with
  | (.error e, s) => (.error e, s)
  | (.ok p, s) => match d.prepareSink p s with
    | (.error e, s) => (.error e, s)
    | (.ok (), s) => (.ok p, s)

/-- The record of a failure in planning. -/
def failedRecord (e : PlanningFailure) : LogRecord :=
  .withEvent Level.error logger ("Planning failed: " ++ e.message) "planning_failed"
    [("error_type", .text e.kindName)]

/-- Runs the pipeline of the operations. A failure that is none of planning is not reported but
passed on, and so is the fault of an answer that is unclear. -/
def run [Storage σ] (env : Environment σ) (d : Draft) (s : Session σ) :
    Except PlanningFailure Report × Session σ :=
  match env.substrate with
  | none => (.error (.fault .noSubstrate), s)
  | some substrate =>
    let s := s.note (info ("Generating stage chain: " ++ d.settings.name.plain))
    match d.prepare env s with
    | (.error e, s) =>
      -- only failures of planning are reported, any other is the caller's
      if e.isPlanning then (.ok (.unplanned e), s.note (failedRecord e)) else (.error e, s)
    | (.ok p, s) =>
      if p.isEmpty then (.ok (.idle p), s.note (info "No operations to run"))
      else match Chain.run env substrate p s with
        | (.error f, s) => (.error (.fault f), s)
        | (.ok r, s) =>
          let s := if r.success then
              s.note (info ("Pipeline completed: " ++ toString p.size ++ " stage(s)"))
            else s
          (.ok (.executed p r), s)

/-- The draft with an accepted operation. -/
def accept (d : Draft) (x : Descriptor) : Draft :=
  { d with descriptors := d.descriptors ++ [x], fusion := d.fusion.accept x }

theorem append_of_fits {d : Draft} {x : Descriptor} (h : x.input = d.fusion.running) :
    d.append x = (.ok (), d.accept x) := by
  rw [append, Fusion.append_of_fits h]
  rfl

theorem append_of_not_fits {d : Draft} {x : Descriptor} (h : x.input ≠ d.fusion.running) :
    d.append x = (.error (.input x.op x.input d.fusion.running), d) := by
  rw [append, Fusion.append_of_not_fits h]

theorem append_ok_iff {d : Draft} {x : Descriptor} :
    (d.append x).1 = .ok () ↔ x.input = d.fusion.running := by
  by_cases h : x.input = d.fusion.running
  · simp [append_of_fits h, h]
  · simp [append_of_not_fits h, h]

end Draft

end StageChain
