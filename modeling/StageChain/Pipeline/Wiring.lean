import StageChain.Pipeline.Format
import StageChain.Session.Lease

/-!
# Wiring

Plans become a pipeline by giving each stage its locations. The source format is checked before
anything is leased; then an intermediate location is leased for every two stages in a row; the
sink is checked last. If anything fails after the first lease, all leases are released and their
locations deleted before the failure is reported.

* `wire_length`: there is a stage for every plan.
-/

namespace StageChain

/-- Where a pipeline reads and writes. A chain that makes a graph writes to the sink for graphs, any
other one to the sink for statistics. The properties go into the configuration of every stage. -/
structure Endpoints where
  sourceLocation : Option String
  sourceFormat : Value
  graphLocation : Option String
  graphFormat : Value
  statisticsLocation : Option String
  statisticsFormat : Value
  properties : Table String Value

/-- Whether every stage writes graph elements, so that the chain makes another graph. -/
def isDerivation (plans : List Plan) : Bool := plans.all (·.output = .graph)

namespace Wiring

/-- The part of the library that logs here. -/
def logger : String := "graphstage.composer"

/-- A sink: its role in messages, its formats, the one that is asked for and its location. -/
structure Sink where
  role : String
  supported : List String
  format : Value
  location : Option String

/-- The sink of a pipeline. -/
def sinkOf (e : Endpoints) (isDerivation : Bool) : Sink :=
  if isDerivation then ⟨"graph sink", Format.graphSinks, e.graphFormat, e.graphLocation⟩
  else ⟨"statistics sink", Format.statisticsSinks, e.statisticsFormat, e.statisticsLocation⟩

/-- The format of a sink that can be written to. -/
def checkSink (k : Sink) : Except PlanningFailure String :=
  match Format.check k.format k.role k.supported with
  | .error e => .error e
  | .ok format =>
    if Format.lacksLocation format k.location then
      .error (.composition (.noSinkLocation k.role format))
    else .ok format

/-- The format of a source that can be read. -/
def checkSource (e : Endpoints) : Except PlanningFailure String :=
  match Format.check e.sourceFormat "source" Format.sources with
  | .error err => .error err
  | .ok format =>
    if Format.lacksLocation format e.sourceLocation then
      .error (.composition (.noSourceLocation format))
    else .ok format

/-- The configuration of a stage: that of its plan, with the properties put in after it. -/
def stageConfiguration (properties : Table String Value) (p : Plan) : Table String Value :=
  (p.configuration.mapValues ConfigValue.toValue).insertAll properties.entries

/-- A location with its format. -/
structure Place where
  location : String
  format : String
  deriving DecidableEq, Inhabited

/-- The stages of plans from an index on. The first one reads from `input`; each writes to the next
intermediate location as long as there is one, and the last one to `output`. -/
def wire (properties : Table String Value) (output : Place) :
    (index : Nat) → (input : Place) → List Plan → List String → List Stage
  | _, _, [], _ => []
  | i, input, p :: ps, locations =>
    let out := match ps, locations with
      | _ :: _, l :: _ => ⟨l, Format.intermediate⟩
      | _, _ => output
    { index := i
      plan := p
      inputLocation := input.location
      outputLocation := out.location
      inputFormat := input.format
      outputFormat := out.format
      configuration := stageConfiguration properties p
      inputIsIntermediate := 0 < i
      outputIsIntermediate := !ps.isEmpty } :: wire properties output (i + 1) out ps locations.tail

theorem wire_length (properties : Table String Value) (output : Place) (i : Nat) (input : Place)
    (ps : List Plan) (locations : List String) :
    (wire properties output i input ps locations).length = ps.length := by
  induction ps generalizing i input locations with
  | nil => rfl
  | cons p ps ih => simp [wire, ih]

/-- Releases all leases after a failure. -/
def rollback {σ : Type} [Storage σ] (l : Leases) (s : Session σ) : Session σ :=
  let (faults, _, s) := l.releaseAll s
  if l.held.isEmpty then s
  else s.note (.withEvent Level.warning logger
    ("Rolled back " ++ toString l.held.length ++ " intermediate location(s) ("
      ++ toString faults.length ++ " cleanup error(s))")
    "composition_rollback" [("locations", .texts l.held)])

/-- What a fault on the way becomes: a fault of the pipeline's own kinds stays as it is. -/
def failureOf (f : Fault) : PlanningFailure :=
  if f.isOwn then .fault f else .composition (.interrupted f)

/-- What a failure to check the sink becomes. -/
def sinkFailure : PlanningFailure → PlanningFailure
  | .fault f => failureOf f
  | e => e

/-- The record of a pipeline that was composed. -/
def composedRecord (p : Pipeline) : LogRecord :=
  .withEvent Level.info logger
    ("Composed " ++ toString p.size ++ " stage(s), " ++ toString p.intermediates.length
      ++ " intermediate location(s)")
    "pipeline_composed"
    [("stages", .texts (p.stages.map (·.name))), ("derivation", .bool p.isDerivation)]

/-- The pipeline of plans between their endpoints. -/
def compose {σ : Type} [Storage σ] (env : Environment σ) (root : String) (plans : List Plan)
    (e : Endpoints) (s : Session σ) : Except PlanningFailure Pipeline × Session σ :=
  if plans.isEmpty then (.ok .empty, s)
  else match checkSource e with
    | .error err => (.error err, s)
    | .ok sourceFormat =>
      let derivation := isDerivation plans
      -- from here on every failure gives the leases back
      match ha : Leases.acquireAll env (plans.length - 1) (.start root) s with
      | (some f, l, s) => (.error (failureOf f), rollback l s)
      | (none, l, s) =>
        let sink := sinkOf e derivation
        match checkSink sink with
        | .error err => (.error (sinkFailure err), rollback l s)
        | .ok sinkFormat =>
          let p : Pipeline := {
            stages := wire e.properties ⟨sink.location.getD "", sinkFormat⟩ 0
              ⟨e.sourceLocation.getD "", sourceFormat⟩ plans l.held
            intermediates := l.held
            isDerivation := derivation
            intermediates_length := fun _ => by
              rw [wire_length, Leases.acquireAll_length ha]
              simp [Leases.start] }
          (.ok p, s.note (composedRecord p))

end Wiring

end StageChain
