import StageChain.Plan.Basic

/-!
# Pipelines

A pipeline is a list of stages, each a plan with the locations that it reads and writes. Two
stages in a row share an intermediate location, so there is one less of those than there are
stages.

* `sinkLocation?_eq_none_iff`: only a pipeline without stages writes nowhere.
-/

namespace StageChain

/-- A stage: a plan with its place in the chain, its locations with their formats, and the
configuration that it runs with. -/
structure Stage where
  index : Nat
  plan : Plan
  inputLocation : String
  outputLocation : String
  inputFormat : String
  outputFormat : String
  configuration : Table String Value
  inputIsIntermediate : Bool
  outputIsIntermediate : Bool
  deriving DecidableEq

namespace Stage

/-- The name of a stage is that of its plan. -/
def name (s : Stage) : String := s.plan.name

/-- A location with its format, marked if it is intermediate. -/
def endDocument (location format : String) (intermediate : Bool) : Value :=
  .object <| [("location", .text location), ("format", .text format)]
    ++ (if intermediate then [("intermediate", .bool true)] else [])

/-- A stage as a mapping. -/
def document (s : Stage) : Value :=
  .object [("index", .nat s.index), ("name", .text s.name),
    ("input", endDocument s.inputLocation s.inputFormat s.inputIsIntermediate),
    ("output", endDocument s.outputLocation s.outputFormat s.outputIsIntermediate),
    ("plan", s.plan.document)]

end Stage

/-- Stages do not have an intermediate location between any two of them. -/
structure IntermediatesError where
  stages : Nat
  given : Nat
  deriving DecidableEq, Repr

/-- The message of the error. -/
def IntermediatesError.message (e : IntermediatesError) : String :=
  "A pipeline of " ++ toString e.stages ++ " stages needs " ++ toString (e.stages - 1)
    ++ " intermediate locations, got " ++ toString e.given

/-- Stages in order, with the intermediate locations between them. It is a derivation if the last
stage writes a graph. -/
structure Pipeline where
  stages : List Stage
  intermediates : List String
  isDerivation : Bool
  intermediates_length : 1 < stages.length → intermediates.length = stages.length - 1
  deriving DecidableEq

namespace Pipeline

/-- The pipeline that does nothing. -/
def empty : Pipeline := ⟨[], [], true, by simp⟩

instance : Inhabited Pipeline := ⟨empty⟩

/-- The pipeline of given stages. -/
def make (stages : List Stage) (intermediates : List String) (isDerivation : Bool) :
    Except IntermediatesError Pipeline :=
  if h : 1 < stages.length → intermediates.length = stages.length - 1 then
    .ok ⟨stages, intermediates, isDerivation, h⟩
  else .error ⟨stages.length, intermediates.length⟩

/-- The number of stages. -/
def size (p : Pipeline) : Nat := p.stages.length

/-- Whether there is no stage. -/
def isEmpty (p : Pipeline) : Bool := p.stages.isEmpty

/-- The location that the last stage writes. -/
def sinkLocation? (p : Pipeline) : Option String := p.stages.getLast?.map (·.outputLocation)

/-- A pipeline as a mapping. -/
def document (p : Pipeline) : Value :=
  .object [("derivation", .bool p.isDerivation), ("intermediates", .texts p.intermediates),
    ("stages", .list (p.stages.map (·.document)))]

theorem sinkLocation?_eq_none_iff (p : Pipeline) : p.sinkLocation? = none ↔ p.stages = [] := by
  simp [sinkLocation?]

end Pipeline

end StageChain
