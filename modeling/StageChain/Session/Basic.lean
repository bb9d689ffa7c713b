import StageChain.Journal.Record
import StageChain.Pipeline.Basic
import StageChain.Session.Instant
import StageChain.Storage.Basic

/-!
# Sessions

What changes while a chain is planned and run: the storage, how many names were drawn and how
often the clock was read, what was logged, which stages were handed over and which notices of
progress were given. What does not change is the *environment*: where names come from, the clock,
what stages run on, and who is told of progress.

* `note_journal`: a record is added at the end of the journal and changes nothing else.
-/

namespace StageChain

/-- A notice that a stage is about to be handed over. -/
structure ProgressEvent where
  index : Int
  count : Int
  name : String
  deriving DecidableEq, Repr, Inhabited

/-- A notice as a list of fields. -/
def ProgressEvent.fields (e : ProgressEvent) : List (String × Value) :=
  [("stage_index", .int e.index), ("stage_count", .int e.count), ("stage_name", .text e.name)]

/-- A stage that was handed over, with the storage as it was then. -/
structure Submission (σ : Type) where
  stage : Stage
  storage : σ

/-- What comes back from what a stage runs on. -/
inductive Reply where
  /-- An answer that stands for success or for failure. -/
  | answered (success : Bool)
  /-- No answer but a fault. -/
  | failed (fault : Fault)
  /-- An answer of which nobody can tell what it stands for, since asking it is a fault. -/
  | unclear (fault : Fault)
  deriving DecidableEq, Inhabited

/-- What stages run on. It may write to the storage, and it may fail by a fault or by its answer. -/
structure Substrate (σ : Type) where
  submit : Stage → σ → Reply × σ
  /-- What it logs of a stage. -/
  notes : Stage → List LogRecord

/-- What a session does not change. -/
structure Environment (σ : Type) where
  /-- The name that is drawn after so many others. -/
  names : Nat → Except Fault String
  /-- The moment that the clock shows after so many readings. -/
  clock : Nat → Instant
  substrate : Option (Substrate σ)
  /-- Who is told of progress, and whether being told fails. -/
  progress : Option (ProgressEvent → Option Fault)

/-- The state of a session. -/
structure Session (σ : Type) where
  storage : σ
  drawn : Nat
  readings : Nat
  journal : List LogRecord
  submissions : List (Submission σ)
  events : List ProgressEvent

namespace Session

variable {σ : Type}

/-- The start of a session. -/
def start (storage : σ) : Session σ := ⟨storage, 0, 0, [], [], []⟩

/-- Adds a record to the journal. -/
def note (s : Session σ) (r : LogRecord) : Session σ := { s with journal := s.journal ++ [r] }

/-- Adds records to the journal. -/
def noteAll (s : Session σ) (rs : List LogRecord) : Session σ :=
  { s with journal := s.journal ++ rs }

/-- Draws the next name. -/
def draw (env : Environment σ) (s : Session σ) : Except Fault String × Session σ :=
  (env.names s.drawn, { s with drawn := s.drawn + 1 })

/-- Reads the clock. -/
def read (env : Environment σ) (s : Session σ) : Instant × Session σ :=
  (env.clock s.readings, { s with readings := s.readings + 1 })

/-- Deletes what is at a location, if there is anything: whether there was, or the fault that kept
it there. -/
def clear [Storage σ] (s : Session σ) (location : String) : Except Fault Bool × Session σ :=
  match Storage.contains s.storage location with
  | .error f => (.error f, s)
  | .ok false => (.ok false, s)
  | .ok true => match Storage.erase s.storage location true with
    | (.error f, storage) => (.error f, { s with storage := storage })
    | (.ok (), storage) => (.ok true, { s with storage := storage })

@[simp] theorem note_journal (s : Session σ) (r : LogRecord) :
    (s.note r).journal = s.journal ++ [r] := rfl

@[simp] theorem note_storage (s : Session σ) (r : LogRecord) :
    (s.note r).storage = s.storage := rfl

end Session

end StageChain
