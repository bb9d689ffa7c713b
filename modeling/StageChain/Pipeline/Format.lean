import StageChain.Fault
import StageChain.Plan.Fusion
import StageChain.Text.Blank
import StageChain.Text.Upper

/-!
# Formats and failures in planning

Sources and sinks have formats, which are chosen by name in any case and with blanks around it. A
format of files needs a location, the others are services. Here are also the failures that planning
a chain may end in.

* `check_ok_supported`: a format that is accepted is one of the supported ones.
-/

namespace StageChain

/-- A format that a source or a sink does not support. -/
structure UnsupportedFormat where
  format : Value
  role : String
  supported : List String
  deriving DecidableEq, Inhabited

namespace UnsupportedFormat

/-- The error for a format; the supported ones are listed in order. -/
def make (format : Value) (role : String) (supported : List String) : UnsupportedFormat :=
  ⟨format, role, supported.mergeSort fun a b => a ≤ b⟩

/-- The message of the error. -/
def message (e : UnsupportedFormat) : String :=
  e.format.quoted ++ " is not a supported " ++ e.role ++ " format (supported: "
    ++ ", ".intercalate e.supported ++ ")"

end UnsupportedFormat

/-- Why stages cannot be wired. -/
inductive CompositionError where
  /-- A source of this format has no location. -/
  | noSourceLocation (format : String)
  /-- A sink of this role and format has no location. -/
  | noSinkLocation (role format : String)
  /-- A fault came up while intermediate locations were leased or the sink was checked. -/
  | interrupted (cause : Fault)
  /-- The sink exists and could not be deleted. -/
  | notOverwritten (location : String) (cause : Fault)
  /-- An error that a caller states in words of its own. -/
  | stated (text : String) (cause : Option Fault)
  deriving DecidableEq, Inhabited

namespace CompositionError

/-- A role at the start of a sentence. -/
def sentenceCase (s : String) : String :=
  match s.toList with
  | [] => ""
  | c :: cs => String.ofList (c.toUpper :: cs)

/-- The message of the error. -/
def message : CompositionError → String
  | noSourceLocation format => "Source format '" ++ format ++ "' requires a source location"
  | noSinkLocation role format =>
    sentenceCase role ++ " format '" ++ format ++ "' requires a location"
  | interrupted f => "Failed to compose pipeline: " ++ f.message
  | notOverwritten location f =>
    "Failed to delete existing output location " ++ location ++ ": " ++ f.message
  | stated text _ => text

/-- The fault behind the error. -/
def cause? : CompositionError → Option Fault
  | interrupted f | notOverwritten _ f => some f
  | stated _ cause => cause
  | noSourceLocation _ | noSinkLocation _ _ => none

end CompositionError

/-- What the planning of a chain may end in. -/
inductive PlanningFailure where
  | mismatch (error : SchemaMismatch)
  | format (error : UnsupportedFormat)
  | composition (error : CompositionError)
  /-- A fault that planning passes on as it is. -/
  | fault (fault : Fault)
  deriving DecidableEq, Inhabited

namespace PlanningFailure

/-- The kind of a failure. -/
def kindName : PlanningFailure → String
  | mismatch _ => "SchemaMismatch"
  | format _ => "UnsupportedFormat"
  | composition _ => "CompositionFailure"
  | fault f => f.kindName

/-- The message of a failure. -/
def message : PlanningFailure → String
  | mismatch e => e.message
  | format e => e.message
  | composition e => e.message
  | fault f => f.message

/-- Whether the failure is one of planning, and not of what planning relies on. -/
def isPlanning : PlanningFailure → Bool
  | mismatch _ | format _ | composition _ => true
  | fault f => f.isPlanning

end PlanningFailure

namespace Format

/-- The formats of sources. -/
def sources : List String := ["graphson", "sequence-file", "rexster", "titan-cassandra"]

/-- The formats of sinks for graphs. -/
def graphSinks : List String := ["graphson", "sequence-file", "titan-cassandra", "noop"]

/-- The formats of sinks for statistics. -/
def statisticsSinks : List String := ["text", "sequence-file", "noop"]

/-- The formats that are files and need a location. -/
def files : List String := ["graphson", "sequence-file", "text"]

/-- The format of intermediate locations. -/
def intermediate : String := "sequence-file"

/-- The name of a format without blanks around it and in small letters. -/
def normalize (s : String) : String := Text.keyword (Text.trim s)

/-- The name that a value gives: a text may be in any case and have blanks around it, and anything
else gives the text that it equals, which stands for it in a pipeline. -/
def name? : Value → Option String
  | .text s => some (normalize s)
  | v => v.text?

/-- The format that a value names, if it is supported. -/
def check (format : Value) (role : String) (supported : List String) :
    Except PlanningFailure String :=
  if format.isKey then
    match (name? format).filter (· ∈ supported) with
    | some name => .ok name
    | none => .error (.format (.make format role supported))
  else .error (.fault (.unhashable format.kindName))

/-- Whether a format needs a location and there is none. -/
def lacksLocation (format : String) (location : Option String) : Bool :=
  files.contains format && location.getD "" = ""

theorem check_ok_supported {format : Value} {role name : String} {supported : List String}
    (h : check format role supported = .ok name) : name ∈ supported := by
  unfold check at h
  split at h
  · split at h
    · next hn =>
      obtain rfl := Except.ok.inj h
      simpa using (Option.filter_eq_some_iff.1 hn).2
    · simp at h
  · simp at h

end Format

end StageChain
