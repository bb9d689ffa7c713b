import StageChain.Fault
import StageChain.Path.Basic
import StageChain.Pipeline.Wiring
import StageChain.Text.Upper

/-!
# Settings

The settings of a pipeline: its name, where it reads and writes, where intermediate locations lie,
what is logged and where to, and properties that every stage is given. They come as a mapping of
sections; a section that is missing or null is an empty one, and anything else that is no mapping
is refused.

* `location?_null`: a location that is null is no location.
-/

namespace StageChain

/-- Why settings are refused. -/
inductive SettingsError where
  | notFound (path : String)
  | malformed
  | empty
  | rootNotMapping
  | sectionNotMapping (path : List String)
  | noName
  | noSourceFormat
  | noSinkFormat
  | logFormat (v : Value)
  | logLevel (name : String)
  deriving DecidableEq, Inhabited

/-- The names that a log level may have in settings. -/
def logLevelNames : List String := ["DEBUG", "INFO", "WARNING", "ERROR", "CRITICAL"]

/-- The message of the error. -/
def SettingsError.message : SettingsError → String
  | notFound path => "Configuration file not found: " ++ path
  | malformed => "Invalid YAML syntax"
  | empty => "Configuration file is empty"
  | rootNotMapping => "Configuration root must be a mapping"
  | sectionNotMapping path => "Section '" ++ ".".intercalate path ++ "' must be a mapping"
  | noName => "Pipeline name is required"
  | noSourceFormat => "graph.input.format is required"
  | noSinkFormat => "graph.output.format is required"
  | logFormat v => "logging.format must be 'structured' or 'pretty', got " ++ v.quoted
  | logLevel name =>
    "logging.level must be one of " ++ ", ".intercalate logLevelNames ++ ", got "
      ++ Text.quoted name

/-- The entries of a section. -/
abbrev Section := List (Value × Value)

/-- The settings of a pipeline, by section. -/
structure Settings where
  path : String
  name : Value
  graphInput : Section
  graphOutput : Section
  statisticsOutput : Section
  intermediate : Section
  logging : Section
  properties : Section
  deriving DecidableEq, Inhabited

namespace Settings

/-- What stands at the end of a path of names, if there is anything that is not null. A value that
is no mapping has nothing below it. -/
def walk : Value → List String → Option Value
  | v, [] => some v
  | .map es, name :: rest => match Value.field? name es with
    | none | some .null => none
    | some v => walk v rest
  | _, _ :: _ => none

/-- The section at the end of a path of names. -/
def sectionAt (root : Section) (path : List String) : Except SettingsError Section :=
  match walk (.map root) path with
  | none => .ok []
  | some (.map es) => .ok es
  | some _ => .error (.sectionNotMapping path)

/-- The settings that a mapping of sections holds. -/
def ofSections (path : String) (root : Section) : Except SettingsError Settings := do
  let pipeline ← sectionAt root ["pipeline"]
  let graphInput ← sectionAt root ["graph", "input"]
  let graphOutput ← sectionAt root ["graph", "output"]
  let statisticsOutput ← sectionAt root ["statistics", "output"]
  let intermediate ← sectionAt root ["intermediate"]
  let logging ← sectionAt root ["logging"]
  let properties ← sectionAt root ["properties"]
  return {
    path := path
    name := (Value.field? "name" pipeline).getD (.text "unnamed-pipeline")
    graphInput := graphInput
    graphOutput := graphOutput
    statisticsOutput := statisticsOutput
    intermediate := intermediate
    logging := logging
    properties := properties }

/-- A location in a section, if there is one that is not null. -/
def location? (s : Section) : Option String :=
  match Value.field? "location" s with
  | none | some .null => none
  | some v => some v.plain

/-- The format of the source. -/
def sourceFormat (s : Settings) : Value := (Value.field? "format" s.graphInput).getD .null

/-- The location of the source. -/
def sourceLocation? (s : Settings) : Option String := location? s.graphInput

/-- The format of the sink for graphs. -/
def graphFormat (s : Settings) : Value := (Value.field? "format" s.graphOutput).getD .null

/-- The location of the sink for graphs. -/
def graphLocation? (s : Settings) : Option String := location? s.graphOutput

/-- Whether a sink that exists is deleted before a run. -/
def overwrite (s : Settings) : Bool :=
  ((Value.field? "overwrite" s.graphOutput).getD (.bool false)).truthy

/-- The format of the sink for statistics. -/
def statisticsFormat (s : Settings) : Value :=
  (Value.field? "format" s.statisticsOutput).getD (.text "text")

/-- The location of the sink for statistics: that of the sink for graphs, unless it has its own. -/
def statisticsLocation? (s : Settings) : Option String :=
  (location? s.statisticsOutput).orElse fun _ => s.graphLocation?

/-- What intermediate locations lie under. -/
def intermediateRoot (s : Settings) : String :=
  ((Value.field? "root" s.intermediate).getD (.text "")).plain

/-- A property as a text. -/
def propertyText : Value → String
  | .bool b => if b then "true" else "false"
  | v => v.plain

/-- The properties that every stage is given. -/
def propertyTable (s : Settings) : Table String String :=
  .ofList (s.properties.map fun e => (e.1.plain, propertyText e.2))

/-- The name of the log level in capitals. -/
def logLevel (s : Settings) : String :=
  Text.upper ((Value.field? "level" s.logging).getD (.text "INFO")).plain

/-- How records are written. -/
def logFormat (s : Settings) : Value :=
  (Value.field? "format" s.logging).getD (.text "structured")

/-- Whether records go to the console. -/
def logsToConsole (s : Settings) : Value := (Value.field? "console" s.logging).getD (.bool true)

/-- A text with each mark for the date replaced; at most `fuel` characters are read. -/
def fillDate (date : List Char) : (fuel : Nat) → List Char → List Char
  | 0, cs => cs
  | _, [] => []
  | fuel + 1, c :: cs =>
    let mark := "\x7bdate\x7d".toList
    if mark.isPrefixOf (c :: cs) then date ++ fillDate date fuel ((c :: cs).drop mark.length)
    else c :: fillDate date fuel cs

/-- The file that records are written to, if there is one. -/
def logPath? (s : Settings) (date : String) : Except Fault (Option Path) :=
  match Value.field? "output" s.logging with
  | none => .ok none
  | some (.text t) =>
    if t = "" then .ok none
    else .ok (some (.ofString (String.ofList (fillDate date.toList t.length t.toList))))
  | some v => if v.truthy then .error (.notReplaceable v) else .ok none

/-- Where the pipeline reads and writes. -/
def endpoints (s : Settings) : Endpoints where
  sourceLocation := s.sourceLocation?
  sourceFormat := s.sourceFormat
  graphLocation := s.graphLocation?
  graphFormat := s.graphFormat
  statisticsLocation := s.statisticsLocation?
  statisticsFormat := s.statisticsFormat
  properties := s.propertyTable.mapValues .text

/-- Why the settings do not suffice, if they do not. Which formats are supported is checked when a
pipeline is composed. -/
def problem? (s : Settings) : Option SettingsError :=
  if !s.name.truthy then some .noName
  else if !s.sourceFormat.truthy then some .noSourceFormat
  else if !s.graphFormat.truthy then some .noSinkFormat
  else if s.logFormat.text? ≠ some "structured" ∧ s.logFormat.text? ≠ some "pretty" then
    some (.logFormat s.logFormat)
  else if s.logLevel ∉ logLevelNames then some (.logLevel s.logLevel)
  else none

/-- The settings in a file of which the content is read. -/
def ofValue (path : String) (v : Value) : Except SettingsError Settings :=
  if !v.truthy then .error .empty
  else match v with
    | .map root => match ofSections path root with
      | .error e => .error e
      | .ok s => match s.problem? with
        | some e => .error e
        | none => .ok s
    | _ => .error .rootNotMapping

/-- What settings are called in messages. -/
def display (s : Settings) : String :=
  "GraphStageConfig(name=" ++ s.name.plain ++ ", path=" ++ s.path ++ ")"

theorem location?_null (rest : Section) : location? ((.text "location", .null) :: rest) = none := by
  simp [location?, Value.field?]

end Settings

end StageChain
