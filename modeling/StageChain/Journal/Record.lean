import StageChain.Fault
import StageChain.Journal.Template
import StageChain.Json.Written
import StageChain.Text.Upper

/-!
# Log records

What the library reports while it works: a message at a level from one of its parts, perhaps about a
stage, with an event, with data and with a fault. A message may be a template with arguments; the
library's own have none. A record is written as a line of JSON or as plain text, unless its message
cannot be made.

* `Level.display_names`: a level that has two names is shown by the first of them.
* `LogRecord.text?_plain`: a message without arguments stands for itself.
-/

namespace StageChain

/-- The weight of a record. -/
abbrev Level := Int

namespace Level

/-- For every step of the work. -/
def debug : Level := 10

/-- For what a caller wants to know. -/
def info : Level := 20

/-- For what went wrong and was put right. -/
def warning : Level := 30

/-- For what went wrong. -/
def error : Level := 40

/-- For what ends everything. -/
def critical : Level := 50

/-- The names that levels are chosen by. -/
def names : List (String × Level) :=
  [("DEBUG", debug), ("INFO", info), ("WARNING", warning), ("WARN", warning), ("ERROR", error),
    ("CRITICAL", critical), ("FATAL", critical), ("NOTSET", 0)]

/-- The level of a name, which may be written in any case. -/
def ofName (name : String) : Except Fault Level :=
  match names.lookup (Text.upper name) with
  | some l => .ok l
  | none => .error (.unknownLevel (Text.upper name))

/-- How a level is shown. -/
def display (l : Level) : String :=
  match names.find? (·.2 = l) with
  | some n => n.1
  | none => "Level " ++ toString l

theorem display_names : names.map (display ·.2) =
    ["DEBUG", "INFO", "WARNING", "WARNING", "ERROR", "CRITICAL", "CRITICAL", "NOTSET"] := by decide

end Level

/-- A record. -/
structure LogRecord where
  level : Level
  logger : String
  message : String
  arguments : List Value
  stage : Option Value
  event : Option Value
  metadata : Option Value
  fault : Option Fault
  deriving DecidableEq, Inhabited

namespace LogRecord

/-- A message without more. -/
def plain (level : Level) (logger message : String) : LogRecord :=
  ⟨level, logger, message, [], none, none, none, none⟩

/-- A message with an event and its data. -/
def withEvent (level : Level) (logger message event : String) (data : List (String × Value)) :
    LogRecord :=
  ⟨level, logger, message, [], none, some (.text event), some (.object data), none⟩

/-- A message about a stage, with an event and its data. -/
def aboutStage (level : Level) (logger message stage event : String)
    (data : List (String × Value)) : LogRecord :=
  { withEvent level logger message event data with stage := some (.text stage) }

/-- A fault as the last line of an account of it. The pipeline's own kinds are named in full. -/
def faultLine (f : Fault) : String :=
  let kind := if f.isOwn then "graphstage.errors." ++ f.kindName else f.kindName
  if f.message = "" then kind else kind ++ ": " ++ f.message

/-- The message with its arguments; `none` where they do not fit. -/
def text? (r : LogRecord) : Option String := Template.fill? r.message r.arguments

/-- A record with its message as a mapping, with the time of writing if that is given. -/
def document (r : LogRecord) (text : String) (time : Option String) : Value :=
  let field (name : String) (v : Option Value) : List (String × Value) :=
    v.toList.map fun v => (name, v)
  .object <|
    field "timestamp" (time.map .text)
    ++ [("level", .text r.level.display), ("logger", .text r.logger), ("message", .text text)]
    ++ field "stage" r.stage ++ field "event" r.event ++ field "metadata" r.metadata
    ++ field "exception" (r.fault.map fun f => .text (faultLine f))

/-- A record as a line of JSON; `none` where its message cannot be made or its data cannot be
written. -/
def structuredLine? (r : LogRecord) (time : String) : Option String := do
  let d := r.document (← r.text?) (some time)
  if Json.writable d then return Json.compact d ++ "\n" else none

/-- A record as plain text, a fault on a line of its own; `none` where its message cannot be
made. -/
def plainLine? (r : LogRecord) (time : String) : Option String := do
  let text ← r.text?
  let line := " - ".intercalate [time, r.logger, r.level.display, text]
  match r.fault with
  | none => return line ++ "\n"
  | some f =>
    let gap := if text.toList.getLast? = some '\n' then "" else "\n"
    return line ++ gap ++ faultLine f ++ "\n"

theorem text?_plain (level : Level) (logger message : String) :
    (plain level logger message).text? = some message := Template.fill?_literal message

end LogRecord

end StageChain
