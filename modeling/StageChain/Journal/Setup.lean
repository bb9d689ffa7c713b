import StageChain.Journal.Record
import StageChain.Path.FileTree

/-!
# Where records go

Records of the library are written to a file, to the console, or to both, from a level on. A file
holds lines of JSON or of plain text; the console shows lines of JSON, or a display of its own
that is not given here.

* `accepts_of_level`: of the library's own records all from the level on are written.
-/

namespace StageChain

/-- What the console shows of records. -/
inductive ConsoleDisplay where
  /-- Lines of JSON. -/
  | lines
  /-- A display for readers. -/
  | pretty
  deriving DecidableEq, Repr

/-- Where records go, and from which level on. -/
structure LogSetup where
  level : Level
  file : Option Path
  structured : Bool
  console : Option ConsoleDisplay
  deriving DecidableEq

/-- The times that stand on lines of JSON and of plain text. -/
structure LogTimes where
  structured : String
  plain : String

namespace LogSetup

/-- The name of the library's records, which those of its parts start with. -/
def root : String := "graphstage"

/-- The level from which records are written if none is set. -/
def unsetLevel : Level := Level.warning

/-- The level from which records are written. -/
def threshold (l : LogSetup) : Level := if l.level = 0 then unsetLevel else l.level

/-- Whether a record belongs to the library. -/
def isOwn (r : LogRecord) : Bool :=
  r.logger = root || (root ++ ".").toList.isPrefixOf r.logger.toList

/-- Whether a record is written. -/
def accepts (l : LogSetup) (r : LogRecord) : Bool := isOwn r && l.threshold ≤ r.level

/-- Opens a log file and keeps what it holds. -/
def openFile (t : FileTree) (file : Path) : Except Fault Unit × FileTree :=
  match t.readFile file with
  | .ok _ => (.ok (), t)
  | .error (.refused .notFound _) => match t.writeFile file [] with
    | .ok t => (.ok (), t)
    | .error f => (.error f, t)
  | .error f => (.error f, t)

/-- Makes the directories above a log file and opens it; its path is relative to a directory. -/
def prepareFile (t : FileTree) (directory p : Path) : Except Fault Path × FileTree :=
  match t.makePath true p.parent with
  | (.error f, t) => (.error f, t)
  | (.ok (), t) =>
    let file := Path.resolveFrom directory p
    match openFile t file with
    | (.error f, t) => (.error f, t)
    | (.ok (), t) => (.ok file, t)

/-- What the console shows, if records go there. -/
def displayOf (format : String) (console : Bool) : Option ConsoleDisplay :=
  if !console then none else if format = "pretty" then some .pretty else some .lines

/-- Sets the log up; the file is relative to a directory. -/
def make (t : FileTree) (directory : Path) (file : Option Path) (levelName format : String)
    (console : Bool) : Except Fault LogSetup × FileTree :=
  match Level.ofName levelName, file with
  | .error f, _ => (.error f, t)
  | .ok level, none => (.ok ⟨level, none, format = "structured", displayOf format console⟩, t)
  | .ok level, some p => match prepareFile t directory p with
    | (.error f, t) => (.error f, t)
    | (.ok file, t) =>
      (.ok ⟨level, some file, format = "structured", displayOf format console⟩, t)

/-- The lines of JSON of the records that are written. -/
def structuredText (l : LogSetup) (times : LogTimes) (rs : List LogRecord) : String :=
  String.join ((rs.filter l.accepts).filterMap (·.structuredLine? times.structured))

/-- The plain text of the records that are written. -/
def plainText (l : LogSetup) (times : LogTimes) (rs : List LogRecord) : String :=
  String.join ((rs.filter l.accepts).filterMap (·.plainLine? times.plain))

/-- What records add to the file. -/
def fileText (l : LogSetup) (times : LogTimes) (rs : List LogRecord) : String :=
  if l.structured then l.structuredText times rs else l.plainText times rs

/-- What records show on the console. -/
def consoleText (l : LogSetup) (times : LogTimes) (rs : List LogRecord) : String :=
  match l.console with
  | some .lines => l.structuredText times rs
  | _ => ""

theorem accepts_of_level {l : LogSetup} {r : LogRecord} (h : r.logger = root)
    (hl : l.threshold ≤ r.level) : l.accepts r = true := by
  simp [accepts, isOwn, h, hl]

end LogSetup

end StageChain
