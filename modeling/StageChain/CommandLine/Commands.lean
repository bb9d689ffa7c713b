import StageChain.CommandLine.Cluster
import StageChain.CommandLine.Console
import StageChain.CommandLine.Usage
import StageChain.Journal.Setup
import StageChain.Run.Draft
import StageChain.Session.DryRun
import StageChain.Settings.Load

/-!
# Commands

What the commands do: `ops` lists the operations, `plan` shows the pipeline that a recipe compiles
to, and `run` runs it. A command starts with a file tree and ends with an exit status or with a
fault that nobody handles, with what it printed, and with the file tree that it leaves behind.

* `answer_refused`: a command line that is refused changes no file.
-/

namespace StageChain.CommandLine

/-- What a command finds around it. -/
structure Surroundings where
  /-- The path of the current directory. -/
  current : Path
  /-- The name of the settings in the environment. -/
  configName : Option String
  /-- The name that is drawn after so many others. -/
  names : Nat → String
  /-- The moment that the clock shows after so many readings. -/
  clock : Nat → Instant
  /-- The date, for names of log files. -/
  date : String
  /-- The times on log records. -/
  times : LogTimes
  /-- What settings and recipes are read by. -/
  reader : Reader
  /-- What titles and messages are printed by. -/
  console : Console

/-- How a command ends: with a status or with a fault, and with what it printed. Log records on the
console come before what stands in `err`. -/
structure Ending where
  status : Nat
  fault : Option Fault
  out : String
  err : String

namespace Ending

/-- A success. -/
def done (out : String) : Ending := ⟨0, none, out, ""⟩

/-- A fault that nobody handles. -/
def crashed (f : Fault) : Ending := ⟨1, some f, "", ""⟩

/-- A refusal that is printed for errors. -/
def refused (err : String) : Ending := ⟨2, none, "", err⟩

/-- A command line that is refused. -/
def misused (c : CommandForm) (e : UsageError) : Ending := .refused (c.report e)

/-- An ending with a status after which nothing is printed. -/
def exit (status : Nat) : Ending := ⟨status, none, "", ""⟩

/-- The same, after something was printed. -/
def after (out : String) (e : Ending) : Ending := { e with out := out ++ e.out }

/-- The same, after the console was asked to print something. -/
def printing (line : Except Fault String) (e : Ending) : Ending :=
  match line with
  | .ok out => e.after out
  | .error f => .crashed f

end Ending

/-- A mark before a message that is printed for errors. -/
def errorLine (s : String) : String := "✗ " ++ s ++ "\n"

/-- The command that lists the operations. -/
def listing : String :=
  String.join (Op.all.map fun o =>
    o.name ++ String.ofList (List.replicate (20 - o.name.length) ' ') ++ " " ++ o.kind.name ++ "\n")

/-- A draft from a recipe: the draft with the records of its stages, or how the command ends and the
records up to then. -/
def readRecipe (r : Reader) (t : FileTree) (settings : Settings) (path : Path) :
    Except Ending Draft × List LogRecord :=
  let refused (message : String) : Except Ending Draft :=
    .error (.refused (errorLine (path.text ++ ": " ++ message)))
  match Recipe.load r t path with
  | .error (.fault f) => (.error (.crashed f), [])
  | .error (.recipe e) => (refused e.message, [])
  | .ok entries =>
    let start := Draft.start settings
    let (draft, error) := start.apply entries
    let records := Draft.recordsBetween start draft
    match error with
    | none => (.ok draft, records)
    | some (.recipe (.fault f)) => (.error (.crashed f), records)
    | some (.recipe (.recipe e)) => (refused e.message, records)
    | some (.mismatch e) => (refused e.message, records)

/-- How a command ends if the planning of a pipeline fails. -/
def planningFailed (c : Console) (e : PlanningFailure) : Ending :=
  let printed (message : String) : Ending :=
    .printing (c.failure ("Planning failed: " ++ message)) (.exit 2)
  match e with
  | .fault f => if f.isPlanning then printed f.message else .crashed f
  | e => printed e.message

/-- The lines about a stage. -/
def stageLines (s : Stage) : String :=
  let place (location format : String) : String :=
    (if location = "" then "-" else location) ++ " (" ++ format ++ ")\n"
  toString (s.index + 1) ++ ". " ++ s.name ++ "\n"
    ++ "   in:  " ++ place s.inputLocation s.inputFormat
    ++ "   out: " ++ place s.outputLocation s.outputFormat

/-- What is said of a pipeline before its stages. -/
def pipelineSummary (p : Pipeline) : String :=
  if p.isEmpty then "No operations: nothing to run"
  else toString p.size ++ " stage(s), " ++ toString p.intermediates.length
    ++ " intermediate location(s), " ++ if p.isDerivation then "derivation" else "statistics"

/-- A pipeline under the name that it has in the settings. -/
def shownPipeline (c : Console) (settings : Settings) (p : Pipeline) : Ending :=
  .printing (c.banner settings.name)
    (.printing (c.information (pipelineSummary p)) (.done (String.join (p.stages.map stageLines))))

/-- The environment of a session. -/
def Surroundings.environment {σ : Type} (w : Surroundings) (substrate : Option (Substrate σ)) :
    Environment σ :=
  ⟨fun n => .ok (w.names n), w.clock, substrate, none⟩

/-- What the body of a command ends in: an ending, records, and a file tree. -/
structure Work where
  ending : Ending
  records : List LogRecord
  tree : FileTree

/-- Shows the pipeline of a recipe. -/
def planRecipe (w : Surroundings) (recipe : Path) (json : Bool) (settings : Settings)
    (t : FileTree) : Work :=
  match readRecipe w.reader t settings recipe with
  | (.error e, records) => ⟨e, records, t⟩
  | (.ok draft, records) =>
    let session := (Session.start (MemoryStorage.ofList [])).noteAll records
    match draft.compile (w.environment none) session with
    | (.error e, s) => ⟨planningFailed w.console e, s.journal, t⟩
    | (.ok p, s) =>
      ⟨if json then .done (Json.pretty p.document ++ "\n") else shownPipeline w.console settings p,
        s.journal, t⟩

/-- How a run ends that came to a report. -/
def reported (c : Console) (settings : Settings) (r : Report) : Ending :=
  let message := r.errorMessage?.getD ""
  match r.status with
  | 0 => .printing (c.success (settings.name.plain ++ " completed (" ++ toString r.stageCount
      ++ " stage(s))")) (.exit 0)
  | 2 => .printing (c.failure ("Planning failed: " ++ message)) (.exit 2)
  | n => .printing (c.failure ("Execution failed: " ++ message)) (.exit n)

/-- Runs a recipe on a substrate: how that ends, the records, and the storage after it. -/
def runOn {σ : Type} [Storage σ] (w : Surroundings) (substrate : Substrate σ) (storage : σ)
    (recipe : Path) (settings : Settings) (t : FileTree) : Ending × List LogRecord × σ :=
  match readRecipe w.reader t settings recipe with
  | (.error e, records) => (e, records, storage)
  | (.ok draft, records) =>
    match draft.run (w.environment (some substrate)) ((Session.start storage).noteAll records) with
    -- what a run passes on nobody handles
    | (.error (.fault f), s) => (.crashed f, s.journal, s.storage)
    | (.error e, s) => (planningFailed w.console e, s.journal, s.storage)
    | (.ok r, s) => (reported w.console settings r, s.journal, s.storage)

/-- What a recipe is run on. -/
inductive Target where
  | dryRun
  | named (reference : String)
  deriving DecidableEq, Repr

/-- The target that the options choose: one of them, and not both. An empty name chooses none. -/
def chooseTarget (dryRun : Bool) (substrate : Option String) : Except UsageError Target :=
  match dryRun, substrate.getD "" with
  | true, "" => .ok .dryRun
  | true, _ => .error .excluded
  | false, "" => .error .noneChosen
  | false, reference => .ok (.named reference)

/-- Runs a recipe on its target; `c` is the command. -/
def runRecipe (w : Surroundings) (c : CommandForm) (target : Target) (recipe : Path)
    (settings : Settings) (t : FileTree) : Work :=
  match target with
  | .dryRun =>
    let (e, records, _) := runOn w (.dryRun true) (MemoryStorage.ofList []) recipe settings t
    ⟨e.after "=== DRY RUN MODE === (no stages submitted)\n", records, t⟩
  | .named reference => match Cluster.load reference with
    | .error (.fault f) => ⟨.crashed f, [], t⟩
    | .error (.refused text) => ⟨.misused c (.badSubstrate text), [], t⟩
    | .ok cluster =>
      let (e, records, t) := runOn w cluster.substrate t recipe settings t
      ⟨e, records, t⟩

/-- Adds a text to a log file, if the file is still there. -/
def appendLog (file : Option Path) (text : String) (t : FileTree) : FileTree :=
  match file with
  | none => t
  | some p => match t.readFile p with
    | .error _ => t
    | .ok content => (t.writeFile p (content ++ Text.encode text)).toOption.getD t

/-- Does some work with the settings that are chosen, and with its records logged as they say. -/
def withSettings (w : Surroundings) (config : Option String) (t : FileTree)
    (work : Settings → FileTree → Work) : Ending × FileTree :=
  match Settings.load w.reader t
      (Settings.choosePath (config.map .ofString) w.configName w.current) with
  | .error (.fault f) => (.crashed f, t)
  | .error (.settings e) => (.refused (errorLine ("Config error: " ++ e.message)), t)
  | .ok settings =>
    match settings.logPath? w.date with
    | .error f => (.crashed f, t)
    | .ok file =>
      match LogSetup.make t w.current file settings.logLevel (settings.logFormat.text?.getD "")
        settings.logsToConsole.truthy with
      | (.error f, t) => (.crashed f, t)
      | (.ok log, t) =>
        -- records are written when the work is done, to the file as it is then
        let done := work settings t
        ({ done.ending with err := log.consoleText w.times done.records ++ done.ending.err },
          appendLog log.file (log.fileText w.times done.records) done.tree)

/-- The form of the command that runs recipes. -/
def runForm : CommandForm := (commands.find? (·.name = "run")).getD program

/-- Carries out a request. -/
def carryOut (w : Surroundings) (t : FileTree) : Request → Ending × FileTree
  | .version => (.done "graphstage, version 0.1.0\n", t)
  | .help c => (.done c.usage, t)
  | .list => (.done listing, t)
  | .plan recipe config json => withSettings w config t (planRecipe w (.ofString recipe) json)
  | .run recipe config dryRun substrate => match chooseTarget dryRun substrate with
    | .error e => (.misused runForm e, t)
    | .ok target => withSettings w config t (runRecipe w runForm target (.ofString recipe))

/-- Carries out a command line. -/
def answer (w : Surroundings) (t : FileTree) (words : List String) : Ending × FileTree :=
  match readRequest t words with
  | .error (c, e) => (.misused c e, t)
  | .ok r => carryOut w t r

theorem answer_refused {w : Surroundings} {t : FileTree} {words : List String} {c : CommandForm}
    {e : UsageError} (h : readRequest t words = .error (c, e)) :
    answer w t words = (.misused c e, t) := by
  simp [answer, h]

end StageChain.CommandLine
