import StageChain.Path.FileTree

/-!
# Usage

Which options and arguments the commands take, and how a command line is read. Options may stand
before and after arguments; a value follows its option or an equals sign. Options are checked in
the order in which they are given, then arguments. What is wrong is reported after a reminder of
the usage.

* `readWords_nil`: without words there are no options and no arguments.
-/

namespace StageChain.CommandLine

/-- What is wrong with a command line. -/
inductive UsageError where
  | noSuchOption (name : String)
  | needsValue (name : String)
  | takesNoValue (name : String)
  | missingArgument (name : String)
  | noSuchFile (parameter file : String)
  | isDirectory (parameter file : String)
  | extraArguments (words : List String)
  | noSuchCommand (name : String)
  | excluded
  | noneChosen
  | badSubstrate (text : String)
  deriving DecidableEq, Repr

/-- The message of the error. -/
def UsageError.message : UsageError → String
  | noSuchOption name => "No such option " ++ Text.quoted name ++ "."
  | needsValue name => "Option " ++ Text.quoted name ++ " requires an argument."
  | takesNoValue name => "Option " ++ Text.quoted name ++ " does not take a value."
  | missingArgument name => "Missing argument '" ++ name ++ "'."
  | noSuchFile parameter file =>
    "Invalid value for '" ++ parameter ++ "': File " ++ Text.quoted file ++ " does not exist."
  | isDirectory parameter file =>
    "Invalid value for '" ++ parameter ++ "': File " ++ Text.quoted file ++ " is a directory."
  | extraArguments words =>
    "Got unexpected extra argument" ++ (if words.length = 1 then "" else "s") ++ " ("
      ++ " ".intercalate words ++ ")"
  | noSuchCommand name => "No such command " ++ Text.quoted name ++ "."
  | excluded => "--dry-run and --substrate are mutually exclusive"
  | noneChosen => "either --dry-run or --substrate is required"
  | badSubstrate text => "Invalid value for --substrate: " ++ text

/-- An option, by its name, and whether a value follows it. -/
structure OptionForm where
  name : String
  hasValue : Bool

/-- A command: its name, which is empty for the program itself, its options, and whether it takes
the path of a recipe. -/
structure CommandForm where
  name : String
  options : List OptionForm
  takesRecipe : Bool

/-- The option that asks for help, which every command has. -/
def helpOption : OptionForm := ⟨"--help", false⟩

/-- The option that names the settings. -/
def configOption : OptionForm := ⟨"--config", true⟩

/-- The program itself. -/
def program : CommandForm := ⟨"", [⟨"--version", false⟩, helpOption], false⟩

/-- The commands of the program. -/
def commands : List CommandForm :=
  [⟨"ops", [helpOption], false⟩, ⟨"plan", [configOption, ⟨"--json", false⟩, helpOption], true⟩,
    ⟨"run", [configOption, ⟨"--dry-run", false⟩, ⟨"--substrate", true⟩, helpOption], true⟩]

namespace CommandForm

/-- How a command is called. -/
def call (c : CommandForm) : String := if c.name = "" then "main" else "main " ++ c.name

/-- The reminder of how a command is used. -/
def usage (c : CommandForm) : String :=
  "Usage: " ++ c.call ++ " [OPTIONS]"
    ++ (if c.name = "" then " COMMAND [ARGS]..." else if c.takesRecipe then " SCRIPT" else "")
    ++ "\n"

/-- The report of what is wrong with a command line. -/
def report (c : CommandForm) (e : UsageError) : String :=
  c.usage ++ "Try '" ++ c.call ++ " --help' for help.\n\nError: " ++ e.message ++ "\n"

end CommandForm

/-- An option that was given, with its value if it has one. -/
abbrev Given := String × String

/-- The name before the first equals sign of a word, and the value after it if there is one. -/
def splitEquals (cs : List Char) : List Char × Option (List Char) :=
  match cs.dropWhile (· ≠ '=') with
  | [] => (cs, none)
  | _ :: value => (cs.takeWhile (· ≠ '='), some value)

/-- Whether a word is an option and not an argument. A hyphen alone is an argument. -/
def isOption (cs : List Char) : Bool := cs.head? = some '-' && 1 < cs.length

/-- What the error calls an option that there is not: of a word with one hyphen only the first
letter counts. -/
def unknownName (cs : List Char) : String :=
  match cs with
  | '-' :: '-' :: _ => String.ofList (splitEquals cs).1
  | _ => String.ofList (cs.take 2)

/-- Reads the words of a command line: the options in order, and the arguments. With
`stopAtArgument` everything from the first argument on is left as it is. -/
def readWords (options : List OptionForm) (stopAtArgument : Bool) :
    List String → Except UsageError (List Given × List String)
  | [] => .ok ([], [])
  | w :: ws =>
    let cs := w.toList
    if w = "--" then .ok ([], ws)
    else if isOption cs then
      let (name, value) := splitEquals cs
      match options.find? (·.name = String.ofList name) with
      | none => .error (.noSuchOption (unknownName cs))
      | some o =>
        match o.hasValue, value, ws with
        | false, some _, _ => .error (.takesNoValue o.name)
        | false, none, ws => do
          let (given, arguments) ← readWords options stopAtArgument ws
          return ((o.name, "") :: given, arguments)
        | true, some v, ws => do
          let (given, arguments) ← readWords options stopAtArgument ws
          return ((o.name, String.ofList v) :: given, arguments)
        -- the next word is the value, whatever it looks like
        | true, none, v :: ws => do
          let (given, arguments) ← readWords options stopAtArgument ws
          return ((o.name, v) :: given, arguments)
        | true, none, [] => .error (.needsValue o.name)
    else if stopAtArgument then .ok ([], w :: ws)
    else do
      let (given, arguments) ← readWords options stopAtArgument ws
      return (given, w :: arguments)

/-- Whether an option was given. -/
def isGiven (name : String) (given : List Given) : Bool := given.any (·.1 = name)

/-- The value that was given last for an option. -/
def lastValue? (name : String) (given : List Given) : Option String :=
  (given.filter (·.1 = name)).getLast?.map (·.2)

/-- What a word names in a file tree. The empty word names nothing, and a word with a slash at its
end no file. -/
def entryOf? (t : FileTree) (word : String) : Option Entry :=
  if word = "" then none
  else match t.target? (.ofString word) with
    | some (.file content) =>
      if word.toList.getLast? = some '/' then none else some (.file content)
    | e => e

/-- Checks the path of the settings: it need not be there, but must not be a directory. -/
def checkConfig (t : FileTree) (given : List Given) : Except UsageError Unit :=
  match lastValue? "--config" given with
  | none => .ok ()
  | some word =>
    if entryOf? t word = some .directory then .error (.isDirectory "--config" word) else .ok ()

/-- The path of the recipe, which must be a file. -/
def checkRecipe (t : FileTree) (arguments : List String) : Except UsageError String :=
  match arguments with
  | [] => .error (.missingArgument "SCRIPT")
  | word :: _ => match entryOf? t word with
    | none => .error (.noSuchFile "SCRIPT" word)
    | some .directory => .error (.isDirectory "SCRIPT" word)
    | some _ => .ok word

/-- Checks that there are no arguments left. -/
def checkRest (words : List String) : Except UsageError Unit :=
  if words.isEmpty then .ok () else .error (.extraArguments words)

/-- A command line that can be carried out. -/
inductive Request where
  | version
  | help (command : CommandForm)
  | list
  | plan (recipe : String) (config : Option String) (json : Bool)
  | run (recipe : String) (config : Option String) (dryRun : Bool) (substrate : Option String)

/-- Reads the words after the name of a command. -/
def readCommand (t : FileTree) (c : CommandForm) (words : List String) :
    Except UsageError Request := do
  let (given, arguments) ← readWords c.options false words
  if isGiven "--help" given then return .help c
  -- options come before arguments, so the settings are complained of first
  checkConfig t given
  if !c.takesRecipe then
    checkRest arguments
    return .list
  let recipe ← checkRecipe t arguments
  checkRest arguments.tail
  let config := lastValue? "--config" given
  if c.name = "plan" then return .plan recipe config (isGiven "--json" given)
  return .run recipe config (isGiven "--dry-run" given) (lastValue? "--substrate" given)

/-- Reads a command line: the request, or what is wrong and with which command. -/
def readRequest (t : FileTree) (words : List String) : Except (CommandForm × UsageError) Request :=
  match readWords program.options true words with
  | .error e => .error (program, e)
  | .ok (given, rest) =>
    if isGiven "--help" given then .ok (.help program)
    else if isGiven "--version" given then .ok .version
    else match rest with
      | [] => .ok (.help program)
      | name :: words => match commands.find? (·.name = name) with
        | none => .error (program, .noSuchCommand name)
        | some c => match readCommand t c words with
          | .error e => .error (c, e)
          | .ok r => .ok r

theorem readWords_nil (options : List OptionForm) (b : Bool) :
    readWords options b [] = .ok ([], []) := rfl

end StageChain.CommandLine
