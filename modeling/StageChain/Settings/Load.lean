import StageChain.Path.FileTree
import StageChain.Reader
import StageChain.Settings.Basic

/-!
# Loading settings

Settings are a YAML file in the encoding of the place: the one that is named, or else the one that the
environment names, or else `graphstage.yaml` in the current directory.

* `load_missing`: where there is no file, that is the failure.
-/

namespace StageChain

/-- Why settings cannot be loaded. -/
inductive LoadError where
  | settings (error : SettingsError)
  | fault (fault : Fault)
  deriving DecidableEq, Inhabited

namespace LoadError

/-- The kind of the error. -/
def kindName : LoadError → String
  | settings _ => "ConfigError"
  | fault f => f.kindName

/-- The message of the error. -/
def message : LoadError → String
  | settings e => e.message
  | fault f => f.message

end LoadError

namespace Settings

/-- The path of the settings. An empty name in the environment names none. -/
def choosePath (given : Option Path) (environment : Option String) (current : Path) : Path :=
  match given with
  | some p => p
  | none => match environment with
    | some name => if name = "" then current.append (.ofString "graphstage.yaml")
      else .ofString name
    | none => current.append (.ofString "graphstage.yaml")

/-- The value that the content of a file stands for. -/
def readContent (r : Reader) (content : Text.Bytes) : Except LoadError Value :=
  match r.yaml r.encoding content with
  | .ok v => .ok v
  | .error .malformed => .error (.settings .malformed)
  | .error (.fault f) => .error (.fault f)

/-- The settings in a file. -/
def load (r : Reader) (t : FileTree) (p : Path) : Except LoadError Settings :=
  if !t.contains p then .error (.settings (.notFound p.text))
  else match t.readFile p with
    | .error f => .error (.fault f)
    | .ok content => match readContent r content with
      | .error e => .error e
      | .ok v => match ofValue p.text v with
        | .ok s => .ok s
        | .error e => .error (.settings e)

theorem load_missing {r : Reader} {t : FileTree} {p : Path} (h : t.contains p = false) :
    load r t p = .error (.settings (.notFound p.text)) := by
  simp [load, h]

end Settings

end StageChain
