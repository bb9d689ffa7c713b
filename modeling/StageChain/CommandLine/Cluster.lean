import StageChain.Path.FileTree
import StageChain.Session.Basic
import StageChain.Text.Utf8

/-!
# The local cluster

The substrates that a command line can name. They stand for a cluster on a file tree: a stage
makes the directory at its output location, which must not be there yet, and in it one part, which
holds the name of the stage. A substrate is named by its module and its class.

* `writeStage_nowhere`: a stage without an output location writes nothing.
-/

namespace StageChain

/-- How the stages of a cluster end. -/
inductive Cluster where
  /-- Every stage is run. -/
  | working
  /-- Only the first stage succeeds. -/
  | failingSecond
  /-- The cluster cannot be reached. -/
  | unavailable
  /-- Every stage fails and nothing says why. -/
  | silent
  deriving DecidableEq, Repr

namespace Cluster

/-- The name of the part that a stage writes. -/
def partName : Path := .ofString "part-0"

/-- Runs a stage. -/
def writeStage (stage : Stage) (t : FileTree) : Except Fault Unit × FileTree :=
  if stage.outputLocation = "" then (.ok (), t)
  else
    let directory := Path.ofString stage.outputLocation
    match t.makePath false directory with
    | (.error f, t) => (.error f, t)
    | (.ok (), t) => match t.writeFile (directory.append partName) (Text.encode stage.name) with
      | .ok t => (.ok (), t)
      | .error f => (.error f, t)

/-- Runs a stage and answers whether it should be taken for a success. -/
def runStage (answer : Bool) (stage : Stage) (t : FileTree) : Reply × FileTree :=
  match writeStage stage t with
  | (.ok (), t) => (.answered answer, t)
  | (.error f, t) => (.failed f, t)

/-- What becomes of a stage. -/
def submit : Cluster → Stage → FileTree → Reply × FileTree
  | working, stage, t => runStage true stage t
  | failingSecond, stage, t =>
    if stage.index = 0 then runStage true stage t else (.answered false, t)
  | unavailable, _, t => (.failed (.raised .runtime [.text "cluster unavailable"]), t)
  | silent, _, t => (.failed (.raised .key []), t)

/-- The cluster as a substrate. -/
def substrate (c : Cluster) : Substrate FileTree := ⟨c.submit, fun _ => []⟩

/-- The module that the clusters stand in. -/
def moduleName : String := "cluster"

/-- The classes of the module. -/
def classes : List (String × Cluster) :=
  [("Cluster", working), ("FailSecond", failingSecond), ("RaiseFirst", unavailable),
    ("Silent", silent)]

/-- Why a module cannot be found. Of a dotted name the first part that is missing counts. -/
def missingModule (name : List Char) : String :=
  let first := name.takeWhile (· ≠ '.')
  let quoted (cs : List Char) : String := Text.quoted (String.ofList cs)
  if first = moduleName.toList then
    let second := (name.drop (first.length + 1)).takeWhile (· ≠ '.')
    "No module named " ++ quoted (first ++ '.' :: second) ++ "; " ++ quoted first
      ++ " is not a package"
  else "No module named " ++ quoted first

/-- Why no substrate is loaded. -/
inductive LoadFailure where
  /-- The reference is refused with a text. -/
  | refused (text : String)
  | fault (fault : Fault)
  deriving DecidableEq

/-- The cluster that a reference names. -/
def load (reference : String) : Except LoadFailure Cluster :=
  let cs := reference.toList
  let name := cs.takeWhile (· ≠ ':')
  let className := String.ofList (cs.drop (name.length + 1))
  let cannot (reason : String) : Except LoadFailure Cluster :=
    .error (.refused ("cannot load " ++ reference ++ ": " ++ reason))
  if name = [] ∨ className = "" then
    .error (.refused ("expected module:ClassName, got " ++ Text.quoted reference))
  else if name.head? = some '.' then .error (.fault (.noPackage (String.ofList name)))
  else if name ≠ moduleName.toList then cannot (missingModule name)
  else match classes.lookup className with
    | some c => .ok c
    | none => cannot ("module '" ++ moduleName ++ "' has no attribute '" ++ className ++ "'")

theorem writeStage_nowhere {stage : Stage} (t : FileTree) (h : stage.outputLocation = "") :
    writeStage stage t = (.ok (), t) := by
  simp [writeStage, h]

end Cluster

end StageChain
