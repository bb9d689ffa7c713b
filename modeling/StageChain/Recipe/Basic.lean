import StageChain.Json.Reader
import StageChain.Operation.Construction
import StageChain.Path.FileTree
import StageChain.Reader

/-!
# Recipes

A recipe is a file in UTF-8 that lists operations with their parameters, in JSON if its name says so
and in YAML otherwise. Its entries become descriptors one by one; what is wrong with an entry is
reported with its position.

* `build_of_error`: what is wrong with an entry is reported with its position, if it is of a kind that
  is reported.
* `entriesOf_null`: an empty file has no entries.
-/

namespace StageChain

/-- An operation by its name, with parameters. -/
structure RecipeEntry where
  op : String
  params : List (Value × Value)
  deriving DecidableEq, Inhabited

/-- Why a recipe or one of its entries is refused. -/
inductive RecipeError where
  | notFound (path : String)
  | undecodable (path : String)
  | malformed (path : String)
  | notList (kind : String)
  | notEntry (position : Nat)
  | paramsNotMapping (position : Nat) (op : String)
  | notBuilt (position : Nat) (op : String) (error : BuildError)
  deriving DecidableEq, Inhabited

namespace RecipeError

/-- A message about an operation at a position. -/
def about (position : Nat) (op text : String) : String :=
  "Entry " ++ toString position ++ " (" ++ op ++ "): " ++ text

/-- The message of the error. -/
def message : RecipeError → String
  | notFound path => "Script not found: " ++ path
  | undecodable path => "Script " ++ path ++ " is not valid UTF-8"
  | malformed path => "Invalid script syntax in " ++ path
  | notList kind => "Script must be a list of operations, got " ++ kind
  | notEntry position =>
    "Entry " ++ toString position ++ ": expected a mapping with an 'op' key"
  | paramsNotMapping position op => about position op "'params' must be a mapping"
  | notBuilt position op e => about position op e.message

end RecipeError

/-- What reading or applying a recipe may end in. -/
inductive RecipeFailure where
  | recipe (error : RecipeError)
  | fault (fault : Fault)
  deriving DecidableEq, Inhabited

namespace RecipeFailure

/-- The kind of a failure. -/
def kindName : RecipeFailure → String
  | recipe _ => "ScriptError"
  | fault f => f.kindName

/-- The message of a failure. -/
def message : RecipeFailure → String
  | recipe e => e.message
  | fault f => f.message

end RecipeFailure

namespace Recipe

/-- The entry at a position. -/
def entryOf (position : Nat) : Value → Except RecipeError RecipeEntry
  | .map es => match Value.field? "op" es with
    | none => .error (.notEntry position)
    | some op =>
      let params := (Value.field? "params" es).getD .null
      if !params.truthy then .ok ⟨op.plain, []⟩
      else match params with
        | .map ps => .ok ⟨op.plain, ps⟩
        | _ => .error (.paramsNotMapping position op.plain)
  | _ => .error (.notEntry position)

/-- The entries from a position on. -/
def entriesFrom : (position : Nat) → List Value → Except RecipeError (List RecipeEntry)
  | _, [] => .ok []
  | i, v :: vs => do
    let e ← entryOf i v
    return e :: (← entriesFrom (i + 1) vs)

/-- The entries of a recipe. -/
def entriesOf : Value → Except RecipeError (List RecipeEntry)
  | .null => .ok []
  | .list vs => entriesFrom 0 vs
  | v => .error (.notList v.kindName)

/-- The bytes of a recipe as JSON. -/
def readJson (content : Text.Bytes) : Except ReadError Value :=
  match Text.readText? content with
  | none => .error (.fault .undecodable)
  | some cs => match Json.read? cs with
    | some v => .ok v
    | none => .error .malformed

/-- The value that the content of a recipe stands for. -/
def readContent (r : Reader) (p : Path) (content : Text.Bytes) : Except RecipeFailure Value :=
  match if p.extension = ".json" then readJson content else r.yaml Text.readText? content with
  | .ok v => .ok v
  | .error .malformed => .error (.recipe (.malformed p.text))
  | .error (.fault .undecodable) => .error (.recipe (.undecodable p.text))
  | .error (.fault f) => .error (.fault f)

/-- The entries of a recipe in a file. -/
def load (r : Reader) (t : FileTree) (p : Path) : Except RecipeFailure (List RecipeEntry) :=
  if !t.contains p then .error (.recipe (.notFound p.text))
  else match t.readFile p with
    | .error f => .error (.fault f)
    | .ok content => match readContent r p content with
      | .error e => .error e
      | .ok v => match entriesOf v with
        | .ok es => .ok es
        | .error e => .error (.recipe e)

/-- The kinds of errors that are reported with the entry that they come from. A text that cannot be
decoded is a value that does not fit. -/
def reportedKinds : List String :=
  ["DescriptorError", "ValueError", "UnicodeDecodeError", "TypeError"]

/-- What comes of an error in the entry at a position: a fault of another kind is passed on. -/
def report (position : Nat) (op : String) : BuildError → RecipeFailure
  | .fault f =>
    if f.kindName ∈ reportedKinds then .recipe (.notBuilt position op (.fault f)) else .fault f
  | err => .recipe (.notBuilt position op err)

/-- The descriptor of an entry at a position. -/
def build (position : Nat) (e : RecipeEntry) : Except RecipeFailure Descriptor :=
  match Descriptor.build (.text e.op) e.params with
  | .ok d => .ok d
  | .error err => .error (report position e.op err)

theorem mem_reportedKinds {err : BuildError}
    (h : ∀ f, err = .fault f → f.kindName ∈ reportedKinds) : err.kindName ∈ reportedKinds := by
  cases err with
  | fault f => exact h f rfl
  | _ => simp [BuildError.kindName, reportedKinds]

theorem report_of_mem {position : Nat} {op : String} {err : BuildError}
    (h : err.kindName ∈ reportedKinds) :
    report position op err = .recipe (.notBuilt position op err) := by
  cases err with
  | fault f => exact if_pos h
  | _ => rfl

theorem build_of_error {position : Nat} {e : RecipeEntry} {err : BuildError}
    (h : Descriptor.build (.text e.op) e.params = .error err) (hkind : err.kindName ∈ reportedKinds) :
    build position e = .error (.recipe (.notBuilt position e.op err)) := by
  rw [build, h, ← report_of_mem hkind]

theorem entriesOf_null : entriesOf .null = .ok [] := rfl

end Recipe

end StageChain
