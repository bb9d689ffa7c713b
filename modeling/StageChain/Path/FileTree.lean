import StageChain.Fault
import StageChain.Path.Basic
import StageChain.Table
import StageChain.Text.Hex

/-!
# File trees

A tree of files, directories and symbolic links with a current directory. An entry stands under its
*place*, the list of names from the root down to it. A path is followed name by name; a link on the
way, or at the end where links are to be followed, is replaced by its target.

* `get?_removeBelow`: removing a place removes what is at and below it and nothing else.
-/

namespace StageChain

/-- What stands at a place of a file tree. -/
inductive Entry where
  | file (content : Text.Bytes)
  | directory
  | link (target : String)
  deriving DecidableEq, Inhabited

/-- A file tree. The current directory and the directories above it are always there. -/
structure FileTree where
  current : List String
  entries : Table (List String) Entry
  deriving Inhabited

namespace FileTree

/-- What stands at a place. -/
def get? (t : FileTree) (place : List String) : Option Entry :=
  if place.isPrefixOf t.current then some .directory else t.entries.get? place

/-- Puts an entry at a place. -/
def put (t : FileTree) (place : List String) (e : Entry) : FileTree :=
  { t with entries := t.entries.insert place e }

/-- The tree without what is at and below a place. -/
def removeBelow (t : FileTree) (place : List String) : FileTree :=
  { t with entries := t.entries.filterKeys fun k => !place.isPrefixOf k }

/-- Whether something stands below a place. -/
def hasBelow (t : FileTree) (place : List String) : Bool :=
  t.entries.keys.any fun k => place.isPrefixOf k && k ≠ place

/-- How far a path was followed. -/
inductive Reach where
  /-- The path names this place, where something may stand or not. -/
  | arrived (place : List String)
  /-- The path cannot be followed. -/
  | refused (error : SystemError)
  /-- In this directory stands a link, which the rest of the path is below. -/
  | atLink (directory : List String) (target : String) (rest : List String)

/-- Follows names from a directory up to the next link. -/
def descend (t : FileTree) (followLast : Bool) : List String → List String → Reach
  | here, [] => .arrived here
  | here, name :: rest =>
    if name = ".." then descend t followLast here.dropLast rest
    else
      let place := here ++ [name]
      match t.get? place with
      -- only the last name may lead nowhere
      | none => if rest.isEmpty then .arrived place else .refused .notFound
      | some .directory => descend t followLast place rest
      | some (.file _) => if rest.isEmpty then .arrived place else .refused .notDirectory
      | some (.link target) =>
        if rest.isEmpty && !followLast then .arrived place else .atLink here target rest

/-- The place that names from a directory on lead to, across so many links at most. -/
def follow (t : FileTree) (followLast : Bool) :
    (links : Nat) → List String → List String → Except SystemError (List String)
  | 0, _, _ => .error .tooManyLinks
  | links + 1, here, names => match t.descend followLast here names with
    | .arrived place => .ok place
    | .refused e => .error e
    | .atLink directory target rest =>
      let path := Path.ofString target
      follow t followLast links (if path.isAbsolute then [] else directory) (path.parts ++ rest)

/-- How many links may be crossed on the way to a place. -/
def linkLimit : Nat := 40

/-- The place that a path names. -/
def locate (t : FileTree) (followLast : Bool) (p : Path) : Except SystemError (List String) :=
  t.follow followLast (linkLimit + 1) (if p.isAbsolute then [] else t.current) p.parts

/-- What a path names, a link at its end followed. -/
def target? (t : FileTree) (p : Path) : Option Entry :=
  match t.locate true p with
  | .ok place => t.get? place
  | .error _ => none

/-- What a path names, with its place and a link at its end left as it is. -/
def itself? (t : FileTree) (p : Path) : Option (List String × Entry) :=
  match t.locate false p with
  | .ok place => (t.get? place).map (place, ·)
  | .error _ => none

/-- Whether a path names anything. -/
def contains (t : FileTree) (p : Path) : Bool := (t.target? p).isSome

/-- Whether a path names a directory. -/
def isDirectory (t : FileTree) (p : Path) : Bool := t.target? p == some .directory

/-- Whether a path names a link, which is not followed. -/
def isLink (t : FileTree) (p : Path) : Bool :=
  match t.itself? p with
  | some (_, .link _) => true
  | _ => false

/-- Why a directory cannot be deleted under a path, even if there is nothing below it: by a path
without names, or by a step up at the end of the path. -/
def heldBy? (t : FileTree) (p : Path) : Option SystemError :=
  if p.parts.isEmpty then some .invalidArgument
  else if p.parts.getLast? = some ".." then
    some (if t.contains p then .directoryNotEmpty else .notFound)
  else none

/-- Deletes a directory: with everything below it, or only if there is nothing. What is below it
goes even if the directory itself cannot be deleted. The current directory and those above it
stay. -/
def eraseDirectory (t : FileTree) (p : Path) (place : List String) (recursive : Bool) :
    Except Fault Unit × FileTree :=
  let after := if recursive then t.removeBelow place else t
  -- what is below is gone by now, whatever keeps the directory itself
  match after.heldBy? p with
  | some e => (.error (.refused e p.text), after)
  | none =>
    if after.hasBelow place then (.error (.refused .directoryNotEmpty p.text), after)
    else if place.isPrefixOf t.current then (.error (.refused .invalidArgument p.text), after)
    else (.ok (), t.removeBelow place)

/-- Deletes the entry at a place. -/
def eraseEntry (t : FileTree) (place : List String) : Except Fault Unit × FileTree :=
  (.ok (), { t with entries := t.entries.erase place })

/-- Deletes what a path names: what is a directory and no link as one, everything else that is there
by itself. Of a link only the link itself goes. -/
def erase (t : FileTree) (p : Path) (recursive : Bool) : Except Fault Unit × FileTree :=
  let deleting (f : List String → Except Fault Unit × FileTree) : Except Fault Unit × FileTree :=
    match t.locate false p with
    | .ok place => f place
    | .error e => (.error (.refused e p.text), t)
  if t.isDirectory p && !t.isLink p then deleting fun place => t.eraseDirectory p place recursive
  else if t.contains p || t.isLink p then deleting t.eraseEntry
  else (.ok (), t)

/-- Makes a directory in one that is there. -/
def makeDirectory (t : FileTree) (p : Path) : Except SystemError FileTree := do
  let place ← t.locate false p
  match t.get? place with
  | some _ => .error .alreadyExists
  | none => return t.put place .directory

/-- Makes a directory in one that is there; `again` allows it to be there itself. -/
def makeOrKeep (t : FileTree) (again : Bool) (p : Path) : Except Fault Unit × FileTree :=
  match t.makeDirectory p with
  | .ok t => (.ok (), t)
  | .error e =>
    (if again && t.isDirectory p then .ok () else .error (.refused e p.text), t)

/-- Makes a directory and those above it that are missing; at most `fuel` of them. -/
def makeDirectories :
    (fuel : Nat) → FileTree → (again : Bool) → Path → Except Fault Unit × FileTree
  | 0, t, _, p => (.error (.refused .notFound p.text), t)
  | fuel + 1, t, again, p => match t.makeOrKeep again p with
    | (.error (.refused .notFound _), _) => match makeDirectories fuel t true p.parent with
      | (.error f, t) => (.error f, t)
      | (.ok (), t) => t.makeOrKeep again p
    | r => r

/-- Makes a directory with all directories above it. Those that were made stay even if it cannot be
made itself. -/
def makePath (t : FileTree) (again : Bool) (p : Path) : Except Fault Unit × FileTree :=
  makeDirectories (p.parts.length + 1) t again p

/-- Makes a link; a target without a name is refused. -/
def makeLink (t : FileTree) (target : String) (p : Path) : Except SystemError FileTree := do
  if target = "" then throw .notFound
  let place ← t.locate false p
  match t.get? place with
  | some _ => .error .alreadyExists
  | none => return t.put place (.link target)

/-- Writes a file in a directory that is there. -/
def writeFile (t : FileTree) (p : Path) (content : Text.Bytes) : Except Fault FileTree :=
  match t.locate true p with
  | .error e => .error (.refused e p.text)
  | .ok place => match t.get? place with
    | some .directory => .error (.refused .isDirectory p.text)
    | _ => .ok (t.put place (.file content))

/-- The content of a file. -/
def readFile (t : FileTree) (p : Path) : Except Fault Text.Bytes :=
  match t.locate true p with
  | .error e => .error (.refused e p.text)
  | .ok place => match t.get? place with
    | some (.file content) => .ok content
    | some _ => .error (.refused .isDirectory p.text)
    | none => .error (.refused .notFound p.text)

/-- How an entry below the current directory is listed: a file and a link by its path, an empty
directory and a link to a directory with a slash behind; a directory that holds something is not
listed itself. -/
def listed? (t : FileTree) (place : List String) (e : Entry) : Option String :=
  if t.current.isPrefixOf place then
    let names := place.drop t.current.length
    let text := "/".intercalate names
    match e with
    | .file _ => some text
    | .directory => if t.hasBelow place then none else some (text ++ "/")
    | .link _ => some (if t.isDirectory ⟨"", names⟩ then text ++ "/" else text)
  else none

/-- What is listed below the current directory, with its entry, in the order of the texts. -/
def listing (t : FileTree) : List (String × Entry) :=
  (t.entries.entries.filterMap fun e => (t.listed? e.1 e.2).map (·, e.2)).mergeSort
    fun a b => a.1 ≤ b.1

theorem get?_removeBelow {t : FileTree} {place k : List String}
    (h : k.isPrefixOf t.current = false) :
    (t.removeBelow place).get? k = if place.isPrefixOf k then none else t.get? k := by
  simp only [removeBelow, get?, h, Bool.false_eq_true, if_false, Table.get?_filterKeys]
  cases place.isPrefixOf k <;> simp

end FileTree

end StageChain
