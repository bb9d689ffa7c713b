/-!
# Paths and locations

A *path* names a place in a file tree: it is absolute or relative, and its parts are the names
between slashes, without the empty ones and the single points. A *location* is a text that names a
place in some storage; it is never taken apart.

* `text_singleton`: the text of a path of one part is that part.
-/

namespace StageChain

/-- A path, by what stands before its first part and by its parts. -/
structure Path where
  root : String
  parts : List String
  deriving DecidableEq, Inhabited

namespace Path

/-- The pieces of a text between the slashes. -/
def splitSlashes : List Char → List (List Char)
  | [] => [[]]
  | c :: cs =>
    if c = '/' then [] :: splitSlashes cs
    else match splitSlashes cs with
      | [] => [[c]]
      | p :: ps => (c :: p) :: ps

/-- The parts of a path in a text. -/
def partsOf (s : String) : List String :=
  ((splitSlashes s.toList).filter fun p => p ≠ [] ∧ p ≠ ['.']).map String.ofList

/-- A path is absolute if it starts with a slash; exactly two slashes are a root of their own. -/
def rootOf : List Char → String
  | '/' :: '/' :: '/' :: _ => "/"
  | '/' :: '/' :: _ => "//"
  | '/' :: _ => "/"
  | _ => ""

/-- The path that a text names. -/
def ofString (s : String) : Path := ⟨rootOf s.toList, partsOf s⟩

/-- The text of a path. The empty relative path is a point. -/
def text (p : Path) : String :=
  let s := p.root ++ "/".intercalate p.parts
  if s = "" then "." else s

/-- Whether the path starts at the root of the tree. -/
def isAbsolute (p : Path) : Bool := p.root ≠ ""

/-- A path below another one; an absolute path stays what it is. -/
def append (p q : Path) : Path := if q.isAbsolute then q else ⟨p.root, p.parts ++ q.parts⟩

/-- The path without its last part. -/
def parent (p : Path) : Path := ⟨p.root, p.parts.dropLast⟩

/-- The end of the last part from its last point on, if a name stands before and after the point. -/
def extension (p : Path) : String :=
  let name := (p.parts.getLastD "").toList
  let after := (name.reverse.takeWhile (· ≠ '.')).reverse
  let before := name.length - after.length - 1
  if after.length = name.length ∨ after = [] ∨ before = 0 then ""
  else String.ofList ('.' :: after)

/-- Parts in which a step up takes the part before it away. -/
def cancelSteps : (before : List String) → List String → List String
  | before, [] => before.reverse
  | before, name :: rest =>
    if name = ".." then cancelSteps before.tail rest else cancelSteps (name :: before) rest

/-- The absolute path that a path names from a directory, without steps up. -/
def resolveFrom (directory p : Path) : Path :=
  let q := directory.append p
  ⟨q.root, cancelSteps [] q.parts⟩

theorem text_singleton {s : String} (h : s ≠ "") : text ⟨"", [s]⟩ = s := by
  simp [text, h]

end Path

/-- The location of a name under a root. An absolute name is a location by itself, and so is any
name if there is no root. -/
def joinLocation (root name : String) : String :=
  if root = "" ∨ name.toList.head? = some '/' then name
  else if root.toList.getLast? = some '/' then root ++ name
  else root ++ "/" ++ name

end StageChain
