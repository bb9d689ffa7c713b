import StageChain.Fault
import StageChain.Path.FileTree

/-!
# Storages

A storage says whether there is anything at a location and deletes what is there. Both may fail. Two
storages are given: a set of locations kept in memory, where a location also exists once something
below it does, and a file tree, whose locations are paths.

* `isBelow_slash`: what follows a location and a slash lies below it.
* `contains_add`: a location that was added exists.
-/

namespace StageChain

/-- A storage with states of type `σ`. -/
class Storage (σ : Type) where
  /-- Whether there is anything at a location. -/
  contains : σ → (location : String) → Except Fault Bool
  /-- Deletes what is at a location, with all that is below it or only if there is nothing. -/
  erase : σ → (location : String) → (recursive : Bool) → Except Fault Unit × σ

/-- Whether a location lies below another one: it starts with the other, less the slashes at its
end, and a slash. -/
def isBelow (location other : String) : Bool :=
  ((other.toList.reverse.dropWhile (· = '/')).reverse ++ ['/']).isPrefixOf location.toList

/-- A set of locations, with the locations that were deleted in order, and with faults that may come
up at some locations before anything is done. -/
structure MemoryStorage where
  locations : List String
  deleted : List String
  containsFault : String → Option Fault
  eraseFault : String → Option Fault

namespace MemoryStorage

/-- A storage without faults. -/
def ofList (locations : List String) : MemoryStorage :=
  ⟨locations.eraseDups, [], fun _ => none, fun _ => none⟩

instance : Inhabited MemoryStorage := ⟨ofList []⟩

/-- Whether a location is in the set or above one that is. -/
def holds (s : MemoryStorage) (location : String) : Bool :=
  s.locations.contains location || s.locations.any (isBelow · location)

/-- Adds a location. -/
def add (s : MemoryStorage) (location : String) : MemoryStorage :=
  if s.locations.contains location then s else { s with locations := s.locations ++ [location] }

/-- Takes a location and all that is below it out of the set. -/
def remove (s : MemoryStorage) (location : String) : MemoryStorage :=
  { s with
    locations := s.locations.filter fun l => l ≠ location && !isBelow l location
    deleted := s.deleted ++ [location] }

/-- The locations in the order of their texts. -/
def sorted (s : MemoryStorage) : List String := s.locations.mergeSort fun a b => a ≤ b

instance : Storage MemoryStorage where
  contains s location := match s.containsFault location with
    | some f => .error f
    | none => .ok (s.holds location)
  erase s location recursive := match s.eraseFault location with
    | some f => (.error f, s)
    | none =>
      if !recursive && s.locations.any (isBelow · location) then (.error (.notEmpty location), s)
      else (.ok (), s.remove location)

theorem contains_add (s : MemoryStorage) (location : String) :
    (s.add location).holds location = true := by
  unfold add holds
  split
  · next h => simp [List.contains_iff_mem.1 h]
  · simp

end MemoryStorage

instance : Storage FileTree where
  contains t location := .ok (t.contains (.ofString location))
  erase t location recursive := t.erase (.ofString location) recursive

theorem isBelow_slash (location rest : String) (h : location.toList.getLast? ≠ some '/') :
    isBelow (location ++ "/" ++ rest) location = true := by
  have hl : (location.toList.reverse.dropWhile (· = '/')).reverse = location.toList := by
    rw [List.getLast?_eq_head?_reverse] at h
    cases hr : location.toList.reverse with
    | nil => simpa using (congrArg List.reverse hr).symm
    | cons c cs =>
      have hc : c ≠ '/' := by simpa [hr] using h
      rw [List.dropWhile_cons_of_neg (by simp [hc]), ← hr, List.reverse_reverse]
  simp [isBelow, hl, String.toList_append, List.append_assoc]

end StageChain
