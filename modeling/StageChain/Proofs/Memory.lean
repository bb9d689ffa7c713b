import Mathlib.Data.List.DropRight
import StageChain.Proofs.Execution
import StageChain.Session.DryRun

/-!
# Locations in memory

A storage in memory is known by which locations it holds. Taking a location out takes out what is at
it and below it and nothing else, and clearing a location does that where no fault comes up.

* `isBelow_trans`: locations lie below each other as paths do.
* `mem_remove`: what is left when a location is taken out.
* `cleared_of_clears`: **clearing** a location at which no fault comes up takes it out.
* `cleared_of_not_clears`: a fault leaves everything as it was.
* `mem_foldl_cleared`: **what is left when locations are cleared** one after the other, in whatever
  order and however they lie below each other.
* `deleted_foldl_cleared`: which of them are deleted.
* `Session.clear_cases`: clearing works or changes nothing.
-/

namespace StageChain

/-- Whether a location is neither another one nor below it. -/
def isApart (location other : String) : Bool := location ≠ other && !isBelow location other

/-! ## Locations below each other -/

theorem isBelow_iff {location other : String} : isBelow location other = true ↔
    other.toList.rdropWhile (· = '/') ++ ['/'] <+: location.toList := List.isPrefixOf_iff_prefix

/-- What a text with one mark at its end starts, it also starts if the marks at the end of that are
one. -/
theorem prefix_rdropWhile {c : Char} {xs ys : List Char}
    (h : xs.rdropWhile (· = c) ++ [c] <+: ys) :
    xs.rdropWhile (· = c) ++ [c] <+: ys.rdropWhile (· = c) ++ [c] := by
  induction ys using List.reverseRecOn with
  | nil => simp at h
  | append_singleton ys x ih =>
    by_cases hx : x = c
    · subst hx
      rw [List.rdropWhile_concat_pos _ _ _ (by simp)]
      rcases List.prefix_concat_iff.1 h with heq | hys
      · obtain ⟨rfl, -⟩ := List.append_inj' heq rfl
        exact ⟨[], by rw [List.rdropWhile_idempotent, List.append_nil]⟩
      · exact ih hys
    · rw [List.rdropWhile_concat_neg _ _ _ (by simpa using hx)]
      exact h.trans (List.prefix_append _ _)

/-- What is below a location is below those that the location is below. -/
theorem isBelow_trans {a b c : String} (hab : isBelow a b = true) (hbc : isBelow b c = true) :
    isBelow a c = true := by
  rw [isBelow_iff] at *
  exact (prefix_rdropWhile hbc).trans hab

theorem isApart_eq_false_iff {a b : String} :
    isApart a b = false ↔ a = b ∨ isBelow a b = true := by
  rw [isApart, Bool.and_eq_false_iff]
  simp

/-- What is at or below a location is at or below those that the location is at or below. -/
theorem isApart_eq_false_trans {a b c : String} (hab : isApart a b = false)
    (hbc : isApart b c = false) : isApart a c = false := by
  rw [isApart_eq_false_iff] at *
  rcases hab with rfl | hab
  · exact hbc
  rcases hbc with rfl | hbc
  · exact .inr hab
  · exact .inr (isBelow_trans hab hbc)

/-! ## What is held -/

namespace MemoryStorage

variable {m : MemoryStorage} {location l : String}

theorem isApart_iff {location other : String} :
    isApart location other = true ↔ location ≠ other ∧ isBelow location other = false := by
  simp [isApart]

/-- A location is held by those that are not apart from it. -/
theorem holds_eq_false_iff :
    m.holds location = false ↔ ∀ l ∈ m.locations, isApart l location = true := by
  simp only [holds, Bool.or_eq_false_iff, List.any_eq_false, isApart_iff]
  constructor
  · rintro ⟨hc, hb⟩ l hl
    refine ⟨?_, by simpa using hb l hl⟩
    rintro rfl
    rw [List.contains_iff_mem.2 hl] at hc
    exact absurd hc (by simp)
  · intro h
    refine ⟨?_, fun l hl => by simpa using (h l hl).2⟩
    rw [← Bool.not_eq_true, List.contains_iff_mem]
    intro hl
    exact (h location hl).1 rfl

/-- A location is held if something at or below it is stored. -/
theorem holds_iff : m.holds location = true ↔ ∃ l ∈ m.locations, isApart l location = false := by
  rw [← Bool.not_eq_false, holds_eq_false_iff]
  simp

theorem holds_of_mem (h : location ∈ m.locations) : m.holds location = true := by
  rw [holds, List.contains_iff_mem.2 h, Bool.true_or]

theorem mem_add : l ∈ (m.add location).locations ↔ l ∈ m.locations ∨ l = location := by
  unfold add
  split
  · next h =>
    refine ⟨.inl, ?_⟩
    rintro (h' | rfl)
    · exact h'
    · exact List.contains_iff_mem.1 h
  · simp

theorem frame_add : (m.add location).deleted = m.deleted ∧
    (m.add location).containsFault = m.containsFault ∧
    (m.add location).eraseFault = m.eraseFault := by
  unfold add
  split <;> exact ⟨rfl, rfl, rfl⟩

/-- What is left when a location is taken out. -/
theorem mem_remove :
    l ∈ (m.remove location).locations ↔ l ∈ m.locations ∧ isApart l location = true := by
  simp [remove, isApart]

theorem holds_remove_self : (m.remove location).holds location = false := by
  rw [holds_eq_false_iff]
  intro l hl
  exact (mem_remove.1 hl).2

/-! ## Clearing locations -/

/-- Whether no fault comes up when a location is cleared. -/
def clears (m : MemoryStorage) (location : String) : Bool :=
  (m.containsFault location).isNone && (m.eraseFault location).isNone

/-- **Clearing** a location at which no fault comes up takes it out, if it is held. -/
theorem cleared_of_clears (h : m.clears location = true) :
    Chain.cleared m location = if m.holds location then m.remove location else m := by
  obtain ⟨hc, he⟩ : m.containsFault location = none ∧ m.eraseFault location = none := by
    simpa [clears] using h
  cases hh : m.holds location <;> simp [Chain.cleared, Storage.contains, Storage.erase, hc, he, hh]

/-- A fault leaves everything as it was. -/
theorem cleared_of_not_clears (h : m.clears location = false) : Chain.cleared m location = m := by
  unfold Chain.cleared
  cases hc : m.containsFault location with
  | some f => simp [Storage.contains, hc]
  | none =>
    obtain ⟨f, he⟩ : ∃ f, m.eraseFault location = some f := by
      rw [← Option.isSome_iff_exists]
      simpa [clears, hc] using h
    cases hh : m.holds location <;> simp [Storage.contains, Storage.erase, hc, he, hh]

/-- Clearing a location does not change what faults come up. -/
theorem faults_cleared (m : MemoryStorage) (location : String) :
    (Chain.cleared m location).containsFault = m.containsFault ∧
    (Chain.cleared m location).eraseFault = m.eraseFault := by
  cases h : m.clears location with
  | true => rw [cleared_of_clears h]; split <;> exact ⟨rfl, rfl⟩
  | false => rw [cleared_of_not_clears h]; exact ⟨rfl, rfl⟩

/-- Clearing a location only takes locations out. -/
theorem mem_of_mem_cleared (h : l ∈ (Chain.cleared m location).locations) : l ∈ m.locations := by
  cases hc : m.clears location with
  | true =>
    rw [cleared_of_clears hc] at h
    split at h
    · exact (mem_remove.1 h).1
    · exact h
  | false => rwa [cleared_of_not_clears hc] at h

/-- A location that is apart from one that is cleared stays. -/
theorem mem_cleared (hl : l ∈ m.locations)
    (h : m.clears location = true → isApart l location = true) :
    l ∈ (Chain.cleared m location).locations := by
  cases hc : m.clears location with
  | true =>
    rw [cleared_of_clears hc]
    split
    · exact mem_remove.2 ⟨hl, h hc⟩
    · exact hl
  | false => rwa [cleared_of_not_clears hc]

/-- A location at which no fault comes up is not held once it was cleared. -/
theorem holds_cleared (h : m.clears location = true) :
    (Chain.cleared m location).holds location = false := by
  rw [cleared_of_clears h]
  split
  · exact holds_remove_self
  · next hh => simpa using hh

/-- A location that is held is deleted when it is cleared, unless a fault comes up. -/
theorem deleted_cleared (h : m.holds location = true) : (Chain.cleared m location).deleted
    = m.deleted ++ [location].filter m.clears := by
  cases hc : m.clears location with
  | true => rw [cleared_of_clears hc, if_pos h]; simp [remove, hc]
  | false => rw [cleared_of_not_clears hc]; simp [hc]

/-! ## Clearing several locations -/

/-- What is left when a location is cleared. -/
theorem mem_cleared_iff : l ∈ (Chain.cleared m location).locations ↔
    l ∈ m.locations ∧ (m.clears location = true → isApart l location = true) := by
  refine ⟨fun h => ⟨mem_of_mem_cleared h, fun hc => ?_⟩, fun h => mem_cleared h.1 h.2⟩
  exact holds_eq_false_iff.1 (holds_cleared hc) l h

/-- A storage after a location was cleared, if there is one to clear. -/
def clearedIfAny (m : MemoryStorage) : Option String → MemoryStorage
  | some location => Chain.cleared m location
  | none => m

/-- What is left when a location is cleared, if there is one to clear. -/
theorem mem_clearedIfAny {location? : Option String} : l ∈ (m.clearedIfAny location?).locations ↔
    l ∈ m.locations ∧ ∀ t ∈ location?, m.clears t = true → isApart l t = true := by
  cases location? with
  | none => simp [clearedIfAny]
  | some t => simp [clearedIfAny, mem_cleared_iff]

theorem clears_cleared (m : MemoryStorage) (location t : String) :
    (Chain.cleared m location).clears t = m.clears t := by
  rw [clears, clears, (faults_cleared m location).1, (faults_cleared m location).2]

/-- At most the location itself is deleted when it is cleared, and not if a fault comes up. -/
theorem deleted_cleared_sublist (m : MemoryStorage) (location : String) :
    ∃ ds, (Chain.cleared m location).deleted = m.deleted ++ ds ∧
      ds.Sublist ([location].filter m.clears) := by
  cases hh : m.holds location with
  | true => exact ⟨_, deleted_cleared hh, .refl _⟩
  | false =>
    have hs : Chain.cleared m location = m := by
      cases hc : m.clears location with
      | true => rw [cleared_of_clears hc, hh]; rfl
      | false => exact cleared_of_not_clears hc
    exact ⟨[], by rw [hs, List.append_nil], List.nil_sublist _⟩

/-- **What is left when locations are cleared** one after the other: what was there, less what is at
or below one of them at which no fault comes up. The order does not matter. -/
theorem mem_foldl_cleared {locations : List String} :
    l ∈ (locations.foldl Chain.cleared m).locations ↔
      l ∈ m.locations ∧ ∀ t ∈ locations, m.clears t = true → isApart l t = true := by
  induction locations generalizing m with
  | nil => simp
  | cons location rest ih =>
    rw [List.foldl_cons, ih, mem_cleared_iff, List.forall_mem_cons, and_assoc]
    simp only [clears_cleared]

/-- A location at which no fault comes up is not held once it was cleared among others. -/
theorem holds_foldl_cleared {locations : List String} {t : String} (ht : t ∈ locations)
    (hc : m.clears t = true) : (locations.foldl Chain.cleared m).holds t = false := by
  rw [holds_eq_false_iff]
  intro l hl
  exact (mem_foldl_cleared.1 hl).2 t ht hc

/-- Only locations at which no fault comes up are deleted when they are cleared, each at most as often
as it is. -/
theorem deleted_foldl_cleared (m : MemoryStorage) (locations : List String) :
    ∃ ds, (locations.foldl Chain.cleared m).deleted = m.deleted ++ ds ∧
      ds.Sublist (locations.filter m.clears) := by
  induction locations generalizing m with
  | nil => exact ⟨[], by simp, .refl _⟩
  | cons location rest ih =>
    obtain ⟨first, hfirst, hone⟩ := deleted_cleared_sublist m location
    obtain ⟨others, hothers, hrest⟩ := ih (Chain.cleared m location)
    rw [funext (clears_cleared m location)] at hrest
    refine ⟨first ++ others, ?_, ?_⟩
    · rw [List.foldl_cons, hothers, hfirst, List.append_assoc]
    · rw [← List.singleton_append, List.filter_append]
      exact hone.append hrest

end MemoryStorage

/-- Clearing a location in memory either works or changes nothing. -/
theorem Session.clear_cases (s : Session MemoryStorage) (location : String) :
    (∃ b, s.clear location = (.ok b, { s with storage := Chain.cleared s.storage location })) ∨
    ∃ f, s.clear location = (.error f, s) := by
  unfold Session.clear Chain.cleared
  cases hcontains : s.storage.containsFault location with
  | some f => exact .inr ⟨f, by simp [Storage.contains, hcontains]⟩
  | none =>
    cases hholds : s.storage.holds location with
    | false => exact .inl ⟨false, by simp [Storage.contains, hcontains, hholds]⟩
    | true =>
      cases herase : s.storage.eraseFault location with
      | some f => exact .inr ⟨f, by simp [Storage.contains, Storage.erase, hcontains, hholds, herase]⟩
      | none =>
        exact .inl ⟨true, by simp [Storage.contains, Storage.erase, hcontains, hholds, herase]⟩

end StageChain
