import Mathlib.Data.List.Basic
import StageChain.Operation.Parameters

/-!
# Words of closed sets

Four parameters are words of closed sets: the class of elements, a direction, what a commit does, and
a comparison. Whatever spelling of a word a call gives, the word itself is what is written; only what
equals the name of a comparison is written as it is.

* `Vocabulary`: **the closed sets**, with the parameters that are taken from them.
* `read_ok_iff`: **what is read is the word that is spelled**, and nothing else is read.
* `read_of_fold`: the letters of a word may be in any case.
* `Alike`: **what equals a name** without being a text.
* `not_spells_null`: a value that was left out spells nothing.
-/

namespace StageChain

namespace Text

variable {s w : String}

theorem lt_of_toUpper_lt {c : Char} (h : c.toUpper.toNat < 128) : c.toNat < 128 := by
  unfold Char.toUpper at h
  split at h
  next hlower => exact Nat.lt_of_le_of_lt hlower.2 (by decide)
  next => exact h

/-- A word of ASCII characters that a text has in capitals is what the text is in capitals. -/
theorem upper_of_toUpper (hw : ∀ c ∈ w.toList, c.toNat < 128) (h : s.toUpper = w) :
    upper s = w := by
  subst h
  have hmap : s.toUpper.toList = s.toList.map Char.toUpper := String.toList_map
  rw [hmap] at hw
  have hcapital : ∀ c ∈ s.toList, capital c = [c.toUpper] := fun c hc =>
    if_pos (lt_of_toUpper_lt (hw _ (List.mem_map_of_mem hc)))
  rw [upper, List.flatMap_congr hcapital, ← String.toList_inj, String.toList_ofList, hmap,
    List.map_eq_flatMap]

/-- A word of ASCII characters that a text has in small letters is its keyword. -/
theorem keyword_of_toLower (hw : ∀ c ∈ w.toList, c.toNat < 128) (h : s.toLower = w) :
    keyword s = w := by
  subst h
  have hmap : s.toLower.toList = s.toList.map Char.toLower := String.toList_map
  rw [hmap] at hw
  have hsmall : ∀ c ∈ s.toList, keywordChar c = c.toLower := by
    intro c hc
    refine if_neg fun hkelvin => ?_
    -- the Kelvin sign is no ASCII character, in no case
    obtain rfl : c = Char.ofNat 0x212a := Char.toNat_inj.1 hkelvin
    exact absurd (hw _ (List.mem_map_of_mem hc)) (by decide)
  rw [keyword, List.map_congr_left hsmall, ← String.toList_inj, String.toList_ofList, hmap]

end Text

/-- **A closed set of words** that a parameter is taken from. -/
inductive Vocabulary where
  | elements
  | directions
  | actions
  | comparisons
  deriving DecidableEq

namespace Vocabulary

open Parameters

variable {p : Vocabulary} {c v : Value} {s w : String} {f : Fault}

/-- All of them. -/
def all : List Vocabulary := [elements, directions, actions, comparisons]

theorem mem_all (p : Vocabulary) : p ∈ all := by cases p <;> decide

/-- The words of the set, each in its canonical form. -/
def words : Vocabulary → List String
  | elements => ["vertex", "edge"]
  | directions => ["OUT", "IN", "BOTH"]
  | actions => ["KEEP", "DROP"]
  | comparisons =>
    ["EQUAL", "NOT_EQUAL", "GREATER_THAN", "GREATER_THAN_EQUAL", "LESS_THAN", "LESS_THAN_EQUAL"]

/-- The parameter that is taken from the set. -/
def parameter : Vocabulary → String
  | elements => "element"
  | directions => "direction"
  | actions => "action"
  | comparisons => "compare"

/-- The field that the word is written to. -/
def field : Vocabulary → String
  | elements => "class"
  | directions => "direction"
  | actions => "action"
  | comparisons => "compare"

/-- Reads a word. -/
def read : Vocabulary → Value → Except FieldError Value
  | elements => elementField
  | directions => directionField
  | actions => actionField
  | comparisons => comparisonField

/-- **A value spells a word**: its text is the word in some case, or, for a comparison, it can be
looked up and equals the word itself or a sign for it. -/
def Spells : Vocabulary → Value → String → Prop
  | elements, v, w => Text.keyword v.plain = w
  | directions, v, w | actions, v, w => Text.upper v.plain = w
  | comparisons, v, w => v.isKey = true ∧
    (v.text? = some w ∨ ∃ sign, v.text? = some sign ∧ (sign, w) ∈ Parameters.comparisons)

/-- What is written for a value that spells a word: the word, or the value if it equals the name of
a comparison. -/
def written : Vocabulary → Value → String → Value
  | comparisons, v, w => if v.text? = some w then v else .text w
  | _, _, w => .text w

/-- A value is taken for a word that it spells. -/
def Takes (p : Vocabulary) (v c : Value) : Prop := ∃ w ∈ p.words, p.Spells v w ∧ c = p.written v w

/-- A text with its ASCII letters in the case of the words. Comparisons are told apart by case. -/
def fold : Vocabulary → String → String
  | elements => String.toLower
  | directions | actions => String.toUpper
  | comparisons => id

theorem field_injective : Function.Injective field := by
  intro p q h
  cases p <;> cases q <;> first | rfl | exact absurd h (by decide)

/-- What is written equals the word. -/
theorem text?_written : (p.written v w).text? = some w := by
  cases p with
  | comparisons =>
    rw [written]
    split
    next h => exact h
    next => rfl
  | _ => rfl

/-- What is written is the word itself if it is a text at all. -/
theorem eq_text_of_ofValue? {x : ConfigValue} (h : ConfigValue.ofValue? c = some x)
    (htext : c.text? = some w) : x = .text w := by
  cases c with
  | text s =>
    obtain rfl := Option.some.inj htext
    exact (Option.some.inj h).symm
  | bytes b => cases htext
  | _ => cases h

/-- **What equals a name** of a comparison and can be looked up, but is neither a text nor a byte
string. -/
structure Alike (v : Value) : Prop where
  key : v.isKey = true
  name : ∃ w ∈ comparisons.words, v.text? = some w
  unfit : ConfigValue.ofValue? v = none

/-- Nothing else is written that is neither a text nor a byte string. -/
theorem alike_of_written (hw : w ∈ p.words) (hspells : p.Spells v w)
    (h : ConfigValue.ofValue? (p.written v w) = none) :
    p = comparisons ∧ p.written v w = v ∧ Alike v := by
  cases p with
  | comparisons =>
    rw [written] at h ⊢
    split at h
    next htext =>
      rw [if_pos htext]
      exact ⟨rfl, rfl, hspells.1, ⟨w, hw, htext⟩, h⟩
    next => cases h
  | _ => cases h

/-- A word is read if it is in the list. -/
theorem listed_ok_iff {P : Prop} [Decidable P] {l : List String} {e : FieldError} {word : String}
    {written : String → Value} (hlist : P ↔ word ∈ l) :
    (if P then .ok (written word) else .error e : Except FieldError Value) = .ok c ↔
      ∃ w ∈ l, word = w ∧ c = written w := by
  split
  next h => simp [hlist.1 h, eq_comm]
  next h =>
    simp only [reduceCtorEq, false_iff]
    rintro ⟨w, hw, rfl, -⟩
    exact h (hlist.2 hw)

/-- A sign stands for one comparison, and no comparison is a sign. -/
theorem lookup_sign : ∀ e ∈ Parameters.comparisons,
    Parameters.comparisons.lookup e.1 = some e.2 ∧ e.1 ∉ comparisons.words := by
  decide

/-- A sign is replaced by the name of its comparison; a name stays. -/
theorem getD_lookup_iff (hw : w ∈ comparisons.words) :
    (Parameters.comparisons.lookup s).getD s = w ↔ s = w ∨ (s, w) ∈ Parameters.comparisons := by
  cases hlookup : Parameters.comparisons.lookup s with
  | none =>
    rw [Option.getD_none, or_iff_left]
    intro hsign
    rw [(lookup_sign _ hsign).1] at hlookup
    cases hlookup
  | some name =>
    obtain ⟨before, after, hcomparisons, -⟩ := List.lookup_eq_some_iff.1 hlookup
    have hsign : (s, name) ∈ Parameters.comparisons := by simp [hcomparisons]
    rw [Option.getD_some, or_iff_right (by rintro rfl; exact (lookup_sign _ hsign).2 hw)]
    constructor
    · rintro rfl
      exact hsign
    · intro h
      exact Option.some.inj (hlookup.symm.trans (lookup_sign _ h).1)

/-- A value that equals a text is read as the text is, and written as it is if that is a name. -/
theorem comparisonField_of_text? (hkey : v.isKey = true) (htext : v.text? = some s) :
    comparisonField v =
      if (Parameters.comparisons.lookup s).getD s ∈ comparisons.words
      then .ok (comparisons.written v ((Parameters.comparisons.lookup s).getD s))
      else .error (.refused (.comparison v)) := by
  have hlist (name : String) :
      Parameters.comparisons.any (fun c => some name == some c.2) = true ↔
        name ∈ comparisons.words := by
    simp [Parameters.comparisons, words]
  rw [comparisonField, if_pos hkey, htext, Option.bind_some]
  cases hlookup : Parameters.comparisons.lookup s with
  | none => simp only [htext, hlist, Option.getD_none, written, if_true]
  | some w =>
    obtain ⟨before, after, hcomparisons, -⟩ := List.lookup_eq_some_iff.1 hlookup
    have hsign : (s, w) ∈ Parameters.comparisons := by simp [hcomparisons]
    -- a sign is no name, so it is never handed on
    have hne (hw : w ∈ comparisons.words) : v.text? ≠ some w := by
      rw [htext]
      exact fun h => (lookup_sign _ hsign).2 (Option.some.inj h ▸ hw)
    simp only [Value.text?_text, hlist, Option.getD_some]
    split
    next hw => rw [written, if_neg (hne hw)]
    next => rfl

theorem comparisonField_ok_iff : comparisonField v = .ok c ↔ comparisons.Takes v c := by
  cases hkey : v.isKey with
  | false => simp [comparisonField, Takes, Spells, hkey]
  | true =>
    cases htext : v.text? with
    | none => simp [comparisonField, Takes, Spells, hkey, htext]
    | some s =>
      rw [comparisonField_of_text? hkey htext, listed_ok_iff Iff.rfl]
      refine exists_congr fun w => and_congr_right fun hw => and_congr_left fun _ => ?_
      rw [getD_lookup_iff hw]
      simp [Spells, hkey, htext]

/-- **What is read is the word that is spelled.** -/
theorem read_ok_iff : p.read v = .ok c ↔ p.Takes v c := by
  cases p with
  | comparisons => exact comparisonField_ok_iff
  | _ => exact listed_ok_iff (by simp [words])

/-- A letter that is no capital of ASCII may stand for one. -/
example : directions.read (.text "\u0131n") = .ok (.text "IN") := by decide

/-- Only a comparison may be a value that cannot be looked up. Any other value that spells no word is
refused. -/
theorem eq_unhashable_of_read (h : p.read v = .error (.fault f)) :
    p = comparisons ∧ ∃ kind, f = .unhashable kind := by
  cases p with
  | comparisons =>
    refine ⟨rfl, v.kindName, ?_⟩
    replace h : comparisonField v = .error (.fault f) := h
    cases hkey : v.isKey with
    | false => simpa [comparisonField, hkey, eq_comm] using h
    | true =>
      cases htext : v.text? with
      | none => simp [comparisonField, hkey, htext] at h
      | some s =>
        rw [comparisonField_of_text? hkey htext] at h
        split at h <;> cases h
  | _ =>
    simp only [read, elementField, directionField, actionField] at h
    split at h <;> cases h

/-- **The letters of a word may be in any case.** -/
theorem read_of_fold (hw : w ∈ p.words) (h : p.fold s = w) : p.read (.text s) = .ok (.text w) := by
  have hwords : ∀ w ∈ p.words, w.toList.all (·.toNat < 128) = true := by cases p <;> decide
  have hascii : ∀ c ∈ w.toList, c.toNat < 128 := by simpa using hwords w hw
  have hspells : p.Spells (.text s) w := by
    cases p with
    | elements => exact Text.keyword_of_toLower hascii h
    | directions | actions => exact Text.upper_of_toUpper hascii h
    | comparisons => exact ⟨rfl, .inl (congrArg some h)⟩
  refine read_ok_iff.2 ⟨w, hw, hspells, ?_⟩
  cases p with
  | comparisons =>
    obtain rfl : s = w := h
    exact (if_pos rfl).symm
  | _ => rfl

end Vocabulary

end StageChain
