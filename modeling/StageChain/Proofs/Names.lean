import StageChain.Proofs.Memory

/-!
# Locations made of names

A relative path in normal form is a list of names between slashes. As a text it is a location of any
storage: a file tree takes it apart into its names again, and a storage in memory compares the text
from its start. Both come to the same.

* `Path.IsPlain`: **texts that are relative paths in normal form.**
* `isPlain_iff`: they are those that names make.
* `ofString_intercalate`: the path in such a text has these names.
* `isApart_intercalate`: **a text is at or below another one** exactly if the names of that one
  are its first names.
-/

namespace StageChain

namespace Path

/-- **A relative path in normal form**: parts between single slashes, none of them empty, a point or
a step up. -/
def IsPlain (location : String) : Prop :=
  ∀ part ∈ splitSlashes location.toList, part ≠ [] ∧ part ≠ ['.'] ∧ part ≠ ['.', '.']

instance (location : String) : Decidable (IsPlain location) := by unfold IsPlain; infer_instance

/-- A name of an entry in a directory. -/
structure IsName (name : String) : Prop where
  ne_empty : name ≠ ""
  ne_point : name ≠ "."
  ne_stepUp : name ≠ ".."
  no_slash : '/' ∉ name.toList

variable {name location : String} {names names' : List String}

theorem isName_iff : IsName name ↔ (name.toList ≠ [] ∧ name.toList ≠ ['.'] ∧
    name.toList ≠ ['.', '.']) ∧ '/' ∉ name.toList := by
  have hpoint : name.toList = ['.'] ↔ name = "." := by
    rw [← String.toList_inj]; rfl
  have hstepUp : name.toList = ['.', '.'] ↔ name = ".." := by
    rw [← String.toList_inj]; rfl
  simp only [ne_eq, String.toList_eq_nil_iff, hpoint, hstepUp]
  exact ⟨fun ⟨h₁, h₂, h₃, h₄⟩ => ⟨⟨h₁, h₂, h₃⟩, h₄⟩, fun ⟨⟨h₁, h₂, h₃⟩, h₄⟩ => ⟨h₁, h₂, h₃, h₄⟩⟩

/-! ## Names between slashes -/

theorem splitSlashes_eq (cs : List Char) : splitSlashes cs = cs.splitOn '/' := by
  induction cs with
  | nil => simp [splitSlashes]
  | cons c cs ih =>
    rw [splitSlashes, List.splitOn_cons_eq_if_modifyHead, ih]
    by_cases hc : c = '/'
    · simp [hc]
    · rw [if_neg hc, if_neg (by simpa using hc)]
      cases hs : cs.splitOn '/' with
      | nil => exact absurd hs (List.splitOn_ne_nil '/' cs)
      | cons p ps => rfl

theorem not_mem_of_mem_splitSlashes {part cs : List Char} (h : part ∈ splitSlashes cs) :
    '/' ∉ part := by
  induction cs generalizing part with
  | nil => simp [splitSlashes] at h; simp [h]
  | cons c cs ih =>
    rw [splitSlashes] at h
    split at h
    · rcases List.mem_cons.1 h with rfl | h
      · simp
      · exact ih h
    · next hc =>
      split at h
      · rw [List.mem_singleton] at h
        simpa [h] using Ne.symm hc
      · next p ps hs =>
        rcases List.mem_cons.1 h with rfl | h
        · have hp : '/' ∉ p := ih (by simp [hs])
          simp [hp, Ne.symm hc]
        · exact ih (by simp [hs, h])

theorem toList_intercalate_slash (names : List String) :
    ("/".intercalate names).toList = ['/'].intercalate (names.map String.toList) := by
  rw [String.toList_intercalate]
  rfl

theorem splitSlashes_intercalate (hne : names ≠ []) (h : ∀ n ∈ names, IsName n) :
    splitSlashes ("/".intercalate names).toList = names.map String.toList := by
  rw [splitSlashes_eq, toList_intercalate_slash]
  refine List.splitOn_intercalate '/' ?_ (by simpa using hne)
  intro part hpart
  obtain ⟨n, hn, rfl⟩ := List.mem_map.1 hpart
  exact (h n hn).no_slash

/-- **A relative path in normal form is made of names**, and names make one. -/
theorem isPlain_iff : IsPlain location ↔
    ∃ names, names ≠ [] ∧ (∀ n ∈ names, IsName n) ∧ location = "/".intercalate names := by
  constructor
  · intro h
    refine ⟨(splitSlashes location.toList).map String.ofList, ?_, ?_, ?_⟩
    · simp [splitSlashes_eq]
    · intro n hn
      obtain ⟨part, hpart, rfl⟩ := List.mem_map.1 hn
      rw [isName_iff, String.toList_ofList]
      exact ⟨h part hpart, not_mem_of_mem_splitSlashes hpart⟩
    · rw [← String.toList_inj, toList_intercalate_slash, List.map_map]
      have hid : String.toList ∘ String.ofList = id := funext fun cs => String.toList_ofList
      rw [hid, List.map_id, splitSlashes_eq, List.intercalate_splitOn]
  · rintro ⟨names, hne, hnames, rfl⟩ part hpart
    rw [splitSlashes_intercalate hne hnames] at hpart
    obtain ⟨n, hn, rfl⟩ := List.mem_map.1 hpart
    exact (isName_iff.1 (hnames n hn)).1

theorem intercalate_inj (hne : names ≠ []) (h : ∀ n ∈ names, IsName n) (hne' : names' ≠ [])
    (h' : ∀ n ∈ names', IsName n) (heq : "/".intercalate names = "/".intercalate names') :
    names = names' := by
  have hparts : names.map String.toList = names'.map String.toList := by
    rw [← splitSlashes_intercalate hne h, ← splitSlashes_intercalate hne' h', heq]
  exact (List.map_injective_iff.2 fun _ _ => String.toList_inj.1) hparts

theorem head?_intercalate_ne_slash (hne : names ≠ []) (h : ∀ n ∈ names, IsName n) :
    ("/".intercalate names).toList.head? ≠ some '/' := by
  cases names with
  | nil => exact absurd rfl hne
  | cons n rest =>
    have hn := h n List.mem_cons_self
    have hempty : n.toList ≠ [] := by simpa using hn.ne_empty
    have hhead : ("/".intercalate (n :: rest)).toList.head? = n.toList.head? := by
      rw [toList_intercalate_slash]
      cases rest with
      | nil => simp
      | cons m rest => simp [List.intercalate_cons_cons, List.head?_append_of_ne_nil _ hempty]
    rw [hhead]
    intro hslash
    exact hn.no_slash (List.mem_of_mem_head? hslash)

theorem rootOf_eq_empty {cs : List Char} (h : cs.head? ≠ some '/') : rootOf cs = "" := by
  unfold rootOf
  split
  · simp at h
  · simp at h
  · simp at h
  · rfl

/-- **The path in a text of names** is relative and has these names. -/
theorem ofString_intercalate (hne : names ≠ []) (h : ∀ n ∈ names, IsName n) :
    ofString ("/".intercalate names) = ⟨"", names⟩ := by
  have hkept : (names.map String.toList).filter (fun p => p ≠ [] ∧ p ≠ ['.'])
      = names.map String.toList := by
    rw [List.filter_eq_self]
    intro part hpart
    obtain ⟨n, hn, rfl⟩ := List.mem_map.1 hpart
    obtain ⟨⟨hempty, hpoint, -⟩, -⟩ := isName_iff.1 (h n hn)
    exact decide_eq_true ⟨hempty, hpoint⟩
  have hid : String.ofList ∘ String.toList = id := funext fun s => String.ofList_toList
  rw [ofString, partsOf, splitSlashes_intercalate hne h, hkept, List.map_map, hid, List.map_id,
    rootOf_eq_empty (head?_intercalate_ne_slash hne h)]

/-! ## Texts below each other -/

theorem getLast?_intercalate_ne_slash (hne : names ≠ []) (h : ∀ n ∈ names, IsName n) :
    ("/".intercalate names).toList.getLast? ≠ some '/' := by
  obtain ⟨before, n, rfl⟩ := List.eq_nil_or_concat names |>.resolve_left hne
  have hn := h n (by simp)
  have hempty : n.toList ≠ [] := by simpa using hn.ne_empty
  have hlast : ("/".intercalate (before ++ [n])).toList.getLast? = n.toList.getLast? := by
    by_cases hb : before = []
    · simp [hb]
    · rw [String.intercalate_append_of_ne_nil hb (by simp), String.toList_append,
        String.intercalate_singleton, List.getLast?_append_of_ne_nil _ hempty]
  rw [List.concat_eq_append, hlast]
  intro hslash
  exact hn.no_slash (List.mem_of_getLast? hslash)

theorem isBelow_intercalate_iff (hne : names ≠ []) (h : ∀ n ∈ names, IsName n) :
    isBelow location ("/".intercalate names) = true ↔
      ("/".intercalate names).toList ++ ['/'] <+: location.toList := by
  rw [isBelow_iff, List.rdropWhile_eq_self_iff.2]
  intro hl hslash
  have hlast := getLast?_intercalate_ne_slash hne h
  rw [List.getLast?_eq_some_getLast hl, of_decide_eq_true hslash] at hlast
  exact hlast rfl

/-- **A text of names is at or below another one** exactly if the names of that one are its first
names. -/
theorem isApart_intercalate (hne : names ≠ []) (h : ∀ n ∈ names, IsName n) (hne' : names' ≠ [])
    (h' : ∀ n ∈ names', IsName n) :
    isApart ("/".intercalate names') ("/".intercalate names) = false ↔ names <+: names' := by
  rw [isApart_eq_false_iff, isBelow_intercalate_iff hne h]
  constructor
  · rintro (heq | ⟨rest, hrest⟩)
    · obtain rfl := intercalate_inj hne' h' hne h heq
      exact List.prefix_rfl
    · -- the text below goes on after a slash, so both are taken apart alike up to there
      have hparts := congrArg (List.splitOn '/') hrest
      rw [List.append_assoc, List.singleton_append, List.splitOn_append_cons_self,
        ← splitSlashes_eq, ← splitSlashes_eq, splitSlashes_intercalate hne h, ← splitSlashes_eq,
        splitSlashes_intercalate hne' h'] at hparts
      have hpre : names.map String.toList <+: names'.map String.toList := ⟨_, hparts⟩
      obtain ⟨ms, hms, hmap⟩ := List.prefix_map_iff.1 hpre
      rwa [(List.map_injective_iff.2 fun _ _ => String.toList_inj.1) hmap]
  · rintro ⟨rest, rfl⟩
    by_cases hrest : rest = []
    · exact .inl (by rw [hrest, List.append_nil])
    · refine .inr ⟨("/".intercalate rest).toList, ?_⟩
      rw [String.intercalate_append_of_ne_nil hne hrest]
      simp

end Path

end StageChain
