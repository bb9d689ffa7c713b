import StageChain.Proofs.Deletion
import StageChain.Proofs.History
import StageChain.Proofs.Writing

/-!
# A storage in memory beside a file tree

Files are written in a tree, and each location that could be written is added to a storage in
memory. Locations are asked for and deleted in both. The tree starts without anything in its current
directory and the storage without locations; the locations are relative paths in normal form. Then
the storage always holds the files of the tree. It only does not know of directories: those that a
write that failed has made, and those whose files were deleted.

* `Faithful`: **the storage holds the files of the tree**; `Faithful.answer`: each call keeps that.
* `Faithful.holds_iff`: a location is held if a file is at or below it.
* `Agrees`: what shows of both; `Faithful.agrees`.
* `storages_agree`: **after whatever calls** the two agree, and no deletion fails.
-/

namespace StageChain

open History StageChain.Path

/-- A file tree, and a storage in memory beside it. -/
structure Mirror where
  tree : FileTree
  memory : MemoryStorage

namespace Mirror

/-- What the two are called for. -/
inductive Call where
  /-- A file is written; `making` has missing directories above it made. -/
  | write (location : String) (content : Text.Bytes) (making : Bool)
  | contains (location : String)
  /-- All that is at a location and below it is deleted. -/
  | erase (location : String)

def Call.location : Call → String
  | .write location _ _ => location
  | .contains location => location
  | .erase location => location

/-- What a call comes to. -/
inductive Reply where
  | written (onDisk : Except Fault Unit)
  | contained (onDisk inMemory : Except Fault Bool)
  | erased (onDisk inMemory : Except Fault Unit)

/-- The reply to a call, with the two after it. A location is added to the storage in memory if its
file could be written in the tree. -/
def answer (s : Mirror) : Call → Reply × Mirror
  | .write location content making =>
    match s.tree.store making (.ofString location) content with
    | (.ok (), t) => (.written (.ok ()), ⟨t, s.memory.add location⟩)
    | (.error f, t) => (.written (.error f), ⟨t, s.memory⟩)
  | .contains location =>
    (.contained (Storage.contains s.tree location) (Storage.contains s.memory location), s)
  | .erase location =>
    let onDisk := Storage.erase s.tree location true
    let inMemory := Storage.erase s.memory location true
    (.erased onDisk.1 inMemory.1, ⟨onDisk.2, inMemory.2⟩)

variable {s : Mirror} {names ms : List String} {location : String} {c : Call} {calls : List Call}
  {t : FileTree}

/-! ## What the calls preserve -/

/-- **The storage in memory holds the files of the tree.** The tree is plain, and no fault comes up
in the storage. -/
structure Faithful (s : Mirror) : Prop where
  plain : s.tree.Plain
  containsFault : ∀ l, s.memory.containsFault l = none
  eraseFault : ∀ l, s.memory.eraseFault l = none
  mem_iff : ∀ l, l ∈ s.memory.locations ↔ ∃ ms, l = "/".intercalate ms ∧ s.tree.IsFile ms

theorem faithful_of_vacant (h : ∀ k ∈ t.entries.keys, ¬t.current <+: k) :
    Faithful ⟨t, .ofList []⟩ := by
  refine ⟨FileTree.plain_of_vacant h, fun _ => rfl, fun _ => rfl, fun l => ?_⟩
  have hnone (ms : List String) : ¬t.IsFile ms := by
    rintro ⟨content, hfile⟩
    by_cases hms : ms = []
    · simp [hms] at hfile
    · rw [FileTree.inside?_of_vacant h hms] at hfile
      cases hfile
  simp [MemoryStorage.ofList, hnone]

namespace Faithful

theorem names_of_isFile (h : s.Faithful) (hfile : s.tree.IsFile ms) :
    ms ≠ [] ∧ ∀ n ∈ ms, IsName n := by
  obtain ⟨content, hinside⟩ := hfile
  refine ⟨?_, h.plain.named ms (by rw [hinside]; simp)⟩
  rintro rfl
  simp at hinside

theorem write (h : s.Faithful) (hlocation : IsPlain location) (content : Text.Bytes)
    (making : Bool) : (s.answer (.write location content making)).2.Faithful := by
  obtain ⟨names, hne, hnames, rfl⟩ := isPlain_iff.1 hlocation
  obtain ⟨t, hplain, hstore⟩ := FileTree.store_cases h.plain hne hnames making content
  rw [← ofString_intercalate hne hnames] at hstore
  rcases hstore with ⟨hstored, hfiles⟩ | ⟨f, hfailed, hfiles⟩
  · have hframe (l : String) : (s.memory.add l).containsFault = s.memory.containsFault ∧
        (s.memory.add l).eraseFault = s.memory.eraseFault := MemoryStorage.frame_add.2
    simp only [answer, hstored]
    refine ⟨hplain, fun l => ?_, fun l => ?_, fun l => ?_⟩
    · rw [(hframe _).1, h.containsFault]
    · rw [(hframe _).2, h.eraseFault]
    · rw [MemoryStorage.mem_add, h.mem_iff]
      simp only [hfiles, and_or_left, exists_or, exists_eq_right]
      exact or_comm
  · simp only [answer, hfailed]
    exact ⟨hplain, h.containsFault, h.eraseFault, fun l => by simp only [h.mem_iff, hfiles]⟩

/-- **Deleting** works in both and takes the same files out. -/
theorem erase (h : s.Faithful) (hlocation : IsPlain location) :
    (s.answer (.erase location)).1 = .erased (.ok ()) (.ok ()) ∧
      (s.answer (.erase location)).2.Faithful := by
  obtain ⟨names, hne, hnames, rfl⟩ := isPlain_iff.1 hlocation
  obtain ⟨t, herase, hplain, hinside⟩ := FileTree.erase_of_plain h.plain hne hnames
  have hdisk : Storage.erase s.tree ("/".intercalate names) true = (.ok (), t) := by
    rw [← herase, ← ofString_intercalate hne hnames]
    rfl
  have hmemory : Storage.erase s.memory ("/".intercalate names) true
      = (.ok (), s.memory.remove ("/".intercalate names)) := by
    simp [Storage.erase, h.eraseFault]
  simp only [answer, hdisk, hmemory, true_and]
  refine ⟨hplain, h.containsFault, h.eraseFault, fun l => ?_⟩
  rw [MemoryStorage.mem_remove, h.mem_iff]
  have hfile (ms : List String) : t.IsFile ms ↔ s.tree.IsFile ms ∧ ¬names <+: ms := by
    rw [FileTree.IsFile, hinside]
    by_cases hpre : names <+: ms <;> simp [hpre, FileTree.IsFile]
  -- a text is taken out of memory exactly if its names are taken out of the tree
  constructor
  · rintro ⟨⟨ms, rfl, hms⟩, hapart⟩
    obtain ⟨hne', hnames'⟩ := h.names_of_isFile hms
    refine ⟨ms, rfl, (hfile ms).2 ⟨hms, fun hpre => ?_⟩⟩
    rw [(isApart_intercalate hne hnames hne' hnames').2 hpre] at hapart
    cases hapart
  · rintro ⟨ms, rfl, hms⟩
    obtain ⟨hms, hpre⟩ := (hfile ms).1 hms
    obtain ⟨hne', hnames'⟩ := h.names_of_isFile hms
    refine ⟨⟨ms, rfl, hms⟩, ?_⟩
    rw [← Bool.not_eq_false, isApart_intercalate hne hnames hne' hnames']
    exact hpre

/-- **Each call keeps the storage faithful.** -/
theorem answer (h : s.Faithful) (hc : IsPlain c.location) : (s.answer c).2.Faithful := by
  cases c with
  | write location content making => exact h.write hc content making
  | contains location => exact h
  | erase location => exact (h.erase hc).2

/-- A location is held if a file is at it or below it. -/
theorem holds_iff (h : s.Faithful) (hne : names ≠ []) (hnames : ∀ n ∈ names, IsName n) :
    s.memory.holds ("/".intercalate names) = true ↔ ∃ ms, names <+: ms ∧ s.tree.IsFile ms := by
  rw [MemoryStorage.holds_iff]
  constructor
  · rintro ⟨l, hl, hnear⟩
    obtain ⟨ms, rfl, hms⟩ := (h.mem_iff l).1 hl
    obtain ⟨hne', hnames'⟩ := h.names_of_isFile hms
    exact ⟨ms, (isApart_intercalate hne hnames hne' hnames').1 hnear, hms⟩
  · rintro ⟨ms, hpre, hms⟩
    obtain ⟨hne', hnames'⟩ := h.names_of_isFile hms
    exact ⟨_, (h.mem_iff _).2 ⟨ms, rfl, hms⟩, (isApart_intercalate hne hnames hne' hnames').2 hpre⟩

/-- The two say of each location what stands at its names in the tree. -/
theorem contains_eq (h : s.Faithful) (hne : names ≠ []) (hnames : ∀ n ∈ names, IsName n) :
    Storage.contains s.tree ("/".intercalate names) = .ok (s.tree.inside? names).isSome ∧
      Storage.contains s.memory ("/".intercalate names)
        = .ok (s.memory.holds ("/".intercalate names)) := by
  constructor
  · rw [← FileTree.target?_of_plain h.plain hnames, ← ofString_intercalate hne hnames]
    rfl
  · simp [Storage.contains, h.containsFault]

end Faithful

/-! ## What shows of both -/

/-- A path names a directory with no file below it. -/
def IsBare (t : FileTree) (p : Path) : Prop :=
  t.isDirectory p = true ∧ ∀ location content, (location, .file content) ∈ t.listing →
    ¬p.parts <+: (Path.ofString location).parts

/-- **The two agree.** -/
structure Agrees (s : Mirror) : Prop where
  /-- The files that are listed in the tree are the locations in memory. -/
  files : ∀ l, l ∈ s.memory.locations ↔ ∃ content, (l, .file content) ∈ s.tree.listing
  /-- A location that is there in memory is there on disk. It is there on disk alone exactly if it is
  a directory with no file below it. -/
  contains : ∀ l, IsPlain l → ∃ onDisk inMemory,
    Storage.contains s.tree l = .ok onDisk ∧ Storage.contains s.memory l = .ok inMemory ∧
      (inMemory = true → onDisk = true) ∧
      (onDisk = true ∧ inMemory = false ↔ IsBare s.tree (.ofString l))

namespace Faithful

theorem mem_iff_listing (h : s.Faithful) (l : String) :
    l ∈ s.memory.locations ↔ ∃ content, (l, .file content) ∈ s.tree.listing := by
  rw [h.mem_iff]
  constructor
  · rintro ⟨ms, hl, content, hinside⟩
    exact ⟨content, (FileTree.mem_listing_iff h.plain).2 ⟨ms, hl, hinside⟩⟩
  · rintro ⟨content, hlisted⟩
    obtain ⟨ms, hl, hinside⟩ := (FileTree.mem_listing_iff h.plain).1 hlisted
    exact ⟨ms, hl, content, hinside⟩

theorem isBare_iff (h : s.Faithful) (hnames : ∀ n ∈ names, IsName n) :
    IsBare s.tree ⟨"", names⟩ ↔ s.tree.inside? names = some .directory ∧
      ¬∃ ms, names <+: ms ∧ s.tree.IsFile ms := by
  rw [IsBare, FileTree.isDirectory, FileTree.target?_of_plain h.plain hnames, beq_iff_eq]
  refine and_congr_right fun _ => ?_
  constructor
  · rintro hnone ⟨ms, hpre, content, hinside⟩
    obtain ⟨hne', hnames'⟩ := h.names_of_isFile ⟨content, hinside⟩
    refine hnone _ content ((FileTree.mem_listing_iff h.plain).2 ⟨ms, rfl, hinside⟩) ?_
    rwa [ofString_intercalate hne' hnames']
  · intro hnone location content hlisted hpre
    obtain ⟨ms, rfl, hinside⟩ := (FileTree.mem_listing_iff h.plain).1 hlisted
    obtain ⟨hne', hnames'⟩ := h.names_of_isFile ⟨content, hinside⟩
    rw [ofString_intercalate hne' hnames'] at hpre
    exact hnone ⟨ms, hpre, content, hinside⟩

/-- **A faithful storage agrees with the tree.** -/
theorem agrees (h : s.Faithful) : s.Agrees := by
  refine ⟨h.mem_iff_listing, fun l hl => ?_⟩
  obtain ⟨names, hne, hnames, rfl⟩ := isPlain_iff.1 hl
  obtain ⟨hdisk, hmemory⟩ := h.contains_eq hne hnames
  refine ⟨_, _, hdisk, hmemory, fun hheld => ?_, ?_⟩
  · obtain ⟨ms, hpre, content, hinside⟩ := (h.holds_iff hne hnames).1 hheld
    by_cases heq : names = ms
    · simp [heq, hinside]
    · rw [h.plain.rooted.directory_above (by rw [hinside]; simp) hpre heq]
      rfl
  · rw [ofString_intercalate hne hnames, h.isBare_iff hnames, ← h.holds_iff hne hnames,
      Bool.not_eq_true]
    refine and_congr_left fun hheld => ?_
    -- with no file at or below it, what stands there is a directory
    have hfile : ¬s.tree.IsFile names := fun hfile => by
      rw [(h.holds_iff hne hnames).2 ⟨names, List.prefix_rfl, hfile⟩] at hheld
      cases hheld
    rw [Option.isSome_iff_ne_none]
    refine ⟨fun hsome => ?_, fun hdirectory => by rw [hdirectory]; simp⟩
    exact h.plain.directory_of_no_file hsome fun content hentry => hfile ⟨content, hentry⟩

end Faithful

/-- **A storage in memory agrees with a file tree** after each of the calls, whatever they are, and
each deletion works in both: the tree starts with a vacant directory, the storage empty, and the
locations are relative paths in normal form. -/
theorem storages_agree {t : FileTree} (hvacant : ∀ k ∈ t.entries.keys, ¬t.current <+: k)
    {calls : List Call} (hcalls : ∀ c ∈ calls, IsPlain c.location) (n : Nat) :
    (∀ l r, (answered answer ⟨t, .ofList []⟩ calls)[n]? = some (.erase l, r) →
      r = .erased (.ok ()) (.ok ())) ∧
    (reached answer ⟨t, .ofList []⟩ (calls.take n)).Agrees := by
  have hfaithful : (reached answer ⟨t, .ofList []⟩ (calls.take n)).Faithful :=
    reached_induction (faithful_of_vacant hvacant) fun s c hc h =>
      h.answer (hcalls c (List.mem_of_mem_take hc))
  refine ⟨fun l r hreply => ?_, hfaithful.agrees⟩
  rw [getElem?_answered] at hreply
  obtain ⟨c, hc, hanswer⟩ := Option.map_eq_some_iff.1 hreply
  rw [Prod.mk.injEq] at hanswer
  obtain ⟨rfl, rfl⟩ := hanswer
  exact (hfaithful.erase (hcalls _ (List.mem_of_getElem? hc))).1

/-- Names that start alike, a file written in the place of a directory and one below a file, which
both fail, and a deletion that leaves a directory without files. -/
theorem storages_agree_nested :
    let t : FileTree := ⟨["home"], .empty⟩
    let calls : List Call := [.write "a/b/c" [] true, .write "a/bc" [] false, .write "a/b" [] true,
      .write "a/bc/d" [] true, .erase "a/b/c", .contains "a/b", .erase "x/y"]
    (∀ k ∈ t.entries.keys, ¬t.current <+: k) ∧ (∀ c ∈ calls, IsPlain c.location) ∧
      (reached answer ⟨t, .ofList []⟩ calls).memory.locations = ["a/bc"] ∧
      (∀ l r, (answered answer ⟨t, .ofList []⟩ calls)[4]? = some (.erase l, r) →
        r = .erased (.ok ()) (.ok ())) ∧
      (reached answer ⟨t, .ofList []⟩ (calls.take 4)).Agrees :=
  ⟨by decide, by decide, by decide, storages_agree (by decide) (by decide) 4⟩

end Mirror

end StageChain
