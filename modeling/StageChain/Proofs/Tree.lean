import StageChain.Proofs.Configuration
import StageChain.Proofs.Names

/-!
# Plain file trees

Below the current directory of a plain tree there are directories and files and no links, and each
entry stands in a directory. There a relative path in normal form leads to the place that its names
say, or it cannot be followed and nothing stands there.

* `FileTree.inside?`: what stands at names below the current directory.
* `FileTree.Leads`: **names lead to their place**; `locate_of_leads`, `locate_of_not_leads`.
* `FileTree.Rooted`: **trees in which each entry stands in a directory.**
* `FileTree.Plain`: **plain trees**; `target?_of_plain`: in them a path names what stands at its
  names.
* `mem_listing_iff`: which files are listed.
-/

namespace StageChain

namespace FileTree

open StageChain.Path

variable {t : FileTree} {names ms here : List String} {name : String} {e : Entry}

/-! ## Places below the current directory -/

/-- What stands at names below the current directory. -/
def inside? (t : FileTree) (names : List String) : Option Entry := t.get? (t.current ++ names)

theorem not_isPrefixOf_current (h : names ≠ []) :
    (t.current ++ names).isPrefixOf t.current = false := by
  rw [← Bool.not_eq_true, List.isPrefixOf_iff_prefix]
  intro hpre
  have hlength := hpre.length_le
  rw [List.length_append] at hlength
  have := List.length_pos_iff.2 h
  omega

@[simp] theorem inside?_nil (t : FileTree) : t.inside? [] = some .directory := by
  rw [inside?, List.append_nil, get?, if_pos (List.isPrefixOf_iff_prefix.2 List.prefix_rfl)]

theorem inside?_of_ne_nil (h : names ≠ []) :
    t.inside? names = t.entries.get? (t.current ++ names) := by
  rw [inside?, get?, if_neg (by simp [not_isPrefixOf_current h])]

theorem inside?_put (hne : names ≠ []) (e : Entry) :
    (t.put (t.current ++ names) e).inside? ms = if ms = names then some e else t.inside? ms := by
  by_cases hms : ms = []
  · subst hms
    rw [inside?_nil, inside?_nil, if_neg (Ne.symm hne)]
  · have hcurrent : (t.put (t.current ++ names) e).current = t.current := rfl
    rw [inside?_of_ne_nil hms, inside?_of_ne_nil hms, hcurrent, put, Table.get?_insert]
    simp only [List.append_cancel_left_eq]

/-! ## Following names -/

/-- **Names lead to their place**: each but the last names a directory. -/
def Leads (t : FileTree) (here names : List String) : Prop :=
  ∀ ms, ms <+: names → ms ≠ names → ms ≠ [] → t.inside? (here ++ ms) = some .directory

theorem leads_cons_cons {next : String} {rest : List String} : t.Leads here (name :: next :: rest) ↔
    t.inside? (here ++ [name]) = some .directory ∧ t.Leads (here ++ [name]) (next :: rest) := by
  constructor
  · intro h
    refine ⟨h [name] (by simp) (by simp) (by simp), fun ms hpre hne _ => ?_⟩
    rw [List.append_assoc]
    exact h (name :: ms) (List.cons_prefix_cons.2 ⟨rfl, hpre⟩) (by simpa using hne) (by simp)
  · rintro ⟨hfirst, hrest⟩ ms hpre hne hms
    obtain ⟨m, ms, rfl⟩ := List.exists_cons_of_ne_nil hms
    obtain ⟨rfl, hms'⟩ := List.cons_prefix_cons.1 hpre
    by_cases hms : ms = []
    · subst hms
      exact hfirst
    · have := hrest ms hms' (by simpa using hne) hms
      rwa [List.append_assoc] at this

theorem descend_cons {followLast : Bool} {rest : List String} (hname : name ≠ "..") :
    t.descend followLast (t.current ++ here) (name :: rest)
      = match t.inside? (here ++ [name]) with
        | none =>
          if rest.isEmpty then .arrived (t.current ++ (here ++ [name])) else .refused .notFound
        | some .directory => t.descend followLast (t.current ++ (here ++ [name])) rest
        | some (.file _) =>
          if rest.isEmpty then .arrived (t.current ++ (here ++ [name])) else .refused .notDirectory
        | some (.link target) =>
          if rest.isEmpty && !followLast then .arrived (t.current ++ (here ++ [name]))
          else .atLink (t.current ++ here) target rest := by
  rw [inside?, ← List.append_assoc]
  exact if_neg hname

/-- Names that lead to their place are followed there, unless a link at the end is followed on. -/
theorem descend_of_leads (followLast : Bool) (here : List String) (hup : ".." ∉ names)
    (h : t.Leads here names)
    (hlast : followLast = false ∨ ∀ target, t.inside? (here ++ names) ≠ some (.link target)) :
    t.descend followLast (t.current ++ here) names = .arrived (t.current ++ (here ++ names)) := by
  induction names generalizing here with
  | nil => simp [descend]
  | cons name rest ih =>
    rw [List.mem_cons, not_or] at hup
    obtain ⟨hname, hup⟩ := hup
    rw [descend_cons (Ne.symm hname)]
    cases rest with
    | nil =>
      -- the last name may lead nowhere, or to a link that is not followed on
      cases hentry : t.inside? (here ++ [name]) with
      | none => rfl
      | some e =>
        cases e with
        | file content => rfl
        | directory => rfl
        | link target =>
          rcases hlast with rfl | hlast
          · rfl
          · exact absurd hentry (hlast target)
    | cons next rest =>
      obtain ⟨hfirst, hrest⟩ := leads_cons_cons.1 h
      have hplace : here ++ name :: next :: rest = here ++ [name] ++ next :: rest := by simp
      rw [hplace] at hlast ⊢
      rw [hfirst]
      exact ih _ hup hrest hlast

/-- Names that do not lead to their place, on a way without links, cannot be followed; if there is
no file on the way either, something is missing. -/
theorem descend_of_not_leads (followLast : Bool) (here : List String) (hup : ".." ∉ names)
    (h : ¬t.Leads here names)
    (hlinks : ∀ ms target, ms <+: names → t.inside? (here ++ ms) ≠ some (.link target)) :
    ∃ e, t.descend followLast (t.current ++ here) names = .refused e ∧
      ((∀ ms content, ms <+: names → t.inside? (here ++ ms) ≠ some (.file content)) →
        e = .notFound) := by
  induction names generalizing here with
  | nil =>
    refine absurd (fun ms hpre hne => ?_) h
    exact absurd (List.prefix_nil.1 hpre) hne
  | cons name rest ih =>
    rw [List.mem_cons, not_or] at hup
    obtain ⟨hname, hup⟩ := hup
    rw [descend_cons (Ne.symm hname)]
    cases rest with
    | nil =>
      refine absurd (fun ms hpre hne hms => ?_) h
      rcases List.prefix_concat_iff.1 (show ms <+: [] ++ [name] from hpre) with heq | hnil
      · exact absurd heq hne
      · exact absurd (List.prefix_nil.1 hnil) hms
    | cons next rest =>
      rw [leads_cons_cons, not_and] at h
      cases hentry : t.inside? (here ++ [name]) with
      | none => exact ⟨_, rfl, fun _ => rfl⟩
      | some e =>
        cases e with
        | file content =>
          exact ⟨_, rfl, fun hfiles => absurd hentry (hfiles [name] content (by simp))⟩
        | directory =>
          have hbelow {ms : List String} (hpre : ms <+: next :: rest) :
              name :: ms <+: name :: next :: rest := List.cons_prefix_cons.2 ⟨rfl, hpre⟩
          obtain ⟨e, he, hmissing⟩ := ih _ hup (h hentry) fun ms target hpre => by
            rw [List.append_assoc]
            exact hlinks (name :: ms) target (hbelow hpre)
          refine ⟨e, he, fun hfiles => hmissing fun ms content hpre => ?_⟩
          rw [List.append_assoc]
          exact hfiles (name :: ms) content (hbelow hpre)
        | link target => exact absurd hentry (hlinks [name] target (by simp))

/-- No file stands on the way to names or at them. -/
def Clear (t : FileTree) (names : List String) : Prop :=
  ∀ ms content, ms <+: names → t.inside? ms ≠ some (.file content)

theorem locate_of_leads (followLast : Bool) (hup : ".." ∉ names) (h : t.Leads [] names)
    (hlast : followLast = false ∨ ∀ target, t.inside? names ≠ some (.link target)) :
    t.locate followLast ⟨"", names⟩ = .ok (t.current ++ names) := by
  have := descend_of_leads followLast [] hup h hlast
  rw [List.append_nil] at this
  simp [locate, isAbsolute, follow, this]

theorem locate_of_not_leads (followLast : Bool) (hup : ".." ∉ names) (h : ¬t.Leads [] names)
    (hlinks : ∀ ms target, ms <+: names → t.inside? ms ≠ some (.link target)) :
    ∃ e, t.locate followLast ⟨"", names⟩ = .error e ∧ (t.Clear names → e = .notFound) := by
  obtain ⟨e, he, hmissing⟩ := descend_of_not_leads followLast [] hup h hlinks
  rw [List.append_nil] at he
  exact ⟨e, by simp [locate, isAbsolute, follow, he], hmissing⟩

/-! ## Rooted trees -/

/-- **A rooted tree**: below its current directory each entry stands in a directory. -/
def Rooted (t : FileTree) : Prop :=
  ∀ names name, t.inside? (names ++ [name]) ≠ none → t.inside? names = some .directory

/-- Above what is there stand directories. -/
theorem Rooted.directory_above (h : t.Rooted) (hsome : t.inside? names ≠ none) (hpre : ms <+: names)
    (hne : ms ≠ names) : t.inside? ms = some .directory := by
  obtain ⟨rest, rfl⟩ := hpre
  induction rest using List.reverseRecOn with
  | nil => simp at hne
  | append_singleton rest name ih =>
    rw [← List.append_assoc] at hsome
    have hparent := h _ _ hsome
    by_cases hrest : rest = []
    · rwa [hrest, List.append_nil] at hparent
    · exact ih (by rw [hparent]; simp) (by simpa using hrest)

/-- Below what is no directory stands nothing. -/
theorem Rooted.inside?_below (h : t.Rooted) (hentry : t.inside? names ≠ some .directory)
    (hpre : names <+: ms) (hne : names ≠ ms) : t.inside? ms = none := by
  by_contra hsome
  exact hentry (h.directory_above hsome hpre hne)

/-- A tree is rooted if the entries below its current directory stand in directories. -/
theorem rooted_iff : t.Rooted ↔
    ∀ k ∈ t.entries.keys, t.current <+: k → t.get? k.dropLast = some .directory := by
  have hkey (names : List String) (name : String) :
      t.current ++ (names ++ [name]) ∈ t.entries.keys ↔ t.inside? (names ++ [name]) ≠ none := by
    rw [inside?_of_ne_nil (by simp), Table.mem_keys_iff]
  constructor
  · rintro h _ hk ⟨names, rfl⟩
    induction names using List.reverseRecOn with
    | nil =>
      rw [List.append_nil, get?, if_pos (List.isPrefixOf_iff_prefix.2 (List.dropLast_prefix _))]
    | append_singleton names name _ =>
      rw [← List.append_assoc, List.dropLast_concat]
      exact h names name ((hkey names name).1 hk)
  · intro h names name hsome
    have hparent := h _ ((hkey names name).2 hsome) (List.prefix_append _ _)
    rwa [← List.append_assoc, List.dropLast_concat] at hparent

instance (t : FileTree) : Decidable t.Rooted := decidable_of_iff _ rooted_iff.symm

/-! ## Plain trees -/

/-- **A plain tree**: below its current directory there are no links, each entry stands in a
directory and has a name that a path can say, and the current directory has no entry itself. -/
structure Plain (t : FileTree) : Prop where
  root : t.entries.get? t.current = none
  unlinked : ∀ names target, t.inside? names ≠ some (.link target)
  parent : ∀ names name, t.inside? (names ++ [name]) ≠ none → t.inside? names = some .directory
  named : ∀ names, t.inside? names ≠ none → ∀ n ∈ names, IsName n

theorem inside?_of_vacant (h : ∀ k ∈ t.entries.keys, ¬t.current <+: k) (hne : names ≠ []) :
    t.inside? names = none := by
  rw [inside?_of_ne_nil hne]
  exact Table.get?_eq_none fun hk => h _ hk (List.prefix_append _ _)

/-- **A tree is plain if its current directory is vacant**: nothing stands at it or below it. -/
theorem plain_of_vacant (h : ∀ k ∈ t.entries.keys, ¬t.current <+: k) : t.Plain := by
  have hempty {names : List String} (hsome : t.inside? names ≠ none) : names = [] := by
    by_contra hne
    exact hsome (inside?_of_vacant h hne)
  refine ⟨Table.get?_eq_none fun hk => h _ hk List.prefix_rfl, ?_, ?_, ?_⟩
  · intro names target hlink
    obtain rfl := hempty (by rw [hlink]; simp)
    simp at hlink
  · intro names name hsome
    exact absurd (hempty hsome) (by simp)
  · intro names hsome
    obtain rfl := hempty hsome
    simp

theorem not_mem_stepUp (h : ∀ n ∈ names, IsName n) : ".." ∉ names :=
  fun hup => (h ".." hup).ne_stepUp rfl

namespace Plain

theorem rooted (h : t.Plain) : t.Rooted := h.parent

theorem leads (h : t.Plain) (hsome : t.inside? names ≠ none) : t.Leads [] names :=
  fun _ hpre hne _ => h.rooted.directory_above hsome hpre hne

/-- What stands there and is no file is a directory. -/
theorem directory_of_no_file (h : t.Plain) (hsome : t.inside? names ≠ none)
    (hfile : ∀ content, t.inside? names ≠ some (.file content)) :
    t.inside? names = some .directory := by
  cases hentry : t.inside? names with
  | none => exact absurd hentry hsome
  | some e =>
    cases e with
    | file content => exact absurd hentry (hfile content)
    | directory => rfl
    | link target => exact absurd hentry (h.unlinked names target)

/-- No file stands on the way to a directory. -/
theorem clear_of_directory (h : t.Plain) (hdirectory : t.inside? names = some .directory) :
    t.Clear names := by
  intro ms content hpre hfile
  by_cases hms : ms = names
  · rw [hms, hdirectory] at hfile
    cases hfile
  · rw [h.rooted.directory_above (by rw [hdirectory]; simp) hpre hms] at hfile
    cases hfile

end Plain

/-- **In a plain tree a path is followed** to the place of its names, or nothing stands there. -/
theorem locate_of_plain (h : t.Plain) (hnames : ∀ n ∈ names, IsName n) (followLast : Bool) :
    (t.Leads [] names ∧ t.locate followLast ⟨"", names⟩ = .ok (t.current ++ names)) ∨
    (t.inside? names = none ∧ ∃ e, t.locate followLast ⟨"", names⟩ = .error e ∧
      (t.Clear names → e = .notFound)) := by
  have hup := not_mem_stepUp hnames
  by_cases hleads : t.Leads [] names
  · exact .inl ⟨hleads, locate_of_leads _ hup hleads (.inr (h.unlinked names))⟩
  · refine .inr ⟨?_, locate_of_not_leads _ hup hleads fun ms target _ => h.unlinked ms target⟩
    by_contra hsome
    exact hleads (h.leads hsome)

/-- In a plain tree a path names what stands at its names. -/
theorem target?_of_plain (h : t.Plain) (hnames : ∀ n ∈ names, IsName n) :
    t.target? ⟨"", names⟩ = t.inside? names := by
  rcases locate_of_plain h hnames true with ⟨-, hok⟩ | ⟨hnone, e, herror, -⟩
  · rw [target?, hok]
    rfl
  · rw [target?, herror, hnone]

theorem itself?_of_plain (h : t.Plain) (hnames : ∀ n ∈ names, IsName n) :
    t.itself? ⟨"", names⟩ = (t.inside? names).map fun e => (t.current ++ names, e) := by
  rcases locate_of_plain h hnames false with ⟨-, hok⟩ | ⟨hnone, e, herror, -⟩
  · rw [itself?, hok]
    rfl
  · rw [itself?, herror, hnone]
    rfl

/-! ## What is listed -/

/-- **The files that are listed** are those that stand below the current directory, each by the text
of its names. -/
theorem mem_listing_iff (h : t.Plain) {location : String} {content : Text.Bytes} :
    (location, .file content) ∈ t.listing ↔
      ∃ names, location = "/".intercalate names ∧ t.inside? names = some (.file content) := by
  have hfile {names : List String} (hne : names ≠ []) :
      (t.current ++ names, Entry.file content) ∈ t.entries.entries ↔
        t.inside? names = some (.file content) := by
    rw [Table.mem_entries_iff, inside?_of_ne_nil hne]
  simp only [listing, List.mem_mergeSort, List.mem_filterMap, Option.map_eq_some_iff, Prod.mk.injEq]
  constructor
  · rintro ⟨⟨place, e⟩, hmem, text, hlisted, rfl, rfl⟩
    rw [listed?] at hlisted
    split at hlisted
    · next hpre =>
      obtain ⟨names, rfl⟩ := List.isPrefixOf_iff_prefix.1 hpre
      have hne : names ≠ [] := by
        rintro rfl
        rw [List.append_nil, Table.mem_entries_iff, h.root] at hmem
        cases hmem
      rw [List.drop_left, Option.some.injEq] at hlisted
      exact ⟨names, hlisted.symm, (hfile hne).1 hmem⟩
    · cases hlisted
  · rintro ⟨names, rfl, hinside⟩
    have hne : names ≠ [] := by
      rintro rfl
      simp at hinside
    refine ⟨(t.current ++ names, .file content), (hfile hne).2 hinside, _, ?_, rfl, rfl⟩
    simp [listed?]

end FileTree

end StageChain
