import Mathlib.Data.List.Infix
import StageChain.Proofs.Tree

/-!
# Deleting in file trees with links

A file tree may hold links, to files, to directories or to nothing. Deleting a path takes out what is
at its place and below it and nothing else: a link goes as a link, and what it leads to stays. A
directory that holds something is only deleted with what it holds.

* `FileTree.Open`: names on whose way there are directories, or nothing; `itself?_of_open`.
* `erase_eq`: **the three questions that deleting asks** come to one, what stands at a path itself.
* `Removes`: what stands at names and below them is gone, and nothing else.
* `hasBelow_iff`: when a directory holds something.
* `erase_of_open`, `erase_of_occupied`: what is deleted on an open way, and what is refused.
* `erase_of_plain`: deleting keeps a tree plain.
* `Deletes`: **what deleting a location comes to**, with what is below it or without; `erase_deletes`:
  a relative path in normal form is deleted so.
* `erase_here`: what has no names is emptied, and refused.
-/

namespace StageChain

namespace FileTree

open StageChain.Path

variable {t t' : FileTree} {names ms place k : List String} {name location : String}

/-! ## Following names -/

/-- **Names with an open way**: above their place stand directories, or nothing. -/
def Open (t : FileTree) (names : List String) : Prop :=
  ∀ ms ∈ names.inits, ms ≠ names → t.inside? ms = some .directory ∨ t.inside? ms = none

instance (t : FileTree) (names : List String) : Decidable (t.Open names) := by
  unfold Open; infer_instance

/-- On an open way a path names what stands at its names, and a link is not followed. -/
theorem itself?_of_open (h : t.Rooted) (hway : t.Open names) (hup : ".." ∉ names) :
    t.itself? ⟨"", names⟩ = (t.inside? names).map fun e => (t.current ++ names, e) := by
  by_cases hleads : t.Leads [] names
  · rw [itself?, locate_of_leads false hup hleads (.inl rfl)]
    rfl
  · -- something is missing on the way, so nothing is at its end, and no link is in between
    have hnone : t.inside? names = none := by
      by_contra hsome
      exact hleads fun ms hpre hne _ => h.directory_above hsome hpre hne
    have hlinks : ∀ ms target, ms <+: names → t.inside? ms ≠ some (.link target) := by
      intro ms target hpre hlink
      by_cases heq : ms = names
      · rw [heq, hnone] at hlink
        cases hlink
      · rcases hway ms ((List.mem_inits _ _).2 hpre) heq with hdirectory | hmissing
        · rw [hdirectory] at hlink
          cases hlink
        · rw [hmissing] at hlink
          cases hlink
    obtain ⟨e, herror, -⟩ := locate_of_not_leads false hup hleads hlinks
    rw [itself?, herror, hnone]
    rfl

/-! ## Links at the end of a path -/

/-- Whether the last name is followed matters only if it names a link. -/
theorem descend_last (t : FileTree) (here names : List String) :
    t.descend true here names = t.descend false here names ∨
      ∃ place target, t.descend false here names = .arrived place ∧
        t.get? place = some (.link target) := by
  induction names generalizing here with
  | nil => exact .inl rfl
  | cons name rest ih =>
    by_cases hup : name = ".."
    · simp only [descend, if_pos hup]
      exact ih _
    · simp only [descend, if_neg hup]
      cases hentry : t.get? (here ++ [name]) with
      | none => exact .inl rfl
      | some e =>
        cases e with
        | file content => exact .inl rfl
        | directory => exact ih _
        | link target =>
          cases rest with
          | nil => exact .inr ⟨_, target, rfl, hentry⟩
          | cons next rest => exact .inl rfl

theorem follow_last (t : FileTree) (links : ℕ) (here names : List String) :
    t.follow true links here names = t.follow false links here names ∨
      ∃ place target, t.follow false links here names = .ok place ∧
        t.get? place = some (.link target) := by
  induction links generalizing here names with
  | zero => exact .inl rfl
  | succ links ih =>
    simp only [follow]
    rcases t.descend_last here names with heq | ⟨place, target, harrived, hlink⟩
    · rw [heq]
      cases t.descend false here names with
      | arrived place => exact .inl rfl
      | refused e => exact .inl rfl
      | atLink directory target rest => exact ih _ _
    · rw [harrived]
      exact .inr ⟨place, target, rfl, hlink⟩

/-- A path that is no link itself names one thing, whether links are followed at its end or not. -/
theorem locate_of_not_link {p : Path} (h : t.isLink p = false) :
    t.locate true p = t.locate false p := by
  rcases t.follow_last (linkLimit + 1) (if p.isAbsolute then [] else t.current) p.parts with
    heq | ⟨place, target, hplace, hlink⟩
  · exact heq
  · have hitself : t.itself? p = some (place, .link target) := by
      rw [itself?, show t.locate false p = .ok place from hplace]
      simp only [hlink, Option.map_some]
    rw [isLink, hitself] at h
    cases h

theorem target?_of_not_link {p : Path} (h : t.isLink p = false) :
    t.target? p = (t.itself? p).map Prod.snd := by
  rw [target?, itself?, locate_of_not_link h]
  cases t.locate false p with
  | error e => rfl
  | ok place => cases hentry : t.get? place <;> simp [hentry]

theorem locate_of_itself? {p : Path} {e : Entry} (h : t.itself? p = some (place, e)) :
    t.locate false p = .ok place := by
  rw [itself?] at h
  split at h
  · next place' heq =>
    obtain ⟨e', -, hplace⟩ := Option.map_eq_some_iff.1 h
    rw [heq, (Prod.mk.inj hplace).1]
  · cases h

/-- **Deleting asks three questions**, whether a path names a directory, whether it is a link, and
whether it names anything. They come to what stands at the path itself. -/
theorem erase_eq (t : FileTree) (p : Path) (recursive : Bool) :
    t.erase p recursive = match t.itself? p with
      | none => (.ok (), t)
      | some (place, .directory) => t.eraseDirectory p place recursive
      | some (place, _) => t.eraseEntry place := by
  rw [erase]
  cases hlink : t.isLink p with
  | true =>
    rw [isLink] at hlink
    split at hlink
    · next place target heq => simp [heq, locate_of_itself? heq]
    · cases hlink
  | false =>
    have htarget := target?_of_not_link hlink
    rw [isDirectory, contains, htarget]
    cases hitself : t.itself? p with
    | none => simp
    | some found =>
      obtain ⟨place, e⟩ := found
      cases e with
      | link target => simp [isLink, hitself] at hlink
      | file content => simp [locate_of_itself? hitself]
      | directory => simp [locate_of_itself? hitself]

theorem erase_missing {p : Path} (h : t.itself? p = none) (recursive : Bool) :
    t.erase p recursive = (.ok (), t) := by
  rw [erase_eq, h]

theorem erase_directory {p : Path} (h : t.itself? p = some (place, .directory)) (recursive : Bool) :
    t.erase p recursive = t.eraseDirectory p place recursive := by
  rw [erase_eq, h]

/-! ## Taking entries out -/

/-- **What stands at names and below them is gone**, and nothing else. -/
structure Removes (t : FileTree) (names : List String) (t' : FileTree) : Prop where
  current : t'.current = t.current
  entries : ∀ k, t'.entries.get? k = if t.current ++ names <+: k then none else t.entries.get? k

namespace Removes

variable (hremoves : t.Removes names t') (hne : names ≠ [])

include hremoves hne

theorem get? (place : List String) :
    t'.get? place = if t.current ++ names <+: place then none else t.get? place := by
  simp only [FileTree.get?, hremoves.current, hremoves.entries, List.isPrefixOf_iff_prefix]
  by_cases habove : place <+: t.current
  · have hnot : ¬t.current ++ names <+: place := fun hpre => by
      have := not_isPrefixOf_current (t := t) hne
      rw [← Bool.not_eq_true, List.isPrefixOf_iff_prefix] at this
      exact this (hpre.trans habove)
    rw [if_pos habove, if_pos habove, if_neg hnot]
  · rw [if_neg habove, if_neg habove]

theorem inside? (ms : List String) :
    t'.inside? ms = if names <+: ms then none else t.inside? ms := by
  rw [FileTree.inside?, hremoves.current, hremoves.get? hne]
  simp only [List.prefix_append_right_inj]
  rfl

/-- What is still there was there before, and not at the names or below them. -/
theorem kept (hsome : t'.inside? ms ≠ none) : ¬names <+: ms ∧ t'.inside? ms = t.inside? ms := by
  rw [hremoves.inside? hne] at hsome ⊢
  split at hsome
  · exact absurd rfl hsome
  · next hms => exact ⟨hms, if_neg hms⟩

theorem rooted (h : t.Rooted) : t'.Rooted := by
  intro ms name hsome
  obtain ⟨hnot, heq⟩ := hremoves.kept hne hsome
  rw [hremoves.inside? hne, if_neg fun hpre => hnot (hpre.trans (List.prefix_append ms [name]))]
  exact h ms name (heq ▸ hsome)

theorem plain (h : t.Plain) : t'.Plain := by
  refine ⟨?_, fun ms target hlink => ?_, hremoves.rooted hne h.rooted, fun ms hsome => ?_⟩
  · rw [hremoves.current, hremoves.entries, h.root, ite_self]
  · obtain ⟨-, heq⟩ := hremoves.kept hne (by rw [hlink]; simp)
    exact h.unlinked ms target (heq ▸ hlink)
  · obtain ⟨-, heq⟩ := hremoves.kept hne hsome
    exact h.named ms (heq ▸ hsome)

end Removes

theorem removes_removeBelow (t : FileTree) (names : List String) :
    t.Removes names (t.removeBelow (t.current ++ names)) := by
  refine ⟨rfl, fun k => ?_⟩
  rw [removeBelow, Table.get?_filterKeys]
  by_cases hpre : t.current ++ names <+: k
  · rw [if_pos hpre, List.isPrefixOf_iff_prefix.2 hpre]
    rfl
  · have hnot : (t.current ++ names).isPrefixOf k = false := by
      rw [← Bool.not_eq_true, List.isPrefixOf_iff_prefix]
      exact hpre
    rw [if_neg hpre, hnot]
    rfl

/-- Of what is no directory one entry goes, and there is nothing below it. -/
theorem removes_erase (h : t.Rooted) (hne : names ≠ []) (hother : t.inside? names ≠ some .directory) :
    t.Removes names { t with entries := t.entries.erase (t.current ++ names) } := by
  refine ⟨rfl, fun k => ?_⟩
  simp only [Table.erase, Table.get?_filterKeys]
  by_cases heq : k = t.current ++ names
  · simp [heq]
  · by_cases hpre : t.current ++ names <+: k
    · obtain ⟨rest, rfl⟩ := hpre
      have hbelow : t.inside? (names ++ rest) = none :=
        h.inside?_below hother (List.prefix_append _ _) (by simpa using heq)
      rw [inside?_of_ne_nil (by simp [hne])] at hbelow
      simp [hbelow]
    · simp [heq, hpre]

/-- Where nothing stands, nothing is to go. -/
theorem removes_of_missing (h : t.Rooted) (hne : names ≠ []) (hnone : t.inside? names = none) :
    t.Removes names t := by
  have herase := removes_erase h hne (by rw [hnone]; simp)
  refine ⟨rfl, fun k => ?_⟩
  rw [← herase.entries k]
  simp only [Table.erase, Table.get?_filterKeys]
  by_cases heq : k = t.current ++ names
  · rw [inside?_of_ne_nil hne] at hnone
    simp [heq, hnone]
  · simp [heq]

/-- A directory below the current one holds something exactly if there is an entry in it. -/
theorem hasBelow_iff (h : t.Rooted) (hne : names ≠ []) :
    t.hasBelow (t.current ++ names) = true ↔ ∃ name, t.inside? (names ++ [name]) ≠ none := by
  have hkey (rest : List String) :
      t.current ++ names ++ rest ∈ t.entries.keys ↔ t.inside? (names ++ rest) ≠ none := by
    rw [inside?_of_ne_nil (by simp [hne]), ← List.append_assoc, Table.mem_keys_iff]
  rw [hasBelow, List.any_eq_true]
  constructor
  · rintro ⟨k, hmem, hbelow⟩
    obtain ⟨⟨rest, rfl⟩, hother⟩ : t.current ++ names <+: k ∧ k ≠ t.current ++ names := by
      simpa [List.isPrefixOf_iff_prefix] using hbelow
    obtain ⟨name, rest, rfl⟩ := List.exists_cons_of_ne_nil (show rest ≠ [] by simpa using hother)
    refine ⟨name, ?_⟩
    by_cases hrest : rest = []
    · exact (hkey [name]).1 (hrest ▸ hmem)
    · rw [h.directory_above ((hkey _).1 hmem) (by simp) (by simpa using Ne.symm hrest)]
      simp
  · rintro ⟨name, hsome⟩
    exact ⟨_, (hkey [name]).2 hsome, by simp [List.isPrefixOf_iff_prefix]⟩

theorem hasBelow_removeBelow (place : List String) :
    (t.removeBelow place).hasBelow place = false := by
  rw [hasBelow, List.any_eq_false]
  intro k hk
  obtain ⟨e, he, rfl⟩ := List.mem_map.1 hk
  have hkept := (List.mem_filter.1 he).2
  rw [Bool.not_eq_true'] at hkept
  simp [hkept]

/-! ## Deleting directories -/

theorem heldBy?_of_names (hne : names ≠ []) (hup : ".." ∉ names) :
    t.heldBy? ⟨"", names⟩ = none := by
  have hlast : names.getLast? ≠ some ".." := fun hlast => hup (List.mem_of_getLast? hlast)
  simp [heldBy?, hne, hlast]

/-- A directory below the current one is deleted with all that is below it. -/
theorem eraseDirectory_of_names (hne : names ≠ []) (hup : ".." ∉ names) :
    t.eraseDirectory ⟨"", names⟩ (t.current ++ names) true
      = (.ok (), t.removeBelow (t.current ++ names)) := by
  simp only [eraseDirectory, if_true, heldBy?_of_names hne hup, hasBelow_removeBelow,
    not_isPrefixOf_current hne, Bool.false_eq_true, if_false]

/-- Without what is below it, a directory below the current one is deleted if it holds nothing. -/
theorem eraseDirectory_alone (hne : names ≠ []) (hup : ".." ∉ names) :
    t.eraseDirectory ⟨"", names⟩ (t.current ++ names) false
      = if t.hasBelow (t.current ++ names) = true then
          (.error (.refused .directoryNotEmpty (Path.text ⟨"", names⟩)), t)
        else (.ok (), t.removeBelow (t.current ++ names)) := by
  simp only [eraseDirectory, Bool.false_eq_true, if_false, heldBy?_of_names hne hup,
    not_isPrefixOf_current hne]

/-! ## Deleting what stands at names -/

/-- A directory that holds something. -/
def Occupied (t : FileTree) (names : List String) : Prop :=
  t.inside? names = some .directory ∧ ∃ name, t.inside? (names ++ [name]) ≠ none

section

variable (h : t.Rooted) (hway : t.Open names) (hne : names ≠ []) (hup : ".." ∉ names)

include h hway hne hup

/-- On an open way everything is deleted with what is below it, and without that everything but a
directory that holds something. -/
theorem erase_of_open {recursive : Bool} (hfree : recursive = true ∨ ¬t.Occupied names) :
    ∃ t', t.erase ⟨"", names⟩ recursive = (.ok (), t') ∧ t.Removes names t' := by
  have hitself := itself?_of_open h hway hup
  cases hentry : t.inside? names with
  | none =>
    rw [hentry] at hitself
    exact ⟨t, erase_missing hitself recursive, removes_of_missing h hne hentry⟩
  | some e =>
    rw [hentry, Option.map_some] at hitself
    cases e with
    | file content =>
      exact ⟨_, by rw [erase_eq, hitself]; rfl, removes_erase h hne (by rw [hentry]; simp)⟩
    | link target =>
      exact ⟨_, by rw [erase_eq, hitself]; rfl, removes_erase h hne (by rw [hentry]; simp)⟩
    | directory =>
      refine ⟨_, ?_, t.removes_removeBelow names⟩
      rw [erase_directory hitself]
      cases recursive with
      | true => exact eraseDirectory_of_names hne hup
      | false =>
        -- nothing is below it, or it would be occupied
        have hempty : ¬t.hasBelow (t.current ++ names) = true := fun hbelow =>
          hfree.elim (by simp) fun hfree => hfree ⟨hentry, (hasBelow_iff h hne).1 hbelow⟩
        rw [eraseDirectory_alone hne hup, if_neg hempty]

/-- A directory that holds something is not deleted without it. -/
theorem erase_of_occupied (hoccupied : t.Occupied names) : t.erase ⟨"", names⟩ false
    = (.error (.refused .directoryNotEmpty (Path.text ⟨"", names⟩)), t) := by
  obtain ⟨hdirectory, hholds⟩ := hoccupied
  have hitself := itself?_of_open h hway hup
  rw [hdirectory, Option.map_some] at hitself
  rw [erase_directory hitself, eraseDirectory_alone hne hup, if_pos ((hasBelow_iff h hne).2 hholds)]

end

/-- **Deleting in a plain tree** takes out what is at and below a place and nothing else, and keeps
the tree plain. -/
theorem erase_of_plain (h : t.Plain) (hne : names ≠ []) (hnames : ∀ n ∈ names, IsName n) :
    ∃ t', t.erase ⟨"", names⟩ true = (.ok (), t') ∧ t'.Plain ∧
      ∀ ms, t'.inside? ms = if names <+: ms then none else t.inside? ms := by
  by_cases hway : t.Open names
  · obtain ⟨t', hok, hremoves⟩ := erase_of_open h.rooted hway hne (not_mem_stepUp hnames)
      (.inl (Eq.refl true))
    exact ⟨t', hok, hremoves.plain hne h, hremoves.inside? hne⟩
  · -- a file is in the way, so nothing stands at the names
    have hnone : t.inside? names = none := by
      by_contra hsome
      exact hway fun ms hpre hother =>
        .inl (h.rooted.directory_above hsome ((List.mem_inits _ _).1 hpre) hother)
    have hitself := itself?_of_plain h hnames
    rw [hnone] at hitself
    have hremoves := removes_of_missing h.rooted hne hnone
    exact ⟨t, erase_missing hitself true, h, hremoves.inside? hne⟩

/-- **What deleting comes to** for a location whose place the names say. -/
structure Deletes (t : FileTree) (location : String) (names : List String) : Prop where
  /-- With what is below it, everything at the place and below it goes, and nothing else does. -/
  below : ∃ t', Storage.erase t location true = (.ok (), t') ∧ t'.current = t.current ∧ t'.Rooted ∧
    ∀ place, t'.get? place = if t.current ++ names <+: place then none else t.get? place
  /-- Where nothing stands, nothing happens. -/
  missing : t.inside? names = none → ∀ recursive, Storage.erase t location recursive = (.ok (), t)
  /-- Without what is below it, a directory that holds something is refused, and nothing else is. -/
  refused_iff : (∃ f t', Storage.erase t location false = (.error f, t')) ↔
    t.inside? names = some .directory ∧ ∃ name, t.inside? (names ++ [name]) ≠ none
  /-- What is refused is left as it is. -/
  refused : ∀ f t', Storage.erase t location false = (.error f, t') → t' = t
  /-- What is not refused goes, and nothing else does. -/
  alone : ∀ t', Storage.erase t location false = (.ok (), t') → t'.current = t.current ∧
    ∀ place, t'.get? place = if t.current ++ names <+: place then none else t.get? place

/-- **A relative path in normal form is deleted** so in a rooted tree, whatever its links lead to, if
the way to it is open. -/
theorem erase_deletes (h : t.Rooted) (hl : IsPlain location) (hway : t.Open (partsOf location)) :
    t.Deletes location (partsOf location) := by
  obtain ⟨names, hne, hnames, rfl⟩ := isPlain_iff.1 hl
  have hpath := ofString_intercalate hne hnames
  have hparts : partsOf ("/".intercalate names) = names := congrArg Path.parts hpath
  rw [hparts] at hway ⊢
  have hup := not_mem_stepUp hnames
  have herase (recursive : Bool) : Storage.erase t ("/".intercalate names) recursive
      = t.erase ⟨"", names⟩ recursive := by
    rw [← hpath]
    rfl
  have hoccupied := erase_of_occupied h hway hne hup
  have hfree (ho : ¬t.Occupied names) :
      ∃ t', t.erase ⟨"", names⟩ false = (.ok (), t') ∧ t.Removes names t' :=
    erase_of_open h hway hne hup (.inr ho)
  constructor
  case below =>
    obtain ⟨t', hok, hremoves⟩ := erase_of_open h hway hne hup (.inl (Eq.refl true))
    exact ⟨t', (herase true).trans hok, hremoves.current, hremoves.rooted hne h, hremoves.get? hne⟩
  case missing =>
    intro hnone recursive
    rw [herase]
    refine erase_missing ?_ recursive
    rw [itself?_of_open h hway hup, hnone]
    rfl
  all_goals simp only [herase false]
  case refused_iff =>
    refine ⟨fun ⟨f, t', hrefused⟩ => ?_, fun ho => ⟨_, _, hoccupied ho⟩⟩
    by_contra ho
    obtain ⟨t'', hok, -⟩ := hfree ho
    rw [hok] at hrefused
    cases hrefused
  case refused =>
    intro f t' hrefused
    by_cases ho : t.Occupied names
    · rw [hoccupied ho] at hrefused
      exact (Prod.mk.inj hrefused).2.symm
    · obtain ⟨t'', hok, -⟩ := hfree ho
      rw [hok] at hrefused
      cases hrefused
  case alone =>
    intro t' hok
    by_cases ho : t.Occupied names
    · rw [hoccupied ho] at hok
      cases hok
    · obtain ⟨t'', hok', hremoves⟩ := hfree ho
      rw [hok'] at hok
      obtain rfl := (Prod.mk.inj hok).2
      exact ⟨hremoves.current, hremoves.get? hne⟩

/-- A directory with a file, a link to a directory elsewhere and a link to nothing: the links go, and
what is behind the first one stays. -/
theorem erase_deletes_links :
    let t : FileTree := ⟨["work"], .ofList [(["work", "d"], .directory),
      (["work", "d", "f"], .file []), (["work", "d", "out"], .link "/data"),
      (["work", "d", "gone"], .link "nowhere"), (["data"], .directory), (["data", "kept"], .file [])]⟩
    t.Rooted ∧ IsPlain "d" ∧ t.Open (partsOf "d") ∧ t.Deletes "d" (partsOf "d") ∧
      t.isDirectory (Path.ofString "d/out") = true ∧
      ((Storage.erase t "d" true).2.get? ["data", "kept"]).isSome ∧
      t.Open (partsOf "d/out") ∧ t.Deletes "d/out" (partsOf "d/out") :=
  ⟨by decide, by decide, by decide, erase_deletes (by decide) (by decide) (by decide), by decide,
    by decide, by decide, erase_deletes (by decide) (by decide) (by decide)⟩

/-- **What has no names is not deleted.** With what is below it, the current directory is emptied
first, and without that nothing goes. -/
theorem erase_here (t : FileTree) (recursive : Bool) :
    t.erase ⟨"", []⟩ recursive = (.error (.refused .invalidArgument "."),
      if recursive = true then t.removeBelow t.current else t) := by
  have hitself : t.itself? ⟨"", []⟩ = some (t.current, .directory) := by
    simp [itself?, locate, isAbsolute, follow, descend, FileTree.get?]
  rw [erase_directory hitself]
  cases recursive <;> simp [eraseDirectory, heldBy?, Path.text]

end FileTree

end StageChain
