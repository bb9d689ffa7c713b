import StageChain.Proofs.Tree

/-!
# Writing in plain file trees

A file is written in a directory that is there, or its directories are made first. Whatever comes of
it, the tree stays plain. Directories are only ever added, those that were made stay if a later step
fails, and a file is put at its place or no file anywhere.

* `Grows`: **a tree with more directories**; `makeDirectories_grows`.
* `makeDirectories_ok`: directories can be made where no file is in the way.
* `store_cases`: **a file is put at its place or no file anywhere.**
* `store_ok_iff`: **when a file can be written.**
-/

namespace StageChain

namespace FileTree

open StageChain.Path

variable {t t' : FileTree} {names ms : List String} {name : String} {e : Entry}

/-! ## Making directories -/

/-- **A tree with more directories** on the way to names than another one, and otherwise like it. -/
structure Grows (t : FileTree) (names : List String) (t' : FileTree) : Prop where
  plain : t'.Plain
  inside : ∀ ms, t'.inside? ms = t.inside? ms ∨
    ms <+: names ∧ t.inside? ms = none ∧ t'.inside? ms = some .directory

theorem Grows.refl (h : t.Plain) : t.Grows names t := ⟨h, fun _ => .inl rfl⟩

theorem Grows.mono {init : List String} (h : t.Grows init t') (hpre : init <+: names) :
    t.Grows names t' :=
  ⟨h.plain, fun ms => (h.inside ms).imp_right fun ⟨hms, hmade⟩ => ⟨hms.trans hpre, hmade⟩⟩

theorem Grows.trans {t'' : FileTree} (h : t.Grows names t') (h' : t'.Grows names t'') :
    t.Grows names t'' := by
  refine ⟨h'.plain, fun ms => ?_⟩
  rcases h'.inside ms with heq | ⟨hms, hnone, hdirectory⟩
  · rw [heq]
    exact h.inside ms
  · rcases h.inside ms with heq | ⟨-, -, hsome⟩
    · exact .inr ⟨hms, by rw [← heq, hnone], hdirectory⟩
    · rw [hsome] at hnone
      cases hnone

theorem Grows.file_iff (h : t.Grows names t') {content : Text.Bytes} :
    t'.inside? ms = some (.file content) ↔ t.inside? ms = some (.file content) := by
  rcases h.inside ms with heq | ⟨-, hnone, hdirectory⟩
  · rw [heq]
  · rw [hnone, hdirectory]
    simp

theorem Grows.clear {init : List String} (h : t.Grows init t') (hclear : t.Clear names) :
    t'.Clear names :=
  fun ms content hpre hfile => hclear ms content hpre (h.file_iff.1 hfile)

theorem proper_prefix_concat {init : List String} (hpre : ms <+: init ++ [name])
    (hne : ms ≠ init ++ [name]) : ms <+: init :=
  (List.prefix_concat_iff.1 hpre).resolve_left hne

theorem Plain.leads_concat_iff (h : t.Plain) {init : List String} :
    t.Leads [] (init ++ [name]) ↔ t.inside? init = some .directory := by
  constructor
  · intro hleads
    by_cases hinit : init = []
    · rw [hinit, inside?_nil]
    · exact hleads init (List.prefix_append init [name]) (by simp) hinit
  · intro hinit ms hpre hne _
    by_cases hms : ms = init
    · rwa [hms]
    · exact h.rooted.directory_above (by rw [hinit]; simp) (proper_prefix_concat hpre hne) hms

/-- An entry that is no link, put in a directory and not in the place of one, keeps a tree plain. -/
theorem Plain.put (h : t.Plain) (hne : names ≠ []) (hnames : ∀ n ∈ names, IsName n)
    (hleads : t.Leads [] names) (hplace : t.inside? names ≠ some .directory)
    (hlink : ∀ target, e ≠ .link target) : (t.put (t.current ++ names) e).Plain := by
  have hinside (ms : List String) : (t.put (t.current ++ names) e).inside? ms
      = if ms = names then some e else t.inside? ms := inside?_put hne e
  refine ⟨?_, ?_, ?_, ?_⟩
  · have hroot : t.current ≠ t.current ++ names := fun heq => hne (List.self_eq_append_right.1 heq)
    rw [show (t.put (t.current ++ names) e).current = t.current from rfl, FileTree.put,
      Table.get?_insert, if_neg hroot]
    exact h.root
  · intro ms target hat
    rw [hinside] at hat
    split at hat
    · exact hlink target (Option.some.inj hat)
    · exact h.unlinked ms target hat
  · intro ms name hsome
    have hparent : t.inside? ms = some .directory := by
      rw [hinside] at hsome
      split at hsome
      · next hms =>
        rw [← hms] at hleads
        exact h.leads_concat_iff.1 hleads
      · exact h.parent ms name hsome
    have hother : ms ≠ names := by
      rintro rfl
      exact hplace hparent
    rwa [hinside, if_neg hother]
  · intro ms hsome
    rw [hinside] at hsome
    split at hsome
    · next heq => rwa [heq]
    · exact h.named ms hsome

/-- A directory that is put where names lead and nothing stands is one more directory. -/
theorem grows_put (h : t.Plain) (hnames : ∀ n ∈ names, IsName n) (hleads : t.Leads [] names)
    (hnone : t.inside? names = none) : t.Grows names (t.put (t.current ++ names) .directory) ∧
      (t.put (t.current ++ names) .directory).inside? names = some .directory := by
  have hne : names ≠ [] := by
    rintro rfl
    simp at hnone
  have hput (ms : List String) : (t.put (t.current ++ names) .directory).inside? ms
      = if ms = names then some .directory else t.inside? ms := inside?_put hne _
  refine ⟨⟨h.put hne hnames hleads (by rw [hnone]; simp) (by simp), fun ms => ?_⟩, ?_⟩
  · rw [hput]
    by_cases heq : ms = names
    · exact .inr ⟨by simp [heq], by rw [heq, hnone], if_pos heq⟩
    · exact .inl (if_neg heq)
  · rw [hput, if_pos rfl]

/-- **Making one directory** in a plain tree: something is there already, or it is made, or names do
not lead to its place. -/
theorem makeDirectory_cases (h : t.Plain) (hnames : ∀ n ∈ names, IsName n) :
    (t.inside? names ≠ none ∧ t.makeDirectory ⟨"", names⟩ = .error .alreadyExists) ∨
    (t.inside? names = none ∧ t.Leads [] names ∧ ∃ t', t.makeDirectory ⟨"", names⟩ = .ok t' ∧
      t.Grows names t' ∧ t'.inside? names = some .directory) ∨
    (t.inside? names = none ∧ ¬t.Leads [] names ∧ ∃ e, t.makeDirectory ⟨"", names⟩ = .error e ∧
      (t.Clear names → e = .notFound)) := by
  have hup := not_mem_stepUp hnames
  by_cases hleads : t.Leads [] names
  · have hlocate := locate_of_leads false hup hleads (.inl rfl)
    cases hentry : t.inside? names with
    | some e =>
      have hget : t.get? (t.current ++ names) = some e := hentry
      exact .inl ⟨by simp, by simp [makeDirectory, hlocate, hget, bind, Except.bind]⟩
    | none =>
      have hget : t.get? (t.current ++ names) = none := hentry
      refine .inr (.inl ⟨rfl, hleads, _, ?_, grows_put h hnames hleads hentry⟩)
      simp [makeDirectory, hlocate, hget, bind, Except.bind, pure, Except.pure]
  · obtain ⟨e, herror, hmissing⟩ :=
      locate_of_not_leads false hup hleads fun ms target _ => h.unlinked ms target
    have hnone : t.inside? names = none := by
      by_contra hsome
      exact hleads (h.leads hsome)
    refine .inr (.inr ⟨hnone, hleads, e, ?_, hmissing⟩)
    simp [makeDirectory, herror, bind, Except.bind]

theorem makeOrKeep_grows (h : t.Plain) (hnames : ∀ n ∈ names, IsName n) (again : Bool) :
    t.Grows names (t.makeOrKeep again ⟨"", names⟩).2 := by
  rcases makeDirectory_cases h hnames with ⟨-, hmake⟩ | ⟨-, -, t', hmake, hgrows, -⟩ |
    ⟨-, -, e, hmake, -⟩
  · rw [makeOrKeep, hmake]
    exact .refl h
  · rw [makeOrKeep, hmake]
    exact hgrows
  · rw [makeOrKeep, hmake]
    exact .refl h

/-- A directory is made or kept where its place can be reached and no file stands at it. -/
theorem makeOrKeep_ok (h : t.Plain) (hnames : ∀ n ∈ names, IsName n) (hleads : t.Leads [] names)
    (hclear : t.Clear names) : ∃ t', t.makeOrKeep true ⟨"", names⟩ = (.ok (), t') ∧
      t.Grows names t' ∧ t'.inside? names = some .directory := by
  rcases makeDirectory_cases h hnames with ⟨hsome, hmake⟩ | ⟨-, -, t', hmake, hgrows, hdirectory⟩ |
    ⟨-, hnot, -⟩
  · have hdirectory : t.inside? names = some .directory :=
      h.directory_of_no_file hsome fun content => hclear names content List.prefix_rfl
    refine ⟨t, ?_, .refl h, hdirectory⟩
    simp [makeOrKeep, hmake, isDirectory, target?_of_plain h hnames, hdirectory]
  · exact ⟨t', by rw [makeOrKeep, hmake], hgrows, hdirectory⟩
  · exact absurd hleads hnot

theorem names_dropLast (h : ∀ n ∈ names, IsName n) : ∀ n ∈ names.dropLast, IsName n :=
  fun n hn => h n ((List.dropLast_sublist names).subset hn)

/-- **Making directories** changes nothing but that there are more of them, whether it works or
not. -/
theorem makeDirectories_grows (fuel : Nat) (h : t.Plain) (hnames : ∀ n ∈ names, IsName n)
    (again : Bool) : t.Grows names (makeDirectories fuel t again ⟨"", names⟩).2 := by
  induction fuel generalizing names again with
  | zero => exact .refl h
  | succ fuel ih =>
    have hparent := (ih (names_dropLast hnames) true).mono (List.dropLast_prefix names)
    rw [makeDirectories]
    split
    · rw [show (⟨"", names⟩ : Path).parent = ⟨"", names.dropLast⟩ from rfl]
      split
      · next heq => rwa [heq] at hparent
      · next t' heq =>
        rw [heq] at hparent
        exact hparent.trans (makeOrKeep_grows hparent.plain hnames again)
    · exact makeOrKeep_grows h hnames again

/-- **Directories can be made** where no file is in the way. -/
theorem makeDirectories_ok (fuel : Nat) (h : t.Plain) (hnames : ∀ n ∈ names, IsName n)
    (hclear : t.Clear names) (hfuel : names.length < fuel) :
    ∃ t', makeDirectories fuel t true ⟨"", names⟩ = (.ok (), t') ∧ t.Grows names t' ∧
      t'.inside? names = some .directory := by
  induction fuel generalizing names with
  | zero => exact absurd hfuel (Nat.not_lt_zero _)
  | succ fuel ih =>
    by_cases hleads : t.Leads [] names
    · obtain ⟨t', hkeep, hgrows, hdirectory⟩ := makeOrKeep_ok h hnames hleads hclear
      exact ⟨t', by rw [makeDirectories, hkeep], hgrows, hdirectory⟩
    · -- something above is missing: with no file in the way the refusal says so, and only then are
      -- the directories above made
      obtain rfl | ⟨init, name, rfl⟩ := List.eq_nil_or_concat' names
      · exact absurd (h.leads (by simp)) hleads
      have hrefused : t.makeOrKeep true ⟨"", init ++ [name]⟩
          = (.error (.refused .notFound (⟨"", init ++ [name]⟩ : Path).text), t) := by
        rcases makeDirectory_cases h hnames with ⟨hsome, -⟩ | ⟨-, hleads', -⟩ |
          ⟨hnone, -, e, hmake, hmissing⟩
        · exact absurd (h.leads hsome) hleads
        · exact absurd hleads' hleads
        · simp [makeOrKeep, hmake, hmissing hclear, isDirectory, target?_of_plain h hnames, hnone]
      have hinit : ∀ n ∈ init, IsName n := fun n hn => hnames n (by simp [hn])
      have hclearInit : t.Clear init := fun ms content hpre =>
        hclear ms content (hpre.trans (List.prefix_append init [name]))
      obtain ⟨t₁, hmade, hgrows, hdirectory⟩ := ih hinit hclearInit (by simp at hfuel; omega)
      have hleads₁ : t₁.Leads [] (init ++ [name]) := hgrows.plain.leads_concat_iff.2 hdirectory
      obtain ⟨t₂, hkeep, hgrows₂, hdirectory₂⟩ :=
        makeOrKeep_ok hgrows.plain hnames hleads₁ (hgrows.clear hclear)
      refine ⟨t₂, ?_, (hgrows.mono (List.prefix_append _ _)).trans hgrows₂, hdirectory₂⟩
      have hparent : (⟨"", init ++ [name]⟩ : Path).parent = ⟨"", init⟩ := by simp [parent]
      rw [makeDirectories, hrefused, hparent]
      simp only [hmade]
      exact hkeep

/-! ## Writing a file -/

/-- Writes a file; `making` has the directories above it made if they are missing. Those that were
made stay even if the file cannot be written. -/
def store (t : FileTree) (making : Bool) (p : Path) (content : Text.Bytes) :
    Except Fault Unit × FileTree :=
  match if making then t.makePath true p.parent else (.ok (), t) with
  | (.error f, t) => (.error f, t)
  | (.ok (), t) => match t.writeFile p content with
    | .ok t => (.ok (), t)
    | .error f => (.error f, t)

/-- **Writing one file** in a plain tree puts it at its place, if names lead there and there is no
directory. -/
theorem writeFile_cases (h : t.Plain) (hne : names ≠ []) (hnames : ∀ n ∈ names, IsName n)
    (content : Text.Bytes) :
    (t.Leads [] names ∧ t.inside? names ≠ some .directory ∧
      ∃ t', t.writeFile ⟨"", names⟩ content = .ok t' ∧ t'.Plain ∧
        ∀ ms, t'.inside? ms = if ms = names then some (.file content) else t.inside? ms) ∨
    (¬(t.Leads [] names ∧ t.inside? names ≠ some .directory) ∧
      ∃ f, t.writeFile ⟨"", names⟩ content = .error f) := by
  have hup := not_mem_stepUp hnames
  by_cases hleads : t.Leads [] names
  · have hlocate := locate_of_leads true hup hleads (.inr (h.unlinked names))
    by_cases hplace : t.inside? names = some .directory
    · have hget : t.get? (t.current ++ names) = some .directory := hplace
      exact .inr ⟨fun hboth => hboth.2 hplace, by simp [writeFile, hlocate, hget]⟩
    · refine .inl ⟨hleads, hplace, t.put (t.current ++ names) (.file content), ?_, ?_, fun ms => ?_⟩
      · have hget : t.get? (t.current ++ names) ≠ some .directory := hplace
        simp only [writeFile, hlocate]
      · exact h.put hne hnames hleads hplace (by simp)
      · exact inside?_put hne _
  · obtain ⟨e, herror, -⟩ :=
      locate_of_not_leads true hup hleads fun ms target _ => h.unlinked ms target
    exact .inr ⟨fun hboth => hleads hboth.1, by simp [writeFile, herror]⟩

/-- The directories above a file are made or not; either way there are only more of them. -/
theorem grows_above (h : t.Plain) (hnames : ∀ n ∈ names, IsName n) (making : Bool) :
    t.Grows names.dropLast
      (if making then t.makePath true (⟨"", names⟩ : Path).parent else (.ok (), t)).2 := by
  cases making with
  | false => exact .refl h
  | true => exact makeDirectories_grows _ h (names_dropLast hnames) true

/-- Whether a file stands at names. -/
def IsFile (t : FileTree) (names : List String) : Prop :=
  ∃ content, t.inside? names = some (.file content)

theorem Grows.isFile_iff (h : t.Grows names t') (ms : List String) : t'.IsFile ms ↔ t.IsFile ms :=
  exists_congr fun _ => h.file_iff

/-- **Storing a file** makes one more place that has one, or fails and leaves those that have
one. -/
theorem store_cases (h : t.Plain) (hne : names ≠ []) (hnames : ∀ n ∈ names, IsName n)
    (making : Bool) (content : Text.Bytes) :
    ∃ t', t'.Plain ∧
      ((t.store making ⟨"", names⟩ content = (.ok (), t') ∧
          ∀ ms, t'.IsFile ms ↔ ms = names ∨ t.IsFile ms) ∨
        (∃ f, t.store making ⟨"", names⟩ content = (.error f, t') ∧
          ∀ ms, t'.IsFile ms ↔ t.IsFile ms)) := by
  have hgrows := grows_above h hnames making
  rw [store]
  split
  · next f t₁ heq =>
    rw [heq] at hgrows
    exact ⟨t₁, hgrows.plain, .inr ⟨f, rfl, hgrows.isFile_iff⟩⟩
  · next t₁ heq =>
    rw [heq] at hgrows
    rcases writeFile_cases hgrows.plain hne hnames content with
      ⟨-, -, t₂, hwrite, hplain, hinside⟩ | ⟨-, f, hwrite⟩
    · refine ⟨t₂, hplain, .inl ⟨by rw [hwrite], fun ms => ?_⟩⟩
      rw [← hgrows.isFile_iff ms, IsFile, IsFile, hinside]
      by_cases heq : ms = names <;> simp [heq]
    · exact ⟨t₁, hgrows.plain, .inr ⟨f, by rw [hwrite], hgrows.isFile_iff⟩⟩

/-- **A file can be stored** exactly if no file stands above it and no directory at its place. -/
theorem store_ok_iff (h : t.Plain) (hne : names ≠ []) (hnames : ∀ n ∈ names, IsName n)
    (content : Text.Bytes) : (t.store true ⟨"", names⟩ content).1 = .ok () ↔
      t.Clear names.dropLast ∧ t.inside? names ≠ some .directory := by
  obtain ⟨init, name, rfl⟩ := (List.eq_nil_or_concat' names).resolve_left hne
  have hgrows := grows_above h hnames true
  have hbelow : ¬init ++ [name] <+: init := by
    intro hpre
    have hlength := hpre.length_le
    rw [List.length_append, List.length_singleton] at hlength
    omega
  rw [List.dropLast_concat] at hgrows ⊢
  constructor
  · intro hok
    rw [store] at hok
    split at hok
    · cases hok
    · next t₁ heq =>
      rw [heq] at hgrows
      rcases writeFile_cases hgrows.plain hne hnames content with
        ⟨hleads, hplace, -⟩ | ⟨-, f, hwrite⟩
      · have hinit := hgrows.plain.leads_concat_iff.1 hleads
        refine ⟨fun ms content' hpre hfile => ?_, fun hdirectory => hplace ?_⟩
        · exact hgrows.plain.clear_of_directory hinit ms content' hpre (hgrows.file_iff.2 hfile)
        · rcases hgrows.inside (init ++ [name]) with heq | ⟨hpre, -⟩
          · rw [heq, hdirectory]
          · exact absurd hpre hbelow
      · rw [hwrite] at hok
        cases hok
  · rintro ⟨hclear, hplace⟩
    have hinit : ∀ n ∈ init, IsName n := fun n hn => hnames n (by simp [hn])
    obtain ⟨t₁, hmade, hgrows, hdirectory⟩ :=
      makeDirectories_ok (init.length + 1) h hinit hclear (Nat.lt_succ_self _)
    have habove : t.makePath true (⟨"", init ++ [name]⟩ : Path).parent = (.ok (), t₁) := by
      simpa [makePath, parent] using hmade
    have hplace₁ : t₁.inside? (init ++ [name]) ≠ some .directory := by
      rcases hgrows.inside (init ++ [name]) with heq | ⟨hpre, -⟩
      · rwa [heq]
      · exact absurd hpre hbelow
    rw [store, if_pos rfl, habove]
    rcases writeFile_cases hgrows.plain hne hnames content with ⟨-, -, t₂, hwrite, -⟩ | ⟨hnot, -⟩
    · simp only [hwrite]
    · exact absurd ⟨hgrows.plain.leads_concat_iff.2 hdirectory, hplace₁⟩ hnot

end FileTree

end StageChain
