import StageChain.Settings.Load

/-!
# How loading settings ends

Loading either gives settings that are valid or reports what is wrong with them, except for two things
that it passes on as they come: a path that names something other than a file, and a failure of the
reader. Of a reader that is sound that is bytes that are no text.

* `Settings.Valid`: settings that suffice; `problem?_eq_none_iff`.
* `Settings.Accepts`, `Settings.Refuses`: when a value is accepted as settings, and the four ways in
  which it is refused.
* `Settings.Reports`: what is wrong with a file, in the words of the settings.
* `Settings.PassesOn`: the two ways in which loading fails without saying so in its own words.
* `Settings.load_ok_iff`, `Settings.load_reports_iff`: **how loading ends**, over any reader.
* `Reader.ofTexts`: a reader of a few texts.
-/

namespace StageChain

/-- Following links to the end and reading is reading what the path names. -/
theorem FileTree.readFile_of_target? {t : FileTree} {p : Path} {e : Entry}
    (h : t.target? p = some e) : t.readFile p = match e with
      | .file content => .ok content
      | _ => .error (.refused .isDirectory p.text) := by
  unfold target? at h
  unfold readFile
  cases hl : t.locate true p with
  | error _ => simp [hl] at h
  | ok place =>
    simp only [hl] at h
    cases e <;> simp [h]

namespace Settings

/-- Settings that suffice to compose a pipeline, as far as they can be checked before. -/
structure Valid (s : Settings) : Prop where
  named : s.name.truthy = true
  source : s.sourceFormat.truthy = true
  sink : s.graphFormat.truthy = true
  logFormat : s.logFormat.text? = some "structured" ∨ s.logFormat.text? = some "pretty"
  logLevel : s.logLevel ∈ logLevelNames

theorem problem?_eq_none_iff {s : Settings} : s.problem? = none ↔ s.Valid := by
  have hfields : s.Valid ↔ s.name.truthy = true ∧ s.sourceFormat.truthy = true ∧
      s.graphFormat.truthy = true ∧
      (s.logFormat.text? = some "structured" ∨ s.logFormat.text? = some "pretty") ∧
      s.logLevel ∈ logLevelNames :=
    ⟨fun h => ⟨h.named, h.source, h.sink, h.logFormat, h.logLevel⟩,
      fun ⟨hn, hs, hg, hf, hl⟩ => ⟨hn, hs, hg, hf, hl⟩⟩
  rw [hfields, problem?]
  split
  · simp_all
  split
  · simp_all
  split
  · simp_all
  split
  · simp_all
  case isFalse hformat =>
    have hformat : s.logFormat.text? = some "structured" ∨ s.logFormat.text? = some "pretty" :=
      Decidable.byContradiction fun h => hformat (not_or.1 h)
    split
    · simp_all
    · simp_all

/-- Why a value is refused as settings, in the order of the checks. -/
inductive Refuses (path : String) : Value → SettingsError → Prop where
  | empty {v : Value} (nothing : v.truthy = false) : Refuses path v .empty
  | rootNotMapping {v : Value} (something : v.truthy = true) (other : ∀ root, v ≠ .map root) :
      Refuses path v .rootNotMapping
  | badSection {root : Section} {e : SettingsError} (something : (Value.map root).truthy = true)
      (bad : ofSections path root = .error e) : Refuses path (.map root) e
  | insufficient {root : Section} {s : Settings} {e : SettingsError}
      (something : (Value.map root).truthy = true) (good : ofSections path root = .ok s)
      (problem : s.problem? = some e) : Refuses path (.map root) e

/-- A value is accepted as settings if it is a mapping, its sections are mappings, and what they
hold suffices. -/
inductive Accepts (path : String) : Value → Settings → Prop where
  | mk {root : Section} {s : Settings} (something : (Value.map root).truthy = true)
      (good : ofSections path root = .ok s) (valid : s.Valid) : Accepts path (.map root) s

section OfValue

variable {path : String} {v : Value}

/-- A value is accepted or refused. -/
theorem accepts_or_refuses (path : String) (v : Value) :
    (∃ s, Accepts path v s) ∨ ∃ e, Refuses path v e := by
  cases htruthy : v.truthy with
  | false => exact .inr ⟨_, .empty htruthy⟩
  | true =>
    by_cases hmap : ∃ root, v = .map root
    · obtain ⟨root, rfl⟩ := hmap
      cases hs : ofSections path root with
      | error e => exact .inr ⟨e, .badSection htruthy hs⟩
      | ok s =>
        cases hp : s.problem? with
        | some e => exact .inr ⟨e, .insufficient htruthy hs hp⟩
        | none => exact .inl ⟨s, htruthy, hs, problem?_eq_none_iff.1 hp⟩
    · exact .inr ⟨_, .rootNotMapping htruthy fun root h => hmap ⟨root, h⟩⟩

theorem Accepts.ofValue_eq {s : Settings} (h : Accepts path v s) : ofValue path v = .ok s := by
  obtain ⟨something, good, valid⟩ := h
  simp [ofValue, something, good, problem?_eq_none_iff.2 valid]

theorem Refuses.ofValue_eq {e : SettingsError} (h : Refuses path v e) :
    ofValue path v = .error e := by
  cases h with
  | empty nothing => simp [ofValue, nothing]
  | rootNotMapping something other =>
    cases v with
    | map root => exact absurd rfl (other root)
    | _ => simp [ofValue, something]
  | badSection something bad => simp [ofValue, something, bad]
  | insufficient something good problem => simp [ofValue, something, good, problem]

end OfValue

section Load

variable (r : Reader) (t : FileTree) (p : Path)

/-- The file at a path holds a value. -/
def Holds (v : Value) : Prop :=
  ∃ content, t.target? p = some (.file content) ∧ r.yaml r.encoding content = .ok v

/-- What loading reports in its own words. -/
inductive Reports : SettingsError → Prop where
  | missing (nothing : t.target? p = none) : Reports (.notFound p.text)
  | malformed {content : Text.Bytes} (there : t.target? p = some (.file content))
      (bad : r.yaml r.encoding content = .error .malformed) : Reports .malformed
  | refused {v : Value} {e : SettingsError} (holds : Holds r t p v) (refuses : Refuses p.text v e) :
      Reports e

/-- What loading passes on as it comes. -/
inductive PassesOn : Fault → Prop where
  | notFile {e : Entry} (there : t.target? p = some e) (other : ∀ content, e ≠ .file content) :
      PassesOn (.refused .isDirectory p.text)
  | unread {content : Text.Bytes} {f : Fault} (there : t.target? p = some (.file content))
      (fails : r.yaml r.encoding content = .error (.fault f)) : PassesOn f

/-- The file at a path holds bytes that are no text, and the reader gets as far as these. -/
def Undecodable : Prop :=
  ∃ content, t.target? p = some (.file content) ∧ r.encoding content = none ∧
    r.yaml r.encoding content = .error (.fault .undecodable)

/-- Every state of a path is one in which there are valid settings, an error that is reported, or
one that is passed on. -/
theorem loads_or_reports_or_passesOn :
    (∃ v s, Holds r t p v ∧ Accepts p.text v s) ∨ (∃ e, Reports r t p e) ∨ ∃ f, PassesOn r t p f := by
  cases htarget : t.target? p with
  | none => exact .inr (.inl ⟨_, .missing htarget⟩)
  | some e =>
    by_cases hfile : ∃ content, e = .file content
    · obtain ⟨content, rfl⟩ := hfile
      cases hread : r.yaml r.encoding content with
      | error err =>
        cases err with
        | malformed => exact .inr (.inl ⟨_, .malformed htarget hread⟩)
        | fault f => exact .inr (.inr ⟨f, .unread htarget hread⟩)
      | ok v =>
        have hv : Holds r t p v := ⟨content, htarget, hread⟩
        obtain ⟨s, hs⟩ | ⟨err, herr⟩ := accepts_or_refuses p.text v
        · exact .inl ⟨v, s, hv, hs⟩
        · exact .inr (.inl ⟨err, .refused hv herr⟩)
    · exact .inr (.inr ⟨_, .notFile htarget fun content h => hfile ⟨content, h⟩⟩)

variable {r t p}

/-- What is loaded from something that is there is what is read from it. -/
theorem load_of_target? {e : Entry} (h : t.target? p = some e) :
    load r t p = match (match e with
      | .file content => readContent r content
      | _ => .error (.fault (.refused .isDirectory p.text))) with
    | .error err => .error err
    | .ok v => match ofValue p.text v with
      | .ok s => .ok s
      | .error err => .error (.settings err) := by
  have hthere : t.contains p = true := by simp [FileTree.contains, h]
  have hread := t.readFile_of_target? h
  unfold load
  rw [hthere, hread]
  cases e <;> rfl

theorem load_of_holds {v : Value} (h : Holds r t p v) :
    load r t p = match ofValue p.text v with
      | .ok s => .ok s
      | .error err => .error (.settings err) := by
  obtain ⟨content, hfile, hread⟩ := h
  rw [load_of_target? hfile]
  simp only [readContent, hread]

theorem load_of_accepts {v : Value} {s : Settings} (hv : Holds r t p v) (hs : Accepts p.text v s) :
    load r t p = .ok s := by
  simp [load_of_holds hv, hs.ofValue_eq]

theorem Reports.load_eq {e : SettingsError} (h : Reports r t p e) :
    load r t p = .error (.settings e) := by
  cases h with
  | missing nothing => exact load_missing (by simp [FileTree.contains, nothing])
  | malformed there bad => simp [load_of_target? there, readContent, bad]
  | refused holds refuses => simp [load_of_holds holds, refuses.ofValue_eq]

theorem PassesOn.load_eq {f : Fault} (h : PassesOn r t p f) : load r t p = .error (.fault f) := by
  cases h with
  | notFile there other =>
    rw [load_of_target? there]
    rename_i e
    cases e with
    | file content => exact absurd rfl (other content)
    | _ => rfl
  | unread there fails => simp [load_of_target? there, readContent, fails]

/-- Valid settings are loaded exactly from a file that holds them. -/
theorem load_ok_iff {s : Settings} :
    load r t p = .ok s ↔ ∃ v, Holds r t p v ∧ Accepts p.text v s := by
  refine ⟨fun h => ?_, fun ⟨v, hv, hs⟩ => load_of_accepts hv hs⟩
  obtain ⟨v, s', hv, hs⟩ | ⟨e, he⟩ | ⟨f, hf⟩ := loads_or_reports_or_passesOn r t p
  · rw [load_of_accepts hv hs] at h
    obtain rfl := Except.ok.inj h
    exact ⟨v, hv, hs⟩
  · rw [he.load_eq] at h
    cases h
  · rw [hf.load_eq] at h
    cases h

/-- **Of a reader that is sound** only bytes that are no text are passed on. -/
theorem passesOn_iff_of_sound (hr : r.Sound) {f : Fault} : PassesOn r t p f ↔
    (∃ e, t.target? p = some e ∧ (∀ content, e ≠ .file content) ∧
      f = .refused .isDirectory p.text) ∨
    Undecodable r t p ∧ f = .undecodable := by
  constructor
  · rintro (⟨there, other⟩ | ⟨there, fails⟩)
    · exact .inl ⟨_, there, other, rfl⟩
    · rename_i content
      right
      -- a text does not fail, so the bytes are none
      cases htext : r.encoding content with
      | some cs => exact absurd fails (hr.text _ _ cs f htext)
      | none =>
        obtain hread | hread := hr.noText _ _ htext
        · rw [hread] at fails
          cases fails
        · have hf : f = .undecodable := by
            rw [hread] at fails
            exact (ReadError.fault.inj (Except.error.inj fails)).symm
          exact ⟨⟨content, there, htext, hread⟩, hf⟩
  · rintro (⟨e, there, other, rfl⟩ | ⟨⟨content, there, -, hread⟩, rfl⟩)
    · exact .notFile there other
    · exact .unread there hread

/-- **How loading ends**, whatever the reader makes of a file: with valid settings or with an error of
the settings, unless it is one of those that are passed on. Of a sound reader these are the errors for
a directory and for bytes that are no text. -/
theorem load_reports_iff (r : Reader) (t : FileTree) (p : Path) :
    (((∃ s, load r t p = .ok s ∧ s.Valid) ∨ ∃ e, load r t p = .error (.settings e)) ↔
      ∀ f, ¬PassesOn r t p f) ∧
    (∀ f, load r t p = .error (.fault f) ↔ PassesOn r t p f) ∧
    (r.Sound → ∀ f, PassesOn r t p f ↔
      (∃ e, t.target? p = some e ∧ (∀ content, e ≠ .file content) ∧
        f = .refused .isDirectory p.text) ∨
      Undecodable r t p ∧ f = .undecodable) := by
  have hpassed : ∀ f, load r t p = .error (.fault f) ↔ PassesOn r t p f := by
    refine fun f => ⟨fun h => ?_, fun h => h.load_eq⟩
    obtain ⟨v, s, hv, hs⟩ | ⟨e, he⟩ | ⟨f', hf⟩ := loads_or_reports_or_passesOn r t p
    · rw [load_of_accepts hv hs] at h
      cases h
    · rw [he.load_eq] at h
      cases h
    · rw [hf.load_eq] at h
      obtain rfl := LoadError.fault.inj (Except.error.inj h)
      exact hf
  refine ⟨⟨?_, ?_⟩, hpassed, fun hr f => passesOn_iff_of_sound hr⟩
  · rintro (⟨s, hs, -⟩ | ⟨e, he⟩) f hf
    · rw [hf.load_eq] at hs
      cases hs
    · rw [hf.load_eq] at he
      cases he
  · intro hnone
    obtain ⟨v, s, hv, hs⟩ | ⟨e, he⟩ | ⟨f, hf⟩ := loads_or_reports_or_passesOn r t p
    · refine .inl ⟨s, load_of_accepts hv hs, ?_⟩
      obtain ⟨-, -, valid⟩ := hs
      exact valid
    · exact .inr ⟨e, he.load_eq⟩
    · exact absurd hf (hnone f)

end Load

end Settings

/-! ## A reader of a few texts -/

namespace Reader

/-- A reader of texts in UTF-8 that knows what a few of them are read as. -/
def ofTexts (known : List (String × Value)) : Reader where
  encoding := Text.readText?
  yaml e b := match e b with
    | none => .error (.fault .undecodable)
    | some cs => match known.lookup (String.ofList cs) with
      | some v => .ok v
      | none => .error .malformed

theorem sound_ofTexts (known : List (String × Value)) : (ofTexts known).Sound where
  text e b cs f h := by
    simp only [ofTexts, h]
    split <;> simp
  noText e b h := .inr (by simp only [ofTexts, h])

end Reader

namespace Settings

/-- A directory is passed on by whatever is sound, and by nothing else. -/
theorem load_reports_iff_sample :
    let r : Reader := .ofTexts [("loud", .text "loud")]
    let t : FileTree := ⟨["work"], .ofList [(["work", "d"], .directory)]⟩
    r.Sound ∧ load r t (.ofString "d") = .error (.fault (.refused .isDirectory "d")) ∧
      ∀ f, PassesOn r t (.ofString "d") f → f = .refused .isDirectory "d" := by
  intro r t
  have hr : r.Sound := Reader.sound_ofTexts _
  obtain ⟨-, hpassed, hsound⟩ := load_reports_iff r t (.ofString "d")
  have hthere : t.target? (.ofString "d") = some .directory := by decide +kernel
  refine ⟨hr, (hpassed _).2 ((hsound hr _).2 (.inl ⟨_, hthere, by simp, rfl⟩)), fun f hf => ?_⟩
  obtain ⟨e, -, -, hf⟩ | ⟨⟨content, hfile, -⟩, -⟩ := (hsound hr f).1 hf
  · exact hf
  · rw [hthere] at hfile
    cases hfile

/-- Settings that are a directory, and a file of which the last byte begins nothing: neither error
is one of the settings. -/
theorem load_passes_on :
    let r : Reader := .ofTexts []
    let t : FileTree := ⟨["work"], .ofList [
      (["work", "c.yaml"], .file [0x67, 0x72, 0x61, 0x70, 0x68, 0xff]),
      (["work", "d"], .directory)]⟩
    r.Sound ∧ load r t (.ofString "c.yaml") = .error (.fault .undecodable) ∧
    load r t (.ofString "d") = .error (.fault (.refused .isDirectory "d")) ∧
    (LoadError.fault .undecodable).kindName = "UnicodeDecodeError" ∧
    (LoadError.fault (.refused .isDirectory "d")).kindName = "IsADirectoryError" := by
  have hbytes : Text.readText? [0x67, 0x72, 0x61, 0x70, 0x68, 0xff] = none := by decide +kernel
  refine ⟨Reader.sound_ofTexts _, ?_, ?_, rfl, by decide +kernel⟩
  · have hread : (Reader.ofTexts []).yaml Text.readText? [0x67, 0x72, 0x61, 0x70, 0x68, 0xff]
        = .error (.fault .undecodable) := by
      simp only [Reader.ofTexts, hbytes]
    exact PassesOn.load_eq (.unread (by decide +kernel) hread)
  · exact PassesOn.load_eq (.notFile (e := .directory) (by decide +kernel) (by simp))

end Settings

end StageChain
