import Mathlib.Tactic.ByContra
import StageChain.Proofs.Loading

/-!
# Sections that are no mappings

A file with settings says what it says under paths of names. Where a section is looked for, there may
be a mapping, null or nothing, or something else: then the section is malformed. What the settings
hold afterwards are the mappings that were written. A malformed section is refused, with one
exception: below `statistics` only the section `output` is looked for, and where `statistics` itself
is malformed there is nothing below it, so the file is loaded with the default sink for statistics.

* `Settings.Written`: **what is written under a path of names**; `walk_eq_some_iff`.
* `Settings.Malformed`, `Settings.Reads`: **sections that are no mappings, and what is read from the
  others**; `sectionAt_ok_iff`.
* `Settings.Consults`: settings that hold what was written; `ofSections_ok_iff`.
* `Settings.Screened`, `Settings.load_screened`: **what is refused, and what is loaded instead.**
-/

namespace StageChain

namespace Settings

variable {root es : Section} {name : String} {path rest : List String} {v v' : Value}

/-! ## What is written -/

/-- **What is written** under a path of names in a mapping. -/
inductive Written : Section → List String → Value → Prop where
  | here {root : Section} {name : String} {v : Value} (entry : Value.field? name root = some v) :
      Written root [name] v
  | within {root inner : Section} {name : String} {rest : List String} {v : Value}
      (entry : Value.field? name root = some (.map inner)) (inside : Written inner rest v) :
      Written root (name :: rest) v

theorem Written.ne_nil (h : Written root path v) : path ≠ [] := by
  cases h <;> exact List.cons_ne_nil _ _

theorem written_singleton : Written root [name] v ↔ Value.field? name root = some v := by
  refine ⟨fun h => ?_, .here⟩
  cases h with
  | here entry => exact entry
  | within _ inside => exact absurd rfl inside.ne_nil

theorem written_cons (hne : rest ≠ []) : Written root (name :: rest) v ↔
    ∃ inner, Value.field? name root = some (.map inner) ∧ Written inner rest v := by
  refine ⟨fun h => ?_, fun ⟨_, entry, inside⟩ => .within entry inside⟩
  cases h with
  | here _ => exact absurd rfl hne
  | within entry inside => exact ⟨_, entry, inside⟩

theorem Written.unique (h : Written root path v) (h' : Written root path v') : v = v' := by
  induction h with
  | here entry => exact Option.some.inj (entry.symm.trans (written_singleton.1 h'))
  | within entry inside ih =>
    obtain ⟨inner', entry', inside'⟩ := (written_cons inside.ne_nil).1 h'
    obtain rfl := Value.map.inj (Option.some.inj (entry.symm.trans entry'))
    exact ih inside'

/-- What stands in front of something that is written is a mapping. -/
theorem Written.front (h : Written root (path ++ rest) v) (hne : path ≠ []) (hrest : rest ≠ []) :
    ∃ inner, Written root path (.map inner) ∧ Written inner rest v := by
  induction path generalizing root with
  | nil => exact absurd rfl hne
  | cons name front ih =>
    obtain ⟨inner, entry, inside⟩ := (written_cons (by simp [hrest])).1 h
    by_cases hnil : front = []
    · subst hnil
      exact ⟨inner, .here entry, inside⟩
    · obtain ⟨inner', hfront, behind⟩ := ih inside hnil
      exact ⟨inner', .within entry hfront, behind⟩

/-- What is written in a mapping is written behind it. -/
theorem Written.append (h : Written root path (.map es)) (inside : Written es rest v) :
    Written root (path ++ rest) v := by
  generalize hw : Value.map es = w at h
  induction h with
  | here entry => exact .within (hw ▸ entry) inside
  | within entry _ ih => exact .within entry (ih hw)

/-- A walk along names ends at what is written there, if it is not null. -/
theorem walk_eq_some_iff (hne : path ≠ []) :
    walk (.map root) path = some v ↔ Written root path v ∧ v ≠ .null := by
  induction path generalizing root with
  | nil => exact absurd rfl hne
  | cons name rest ih =>
    cases rest with
    | nil =>
      rw [written_singleton]
      cases hentry : Value.field? name root with
      | none => simp [walk, hentry]
      | some w => cases w <;> simp [walk, hentry] <;> rintro rfl <;> simp
    | cons next rest =>
      rw [written_cons (by simp)]
      cases hentry : Value.field? name root with
      | none => simp [walk, hentry]
      | some w =>
        cases w with
        | map inner => simpa [walk, hentry] using ih (by simp)
        | _ => simp [walk, hentry]

/-! ## Sections -/

/-- A section that is neither a mapping nor null. -/
def Malformed (root : Section) (path : List String) : Prop :=
  ∃ v, Written root path v ∧ v ≠ .null ∧ ∀ es, v ≠ .map es

/-- **What is read from a section**: its entries, or none where there is no mapping. -/
inductive Reads (root : Section) (path : List String) : Section → Prop where
  | mapping {es : Section} (written : Written root path (.map es)) : Reads root path es
  | nothing (other : ∀ es, ¬Written root path (.map es)) : Reads root path []

theorem sectionAt_ok_iff (hne : path ≠ []) :
    sectionAt root path = .ok es ↔ ¬Malformed root path ∧ Reads root path es := by
  unfold sectionAt
  cases hwalk : walk (.map root) path with
  | none =>
    -- the walk finds nothing, so at most a null is written there
    have hnull {v : Value} (hwritten : Written root path v) : v = .null := by
      by_contra hv
      rw [(walk_eq_some_iff hne).2 ⟨hwritten, hv⟩] at hwalk
      cases hwalk
    have hno (es : Section) : ¬Written root path (.map es) := fun hes => by cases hnull hes
    simp only [Except.ok.injEq]
    constructor
    · rintro rfl
      exact ⟨fun ⟨v, hwritten, hv, _⟩ => hv (hnull hwritten), .nothing hno⟩
    · rintro ⟨-, written | other⟩
      · exact absurd written (hno _)
      · rfl
  | some v =>
    obtain ⟨hwritten, hv⟩ := (walk_eq_some_iff hne).1 hwalk
    by_cases hmap : ∃ es, v = .map es
    · obtain ⟨es', rfl⟩ := hmap
      simp only [Except.ok.injEq]
      constructor
      · rintro rfl
        refine ⟨fun ⟨w, hw, _, hother⟩ => hother _ (hw.unique hwritten), .mapping hwritten⟩
      · rintro ⟨-, written | other⟩
        · exact Value.map.inj (hwritten.unique written)
        · exact absurd hwritten (other _)
    · have hmalformed : Malformed root path := ⟨v, hwritten, hv, fun es h => hmap ⟨es, h⟩⟩
      cases v with
      | map es => exact absurd ⟨es, rfl⟩ hmap
      | _ => simp [hmalformed]

/-- **Settings that hold what was written**, each section under its path. -/
structure Consults (path : String) (root : Section) (s : Settings) : Prop where
  path : s.path = path
  name : ∃ pipeline, Reads root ["pipeline"] pipeline ∧
    s.name = (Value.field? "name" pipeline).getD (.text "unnamed-pipeline")
  graphInput : Reads root ["graph", "input"] s.graphInput
  graphOutput : Reads root ["graph", "output"] s.graphOutput
  statisticsOutput : Reads root ["statistics", "output"] s.statisticsOutput
  intermediate : Reads root ["intermediate"] s.intermediate
  logging : Reads root ["logging"] s.logging
  properties : Reads root ["properties"] s.properties

theorem exists_reads (root : Section) (q : List String) : ∃ es, Reads root q es := by
  by_cases h : ∃ es, Written root q (.map es)
  · obtain ⟨es, h⟩ := h
    exact ⟨es, .mapping h⟩
  · exact ⟨[], .nothing fun es hes => h ⟨es, hes⟩⟩

theorem exists_consults (path : String) (root : Section) : ∃ s, Consults path root s := by
  obtain ⟨pipeline, h₁⟩ := exists_reads root ["pipeline"]
  obtain ⟨graphInput, h₂⟩ := exists_reads root ["graph", "input"]
  obtain ⟨graphOutput, h₃⟩ := exists_reads root ["graph", "output"]
  obtain ⟨statisticsOutput, h₄⟩ := exists_reads root ["statistics", "output"]
  obtain ⟨intermediate, h₅⟩ := exists_reads root ["intermediate"]
  obtain ⟨logging, h₆⟩ := exists_reads root ["logging"]
  obtain ⟨properties, h₇⟩ := exists_reads root ["properties"]
  exact ⟨⟨path, (Value.field? "name" pipeline).getD (.text "unnamed-pipeline"), graphInput,
    graphOutput, statisticsOutput, intermediate, logging, properties⟩, rfl, ⟨pipeline, h₁, rfl⟩, h₂,
    h₃, h₄, h₅, h₆, h₇⟩

/-- The sections that are read. -/
def readSections : List (List String) :=
  [["pipeline"], ["graph", "input"], ["graph", "output"], ["statistics", "output"],
    ["intermediate"], ["logging"], ["properties"]]

/-- **Sections become settings** if none that is read is malformed, and the settings hold what was
written. -/
theorem ofSections_ok_iff {p : String} {s : Settings} : ofSections p root = .ok s ↔
    (∀ path ∈ readSections, ¬Malformed root path) ∧ Consults p root s := by
  have hpure (a b : Settings) : (pure a : Except SettingsError Settings) = .ok b ↔ a = b :=
    Except.ok.injEq a b ▸ Iff.rfl
  simp only [ofSections, Steps.bind_eq_ok, sectionAt_ok_iff, ne_eq, List.cons_ne_nil,
    not_false_eq_true, hpure, readSections, List.forall_mem_cons, List.not_mem_nil, false_imp_iff,
    implies_true, and_true]
  constructor
  · rintro ⟨pipeline, ⟨h₁, r₁⟩, gi, ⟨h₂, r₂⟩, go, ⟨h₃, r₃⟩, so, ⟨h₄, r₄⟩, im, ⟨h₅, r₅⟩, lo, ⟨h₆, r₆⟩,
      pr, ⟨h₇, r₇⟩, rfl⟩
    exact ⟨⟨h₁, h₂, h₃, h₄, h₅, h₆, h₇⟩, rfl, ⟨pipeline, r₁, rfl⟩, r₂, r₃, r₄, r₅, r₆, r₇⟩
  · rintro ⟨⟨h₁, h₂, h₃, h₄, h₅, h₆, h₇⟩, hs⟩
    obtain ⟨pipeline, r₁, hname⟩ := hs.name
    refine ⟨_, ⟨h₁, r₁⟩, _, ⟨h₂, hs.graphInput⟩, _, ⟨h₃, hs.graphOutput⟩, _,
      ⟨h₄, hs.statisticsOutput⟩, _, ⟨h₅, hs.intermediate⟩, _, ⟨h₆, hs.logging⟩, _,
      ⟨h₇, hs.properties⟩, ?_⟩
    rw [← hname, ← hs.path]

/-! ## What is refused and what is loaded -/

/-- The sections that a file may hold, with those they are in. -/
def allSections : List (List String) :=
  [["pipeline"], ["graph"], ["graph", "input"], ["graph", "output"], ["statistics"],
    ["statistics", "output"], ["intermediate"], ["logging"], ["properties"]]

theorem allSections_cases : ∀ path ∈ allSections, path ≠ ["statistics"] →
    path ∈ readSections ∨ path = ["graph"] := by
  decide

theorem readSections_subset : ∀ path ∈ readSections, path ∈ allSections ∧ path ≠ ["statistics"] := by
  decide

theorem Reads.eq_nil (h : Reads root path es) (hnothing : ∀ v, ¬Written root path v) : es = [] := by
  cases h with
  | mapping written => exact absurd written (hnothing _)
  | nothing _ => rfl

/-- Below a section that is no mapping nothing is written. -/
theorem Malformed.nothing_below (h : Malformed root path) (hrest : rest ≠ []) (v : Value) :
    ¬Written root (path ++ rest) v := by
  obtain ⟨w, hwritten, -, hother⟩ := h
  intro hbelow
  obtain ⟨inner, hfront, -⟩ := hbelow.front hwritten.ne_nil hrest
  exact hother inner (hwritten.unique hfront)

/-- Without a section for the source there is no format for it. -/
theorem Valid.graphInput_ne_nil {s : Settings} (h : s.Valid) : s.graphInput ≠ [] := by
  intro hempty
  have hsource := h.source
  simp [sourceFormat, hempty, Value.field?, Value.truthy] at hsource

/-- A file that says nothing makes no settings that suffice. -/
theorem Consults.truthy {p : String} {s : Settings} (h : Consults p root s) (hvalid : s.Valid) :
    (Value.map root).truthy = true := by
  cases root with
  | cons entry root => rfl
  | nil =>
    refine absurd (h.graphInput.eq_nil fun v hwritten => ?_) hvalid.graphInput_ne_nil
    obtain ⟨_, entry, -⟩ := (written_cons (by simp)).1 hwritten
    cases entry

/-- A malformed section `graph` leaves no format for the source. -/
theorem Consults.graph_wellFormed {p : String} {s : Settings} (h : Consults p root s)
    (hvalid : s.Valid) : ¬Malformed root ["graph"] := fun hmalformed =>
  hvalid.graphInput_ne_nil (h.graphInput.eq_nil (hmalformed.nothing_below (by simp)))

variable {r : Reader} {t : FileTree} {p : Path}

theorem Holds.unique (h : Holds r t p v) (h' : Holds r t p v') : v = v' := by
  obtain ⟨content, hfile, hread⟩ := h
  obtain ⟨content', hfile', hread'⟩ := h'
  obtain rfl := Entry.file.inj (Option.some.inj (hfile.symm.trans hfile'))
  exact Except.ok.inj (hread.symm.trans hread')

/-- **What a file with a mapping is loaded as**: what it says, if no section that is read is
malformed and what was written suffices. -/
theorem load_ok_iff_consults (h : Holds r t p (.map root)) {s : Settings} :
    load r t p = .ok s ↔
      (∀ path ∈ readSections, ¬Malformed root path) ∧ Consults p.text root s ∧ s.Valid := by
  rw [load_ok_iff, ← and_assoc, ← ofSections_ok_iff]
  constructor
  · rintro ⟨v, hv, haccepts⟩
    obtain rfl := hv.unique h
    obtain ⟨-, good, valid⟩ := haccepts
    exact ⟨good, valid⟩
  · rintro ⟨good, valid⟩
    exact ⟨_, h, (ofSections_ok_iff.1 good).2.truthy valid, good, valid⟩

theorem load_ends (h : Holds r t p v) :
    (∃ s, load r t p = .ok s) ∨ ∃ e, load r t p = .error (.settings e) := by
  obtain ⟨s, hs⟩ | ⟨e, he⟩ := accepts_or_refuses p.text v
  · exact .inl ⟨s, load_of_accepts h hs⟩
  · exact .inr ⟨e, (Reports.refused h he).load_eq⟩

/-- **How the sections of a file decide what is loaded.** -/
structure Screened (r : Reader) (t : FileTree) (p : Path) (root : Section) : Prop where
  /-- Settings are loaded, or an error of the settings is reported. -/
  ends : (∃ s, load r t p = .ok s) ∨ ∃ e, load r t p = .error (.settings e)
  /-- Every malformed section is refused, but for the one that holds the sink for statistics. -/
  refused : ∀ path ∈ allSections, path ≠ ["statistics"] → Malformed root path →
    ∃ e, load r t p = .error (.settings e)
  /-- Settings are loaded exactly if no such section is malformed and what was written suffices, and
  then they hold what was written. -/
  ok_iff : ∀ s, load r t p = .ok s ↔ (∀ path ∈ allSections, path ≠ ["statistics"] →
    ¬Malformed root path) ∧ Consults p.text root s ∧ s.Valid
  /-- Where the section that holds the sink for statistics is malformed, that is the default one. -/
  ignored : Malformed root ["statistics"] → ∀ s, load r t p = .ok s →
    s.statisticsFormat = .text "text" ∧ s.statisticsLocation? = s.graphLocation?

/-- **Malformed sections are refused**, but for one that is ignored. -/
theorem load_screened (h : Holds r t p (.map root)) : Screened r t p root := by
  have hok (s : Settings) : load r t p = .ok s ↔ (∀ path ∈ allSections, path ≠ ["statistics"] →
      ¬Malformed root path) ∧ Consults p.text root s ∧ s.Valid := by
    rw [load_ok_iff_consults h]
    refine ⟨fun ⟨hwell, hs, hvalid⟩ => ⟨?_, hs, hvalid⟩, fun ⟨hwell, hs, hvalid⟩ => ⟨?_, hs, hvalid⟩⟩
    -- `graph` itself is not read as a section: malformed, it leaves the source without a format
    · intro path hpath hother
      obtain hread | rfl := allSections_cases path hpath hother
      · exact hwell path hread
      · exact hs.graph_wellFormed hvalid
    · intro path hpath
      obtain ⟨hmem, hother⟩ := readSections_subset path hpath
      exact hwell path hmem hother
  refine ⟨load_ends h, fun path hpath hother hmalformed => ?_, hok, fun hmalformed s hs => ?_⟩
  · refine (load_ends h).resolve_left ?_
    rintro ⟨s, hs⟩
    exact ((hok s).1 hs).1 path hpath hother hmalformed
  · have hempty : s.statisticsOutput = [] :=
      ((hok s).1 hs).2.1.statisticsOutput.eq_nil (hmalformed.nothing_below (by simp))
    simp [statisticsFormat, statisticsLocation?, location?, hempty, Value.field?]

/-- A text of lines, each ended by a line feed. -/
def textOf (lines : List String) : String := String.join (lines.map (· ++ "\n"))

/-- A tree of one file with settings. -/
def oneFile (lines : List String) : FileTree :=
  ⟨["work"], .ofList [(["work", "c.yaml"], .file (Text.encode (textOf lines)))]⟩

theorem holds_oneFile {known : List (String × Value)} {lines : List String}
    (hreturn : '\r' ∉ (textOf lines).toList) (hknown : known.lookup (textOf lines) = some v) :
    Holds (.ofTexts known) (oneFile lines) (.ofString "c.yaml") v := by
  have htext : (Reader.ofTexts known).encoding (Text.encode (textOf lines))
      = some (textOf lines).toList := Text.readText?_encode hreturn
  refine ⟨_, rfl, ?_⟩
  simp only [Reader.ofTexts] at htext ⊢
  simp only [htext, String.ofList_toList, hknown]

/-- A text where the section for logging should be. -/
theorem load_screened_sample :
    let lines := ["graph:", "  input: {format: graphson}", "  output: {format: noop}",
      "logging: loud"]
    let root : Section := [(.text "graph", .object [("input", .object [("format", .text "graphson")]),
      ("output", .object [("format", .text "noop")])]), (.text "logging", .text "loud")]
    let r : Reader := .ofTexts [(textOf lines, .map root)]
    let t := oneFile lines
    Holds r t (.ofString "c.yaml") (.map root) ∧ Malformed root ["logging"] ∧
      Screened r t (.ofString "c.yaml") root := by
  intro lines root r t
  have h : Holds r t (.ofString "c.yaml") (.map root) :=
    holds_oneFile (by decide +kernel) (by decide +kernel)
  exact ⟨h, ⟨_, .here rfl, by simp, by simp⟩, load_screened h⟩

/-- A text where the section that holds the sink for statistics should be: it is loaded, and
statistics go where the graph goes. -/
theorem statistics_ignored :
    let lines := ["graph:", "  input: {format: rexster}",
      "  output: {format: graphson, location: out}", "statistics: stats"]
    let root : Section := [(.text "graph", .object [("input", .object [("format", .text "rexster")]),
      ("output", .object [("format", .text "graphson"), ("location", .text "out")])]),
      (.text "statistics", .text "stats")]
    let r : Reader := .ofTexts [(textOf lines, .map root)]
    let t := oneFile lines
    Holds r t (.ofString "c.yaml") (.map root) ∧ Malformed root ["statistics"] ∧
      ∃ s, load r t (.ofString "c.yaml") = .ok s ∧ s.statisticsLocation? = some "out" := by
  intro lines root r t
  have h : Holds r t (.ofString "c.yaml") (.map root) :=
    holds_oneFile (by decide +kernel) (by decide +kernel)
  refine ⟨h, ⟨_, .here rfl, by simp, by simp⟩, _, load_of_accepts h ⟨rfl, rfl, ?_⟩, rfl⟩
  exact ⟨rfl, rfl, rfl, .inl rfl, by decide +kernel⟩

end Settings

end StageChain
