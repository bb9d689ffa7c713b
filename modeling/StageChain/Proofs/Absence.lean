import StageChain.Proofs.Sections
import StageChain.Run.Draft

/-!
# Null where nothing is written

In settings an entry with an empty value is null. For a location, and for a section that holds one,
that is as good as no entry: the settings have the same locations, and every draft is compiled in the
same way. The root of the intermediate locations is the exception: a root that is null is the text
`None`.

* `Settings.NullAt`: **a null in a file where there was nothing**; `nullAt_here`, `nullAt_within`.
* `NullAt.malformed_iff`, `NullAt.field?_eq`, `NullAt.location?_eq`: what is read of it.
* `Settings.LikeAbsent`, `Settings.null_like_absent`: **what a null comes to.**
-/

namespace StageChain

namespace Value

variable {name : String} {k v : Value} {es fs : List (Value × Value)}

theorem field?_append : field? name (es ++ fs) = (field? name es).or (field? name fs) := by
  induction es with
  | nil => rfl
  | cons e es ih =>
    obtain ⟨k, v⟩ := e
    rw [List.cons_append, field?, field?, ih]
    split <;> rfl

theorem field?_insert_of_ne (hk : k.text? ≠ some name) :
    field? name (es ++ (k, v) :: fs) = field? name (es ++ fs) := by
  rw [field?_append, field?_append, field?, if_neg hk]

theorem field?_insert_self (hes : field? name es = none) :
    field? name (es ++ (.text name, v) :: fs) = some v := by
  rw [field?_append, hes, field?, if_pos (text?_text name)]
  rfl

end Value

namespace Settings

variable {root root' es es' : Section} {name : String} {path rest q : List String} {v : Value}

/-! ## What is read -/

theorem written_congr (h : Value.field? name root' = Value.field? name root) :
    Written root' (name :: rest) v ↔ Written root (name :: rest) v := by
  by_cases hnil : rest = []
  · rw [hnil, written_singleton, written_singleton, h]
  · rw [written_cons hnil, written_cons hnil, h]

/-- What is read from a section holds what is written in it. -/
theorem Reads.field?_iff (h : Reads root q es) (hq : q ≠ []) :
    Value.field? name es = some v ↔ Written root (q ++ [name]) v := by
  rw [← written_singleton]
  refine ⟨fun hin => ?_, fun hwritten => ?_⟩
  · cases h with
    | mapping written => exact written.append hin
    | nothing _ => cases written_singleton.1 hin
  · obtain ⟨inner, front, hin⟩ := hwritten.front hq (by simp)
    cases h with
    | mapping written =>
      obtain rfl := Value.map.inj (written.unique front)
      exact hin
    | nothing other => exact absurd front (other inner)

/-- What is read is settled by what is written. -/
theorem Reads.unique (h : Reads root q es) (h' : Reads root' q es')
    (heq : ∀ v, Written root' q v ↔ Written root q v) : es' = es := by
  cases h with
  | mapping written =>
    cases h' with
    | mapping written' => exact Value.map.inj (((heq _).1 written').unique written)
    | nothing other' => exact absurd ((heq _).2 written) (other' _)
  | nothing other =>
    cases h' with
    | mapping written' => exact absurd ((heq _).1 written') (other _)
    | nothing _ => rfl

/-! ## A null where there was nothing -/

/-- **A null where there was nothing**: at the end of a path of names stands a null in the one
mapping and nothing in the other, in front of it stood mappings, nulls or nothing, and everything
else is written in both. -/
structure NullAt (path : List String) (root root' : Section) : Prop where
  absent : ∀ v, ¬Written root path v
  null : Written root' path .null
  front : ∀ q v, q <+: path → q ≠ path → Written root q v → v = .null ∨ ∃ es, v = .map es
  other : ∀ q v, ¬q <+: path → (Written root' q v ↔ Written root q v)

/-- A null is put in a mapping, under a name that is not there. -/
theorem nullAt_here (hname : Value.field? name (es ++ es') = none) :
    NullAt [name] (es ++ es') (es ++ (.text name, .null) :: es') := by
  have hes : Value.field? name es = none := by
    rw [Value.field?_append, Option.or_eq_none_iff] at hname
    exact hname.1
  refine ⟨fun v h => ?_, .here (Value.field?_insert_self hes), fun q v hpre hne h => ?_,
    fun q v hpre => ?_⟩
  · rw [written_singleton, hname] at h
    cases h
  · cases q with
    | nil => exact absurd rfl h.ne_nil
    | cons m q =>
      obtain ⟨rfl, hq⟩ := List.cons_prefix_cons.1 hpre
      exact absurd (by rw [List.prefix_nil.1 hq]) hne
  · cases q with
    | nil => exact absurd List.nil_prefix hpre
    | cons m q =>
      by_cases hm : m = name
      · subst hm
        have hq : q ≠ [] := by
          rintro rfl
          exact hpre List.prefix_rfl
        -- below a null and below nothing there is nothing
        rw [written_cons hq, written_cons hq, Value.field?_insert_self hes, hname]
        simp
      · exact written_congr (Value.field?_insert_of_ne (by simpa using Ne.symm hm))

/-- A null is put in a mapping that stands in a mapping. -/
theorem nullAt_within {inner inner' : Section} (hes : Value.field? name es = none)
    (h : NullAt rest inner inner') : NullAt (name :: rest)
      (es ++ (.text name, .map inner) :: es') (es ++ (.text name, .map inner') :: es') := by
  have hfield (v : Value) : Value.field? name (es ++ (.text name, v) :: es') = some v :=
    Value.field?_insert_self hes
  have hin {q : List String} {inner : Section} {v : Value} (hq : q ≠ []) :
      Written (es ++ (.text name, .map inner) :: es') (name :: q) v ↔ Written inner q v := by
    rw [written_cons hq, hfield]
    simp
  have hrest : rest ≠ [] := h.null.ne_nil
  refine ⟨fun v hv => h.absent v ((hin hrest).1 hv), (hin hrest).2 h.null, fun q v hpre hne hv => ?_,
    fun q v hpre => ?_⟩
  · cases q with
    | nil => exact absurd rfl hv.ne_nil
    | cons m q =>
      obtain ⟨rfl, hbelow⟩ := List.cons_prefix_cons.1 hpre
      by_cases hq : q = []
      · rw [hq, written_singleton, hfield] at hv
        exact .inr ⟨inner, (Option.some.inj hv).symm⟩
      · exact h.front q v hbelow (by simpa using hne) ((hin hq).1 hv)
  · cases q with
    | nil => exact absurd List.nil_prefix hpre
    | cons m q =>
      -- under the same name it is a matter of the inner mappings, under others nothing has changed
      by_cases hm : m = name
      · subst hm
        have hpre : ¬q <+: rest := fun hq => hpre (List.cons_prefix_cons.2 ⟨rfl, hq⟩)
        have hq : q ≠ [] := by
          rintro rfl
          exact hpre List.nil_prefix
        rw [hin hq, hin hq, h.other q v hpre]
      · refine written_congr ?_
        have hother : (Value.text name).text? ≠ some m := by simpa using Ne.symm hm
        rw [Value.field?_insert_of_ne hother, Value.field?_insert_of_ne hother]

namespace NullAt

variable (h : NullAt path root root')

include h

/-- A null is no malformed section and makes none. -/
theorem malformed_iff (q : List String) : Malformed root' q ↔ Malformed root q := by
  by_cases hpre : q <+: path
  · by_cases heq : q = path
    · subst heq
      -- at the end of the path: a null here, nothing there
      refine ⟨fun ⟨v, hv, hnull, _⟩ => ?_, fun ⟨v, hv, _⟩ => absurd hv (h.absent v)⟩
      exact absurd (hv.unique h.null) hnull
    · -- in front of it: a mapping here, because it holds the null
      refine ⟨fun ⟨v, hv, _, hother⟩ => ?_, fun ⟨v, hv, hnull, hother⟩ => ?_⟩
      · obtain ⟨rest, rfl⟩ := hpre
        obtain ⟨inner, hfront, -⟩ := h.null.front hv.ne_nil (by simpa using heq)
        exact absurd (hv.unique hfront) (hother inner)
      · obtain rfl | ⟨inner, rfl⟩ := h.front q v hpre heq hv
        · exact absurd rfl hnull
        · exact absurd rfl (hother inner)
  · simp only [Malformed, h.other q _ hpre]

/-- Sections that the null is not in are read as before. -/
theorem reads_eq (hread : Reads root q es) (hread' : Reads root' q es') (hpre : ¬q <+: path) :
    es' = es :=
  hread.unique hread' fun v => h.other q v hpre

/-- Entries that the null is not in are read as before. -/
theorem field?_eq (hread : Reads root q es) (hread' : Reads root' q es') (hq : q ≠ [])
    (hpre : ¬q ++ [name] <+: path) : Value.field? name es' = Value.field? name es :=
  Option.ext fun v => by
    rw [hread.field?_iff hq, hread'.field?_iff hq, h.other _ v hpre]

/-- The null itself is read where nothing was. -/
theorem field?_null (hread : Reads root q es) (hread' : Reads root' q es') (hq : q ≠ [])
    (hpath : q ++ [name] = path) :
    Value.field? name es = none ∧ Value.field? name es' = some .null := by
  subst hpath
  refine ⟨Option.eq_none_iff_forall_ne_some.2 fun v hv => ?_, (hread'.field?_iff hq).2 h.null⟩
  exact h.absent v ((hread.field?_iff hq).1 hv)

/-- **A location that is null is none.** -/
theorem location?_eq (hread : Reads root q es) (hread' : Reads root' q es') (hq : q ≠ [])
    (hlast : q ++ ["location"] <+: path → q ++ ["location"] = path) :
    location? es' = location? es := by
  by_cases hpre : q ++ ["location"] <+: path
  · obtain ⟨hnone, hnull⟩ := h.field?_null hread hread' hq (hlast hpre)
    rw [location?, location?, hnone, hnull]
  · rw [location?, location?, h.field?_eq hread hread' hq hpre]

end NullAt

/-! ## Locations that are null -/

/-- The locations, the root of the intermediate ones, and the sections that they are in. -/
def locationPaths : List (List String) :=
  [["graph"], ["graph", "input"], ["graph", "input", "location"], ["graph", "output"],
    ["graph", "output", "location"], ["statistics"], ["statistics", "output"],
    ["statistics", "output", "location"], ["intermediate"], ["intermediate", "root"]]

/-- No other entry stands at a location or in front of one. -/
theorem not_prefix_locationPaths : ∀ path ∈ locationPaths, ∀ q ∈ ([["pipeline"], ["logging"],
    ["properties"], ["graph", "input", "format"], ["graph", "output", "format"],
    ["statistics", "output", "format"]] : List (List String)), ¬q <+: path := by
  decide

/-- Nothing stands below a location. -/
theorem last_locationPaths : ∀ path ∈ locationPaths, ∀ q ∈ ([["graph", "input", "location"],
    ["graph", "output", "location"], ["statistics", "output", "location"],
    ["intermediate", "root"]] : List (List String)), q <+: path → q = path := by
  decide

section

variable {p : String} {s s' : Settings} (h : NullAt path root root') (hs : Consults p root s)
  (hs' : Consults p root' s') (hpath : path ∈ locationPaths)

include h hs hs' hpath

/-- With a null at a location, or where one is, a pipeline has the same ends. -/
theorem NullAt.endpoints_eq : s'.endpoints = s.endpoints := by
  have hother := not_prefix_locationPaths path hpath
  have hlast := last_locationPaths path hpath
  have hsource : location? s'.graphInput = location? s.graphInput :=
    h.location?_eq hs.graphInput hs'.graphInput (by simp) (hlast _ (by simp))
  have hgraph : location? s'.graphOutput = location? s.graphOutput :=
    h.location?_eq hs.graphOutput hs'.graphOutput (by simp) (hlast _ (by simp))
  have hstatistics : location? s'.statisticsOutput = location? s.statisticsOutput :=
    h.location?_eq hs.statisticsOutput hs'.statisticsOutput (by simp) (hlast _ (by simp))
  have hformat {q : List String} {es es' : Section} (hread : Reads root q es)
      (hread' : Reads root' q es') (hq : q ≠ []) (hpre : ¬q ++ ["format"] <+: path) :
      Value.field? "format" es' = Value.field? "format" es := h.field?_eq hread hread' hq hpre
  simp only [endpoints, sourceLocation?, sourceFormat, graphLocation?, graphFormat,
    statisticsLocation?, statisticsFormat, propertyTable, hsource, hgraph, hstatistics,
    hformat hs.graphInput hs'.graphInput (by simp) (hother _ (by simp)),
    hformat hs.graphOutput hs'.graphOutput (by simp) (hother _ (by simp)),
    hformat hs.statisticsOutput hs'.statisticsOutput (by simp) (hother _ (by simp)),
    h.reads_eq hs.properties hs'.properties (hother _ (by simp))]

theorem NullAt.name_eq : s'.name = s.name := by
  obtain ⟨pipeline, hread, hname⟩ := hs.name
  obtain ⟨pipeline', hread', hname'⟩ := hs'.name
  rw [hname, hname', h.reads_eq hread hread' (not_prefix_locationPaths path hpath _ (by simp))]

/-- Settings that suffice still do. -/
theorem NullAt.valid (hvalid : s.Valid) : s'.Valid := by
  have hends := h.endpoints_eq hs hs' hpath
  have hsource : s'.sourceFormat = s.sourceFormat := congrArg Endpoints.sourceFormat hends
  have hsink : s'.graphFormat = s.graphFormat := congrArg Endpoints.graphFormat hends
  have hlogging : s'.logging = s.logging :=
    h.reads_eq hs.logging hs'.logging (not_prefix_locationPaths path hpath _ (by simp))
  refine ⟨?_, ?_, ?_, ?_, ?_⟩
  · rw [h.name_eq hs hs' hpath]
    exact hvalid.named
  · rw [hsource]
    exact hvalid.source
  · rw [hsink]
    exact hvalid.sink
  · rw [logFormat, hlogging]
    exact hvalid.logFormat
  · rw [logLevel, hlogging]
    exact hvalid.logLevel

/-- The root is as before, unless the null is the root itself. -/
theorem NullAt.root_eq (hroot : path ≠ ["intermediate", "root"]) :
    s'.intermediateRoot = s.intermediateRoot := by
  have hfield : Value.field? "root" s'.intermediate = Value.field? "root" s.intermediate :=
    h.field?_eq hs.intermediate hs'.intermediate (by simp) fun hpre =>
      hroot (last_locationPaths path hpath _ (by simp) hpre).symm
  rw [intermediateRoot, intermediateRoot, hfield]

end

/-- **A root that is null** is no missing root: it is named `None`. -/
theorem NullAt.root_null {p : String} {s s' : Settings} (hs : Consults p root s)
    (hs' : Consults p root' s') (h : NullAt ["intermediate", "root"] root root') :
    s.intermediateRoot = "" ∧ s'.intermediateRoot = "None" := by
  obtain ⟨hnone, hnull⟩ := h.field?_null hs.intermediate hs'.intermediate (by simp) (Eq.refl _)
  rw [intermediateRoot, intermediateRoot, hnone, hnull]
  exact ⟨rfl, rfl⟩

/-- What a draft is compiled into depends on its settings by the ends and the root. -/
theorem compile_of_settings {σ : Type} [Storage σ] {s s' : Settings}
    (hends : s'.endpoints = s.endpoints) (hroot : s'.intermediateRoot = s.intermediateRoot)
    (env : Environment σ) (d : Draft) (session : Session σ) :
    ({ d with settings := s' } : Draft).compile env session
      = ({ d with settings := s } : Draft).compile env session := by
  simp only [Draft.compile, Draft.planned, Draft.plans, hends, hroot]

/-- **What a null comes to** at a location, at the root of the intermediate ones, or at a section
that holds one. -/
structure LikeAbsent (path : List String) (s s' : Settings) : Prop where
  /-- No location changes. -/
  source : s'.sourceLocation? = s.sourceLocation?
  graph : s'.graphLocation? = s.graphLocation?
  statistics : s'.statisticsLocation? = s.statisticsLocation?
  /-- The root does not change either, unless the null is the root. -/
  root : path ≠ ["intermediate", "root"] → s'.intermediateRoot = s.intermediateRoot
  /-- Then nothing changes in what operations are compiled into. -/
  compiled : path ≠ ["intermediate", "root"] → ∀ (σ : Type) [Storage σ] (env : Environment σ)
    (d : Draft) (session : Session σ), ({ d with settings := s' } : Draft).compile env session
      = ({ d with settings := s } : Draft).compile env session
  /-- A root that is null is named `None`, where a missing root has no name. -/
  nullRoot : path = ["intermediate", "root"] →
    s.intermediateRoot = "" ∧ s'.intermediateRoot = "None"
  /-- Operations are then compiled as with a root that is given that name. -/
  nullCompiled : path = ["intermediate", "root"] → ∀ (σ : Type) [Storage σ] (env : Environment σ)
    (d : Draft) (session : Session σ), ({ d with settings := s' } : Draft).compile env session
      = ({ d with settings := { s with intermediate := [(.text "root", .text "None")] } } :
        Draft).compile env session

/-- **A null location is a missing one**: a file that has a null where another has nothing is loaded
as well, with the same locations and pipelines, but for the root of the intermediate locations. -/
theorem null_like_absent {r : Reader} {t t' : FileTree} {p : Path} {s : Settings}
    (hload : load r t p = .ok s) (ht : Holds r t p (.map root)) (ht' : Holds r t' p (.map root'))
    (hpath : path ∈ locationPaths) (h : NullAt path root root') :
    ∃ s', load r t' p = .ok s' ∧ LikeAbsent path s s' := by
  obtain ⟨hwell, hs, hvalid⟩ := (load_ok_iff_consults ht).1 hload
  obtain ⟨s', hs'⟩ := exists_consults p.text root'
  have hwell' : ∀ q ∈ readSections, ¬Malformed root' q := fun q hq hmalformed =>
    hwell q hq ((h.malformed_iff q).1 hmalformed)
  have hends := h.endpoints_eq hs hs' hpath
  refine ⟨s', (load_ok_iff_consults ht').2 ⟨hwell', hs', h.valid hs hs' hpath hvalid⟩, ?_⟩
  refine ⟨congrArg Endpoints.sourceLocation hends, congrArg Endpoints.graphLocation hends,
    congrArg Endpoints.statisticsLocation hends, h.root_eq hs hs' hpath, fun hroot σ _ => ?_, ?_,
    ?_⟩
  · exact compile_of_settings hends (h.root_eq hs hs' hpath hroot)
  · rintro rfl
    exact h.root_null hs hs'
  · rintro rfl σ _
    exact compile_of_settings hends (h.root_null hs hs').2

/-- The lines for the ends of a pipeline without locations. -/
def ends : List String := ["graph:", "  input: {format: rexster}", "  output: {format: noop}"]

/-- What these lines say. -/
def graphEnds : Value × Value :=
  (.text "graph", .object [("input", .object [("format", .text "rexster")]),
    ("output", .object [("format", .text "noop")])])

/-- Statistics go to a location that is null. -/
theorem null_like_absent_sample :
    let lines := ends ++ ["statistics: {output: {}}"]
    let lines' := ends ++ ["statistics: {output: {location: null}}"]
    let root : Section := [graphEnds, (.text "statistics", .map [(.text "output", .map [])])]
    let root' : Section := [graphEnds, (.text "statistics", .map [(.text "output",
      .map [(.text "location", .null)])])]
    let r : Reader := .ofTexts [(textOf lines, .map root), (textOf lines', .map root')]
    let t := oneFile lines
    let t' := oneFile lines'
    let path := ["statistics", "output", "location"]
    Holds r t (.ofString "c.yaml") (.map root) ∧ Holds r t' (.ofString "c.yaml") (.map root') ∧
      path ∈ locationPaths ∧ NullAt path root root' ∧ ∃ s s', load r t (.ofString "c.yaml") = .ok s ∧
        load r t' (.ofString "c.yaml") = .ok s' ∧ LikeAbsent path s s' := by
  intro lines lines' root root' r t t' path
  have h : Holds r t (.ofString "c.yaml") (.map root) :=
    holds_oneFile (by decide +kernel) (by decide +kernel)
  have h' : Holds r t' (.ofString "c.yaml") (.map root') :=
    holds_oneFile (by decide +kernel) (by decide +kernel)
  have hnull : NullAt path ([graphEnds] ++ (.text "statistics",
      .map ([] ++ (.text "output", .map ([] ++ [])) :: [])) :: []) ([graphEnds] ++
      (.text "statistics", .map ([] ++ (.text "output",
        .map ([] ++ (.text "location", .null) :: [])) :: [])) :: []) :=
    nullAt_within rfl (nullAt_within rfl (nullAt_here rfl))
  have hpath : path ∈ locationPaths := by decide
  have hload := load_of_accepts h ⟨rfl, rfl, ⟨rfl, rfl, rfl, .inl rfl, by decide +kernel⟩⟩
  obtain ⟨s', hload', hlike⟩ := null_like_absent hload h h' hpath hnull
  exact ⟨h, h', hpath, hnull, _, s', hload, hload', hlike⟩

/-- A root that is null instead of a missing one: intermediate locations lie under `None`. -/
theorem null_root_named :
    let lines := ends ++ ["intermediate: {}"]
    let lines' := ends ++ ["intermediate: {root: null}"]
    let root : Section := [graphEnds, (.text "intermediate", .map [])]
    let root' : Section := [graphEnds, (.text "intermediate", .map [(.text "root", .null)])]
    let r : Reader := .ofTexts [(textOf lines, .map root), (textOf lines', .map root')]
    let t := oneFile lines
    let t' := oneFile lines'
    Holds r t (.ofString "c.yaml") (.map root) ∧ Holds r t' (.ofString "c.yaml") (.map root') ∧
      NullAt ["intermediate", "root"] root root' ∧ ∃ s s', load r t (.ofString "c.yaml") = .ok s ∧
        load r t' (.ofString "c.yaml") = .ok s' ∧ s.intermediateRoot = "" ∧
        s'.intermediateRoot = "None" := by
  intro lines lines' root root' r t t'
  have h : Holds r t (.ofString "c.yaml") (.map root) :=
    holds_oneFile (by decide +kernel) (by decide +kernel)
  have h' : Holds r t' (.ofString "c.yaml") (.map root') :=
    holds_oneFile (by decide +kernel) (by decide +kernel)
  have hnull : NullAt ["intermediate", "root"]
      ([graphEnds] ++ (.text "intermediate", .map ([] ++ [])) :: [])
      ([graphEnds] ++ (.text "intermediate", .map ([] ++ (.text "root", .null) :: [])) :: []) :=
    nullAt_within rfl (nullAt_here rfl)
  refine ⟨h, h', hnull, _, _, load_of_accepts h ⟨rfl, rfl, ?_⟩, load_of_accepts h' ⟨rfl, rfl, ?_⟩,
    rfl, rfl⟩
  all_goals exact ⟨rfl, rfl, rfl, .inl rfl, by decide +kernel⟩

end Settings

end StageChain
