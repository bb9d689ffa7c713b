import StageChain.Proofs.Protocol
import StageChain.Proofs.Rollback

/-!
# Which runs report

A run of a draft on a substrate ends in a report unless what it relies on fails in one of three ways.
Two of them are not taken for failures of planning: the format of the source is a value that cannot
be looked up, or a name is drawn and that ends in a general error of a pipeline. The third comes up
when stages are run: the substrate answers with a value of which nobody can tell whether it stands
for success. Whatever else goes wrong, in the storage, on the substrate, with names or with who is
told of progress, is reported.

* `PassesOn`, `compose_passesOn_iff`: **what composing passes on** that is no failure of planning.
* `isPlanning_of_prepareSink`: what goes wrong with the sink is one.
* `Escapes`: what a run may pass on.
* `run_error_iff`: **what a run passes on**, over any storage.
* `run_reports_iff`: **when a run reports.**
* `report_missing`: settings that load and a run of theirs that does not report.
-/

namespace StageChain

variable {σ : Type}

/-- There are three statuses. -/
theorem Report.status_mem (r : Report) : r.status ∈ [0, 1, 2] := by
  cases r with
  | unplanned _ => simp [status]
  | idle _ => simp [status]
  | executed _ r => cases h : r.success <;> simp [status, h]

namespace Wiring

/-- **What composing passes on** although it is no failure of planning, where so many names were
drawn before. -/
inductive PassesOn (env : Environment σ) (root : String) (plans : List Plan) (e : Endpoints)
    (drawn : Nat) : PlanningFailure → Prop where
  /-- The format of the source cannot be looked up. -/
  | source (some : plans ≠ []) (key : e.sourceFormat.isKey = false) :
    PassesOn env root plans e drawn (.fault (.unhashable e.sourceFormat.kindName))
  /-- The source is accepted, and drawing a name for a lease that is needed ends in a general error.
  -/
  | name {format : String} {names : List String} {args : List Value}
    (source : Accepts Format.sources e.sourceFormat e.sourceLocation format)
    (grants : Leases.Grants env root drawn names) (needed : names.length < plans.length - 1)
    (draw : env.names (drawn + names.length) = .error (.raised .pipeline args)) :
    PassesOn env root plans e drawn (.fault (.raised .pipeline args))

variable {env : Environment σ} {root : String} {plans : List Plan} {e : Endpoints}
  {drawn : Nat} {failure original : PlanningFailure}

theorem PassesOn.isPlanning (h : PassesOn env root plans e drawn failure) :
    failure.isPlanning = false := by
  cases h <;> rfl

/-- Of the refusals of an end only that of a value that cannot be looked up is none of planning. -/
theorem Refused.eq_unhashable {role : String} {supported : List String}
    {unlocated : String → CompositionError} {format : Value} {location : Option String}
    (h : Refused role supported unlocated format location failure)
    (hforeign : failure.isPlanning = false) :
    format.isKey = false ∧ failure = .fault (.unhashable format.kindName) := by
  cases h with
  | unsupported => simp [PlanningFailure.isPlanning] at hforeign
  | unhashable hkey => exact ⟨hkey, rfl⟩
  | unlocated => simp [PlanningFailure.isPlanning] at hforeign

/-- A fault that does not become a failure of planning is a general error of a pipeline. -/
theorem eq_pipeline_of_failureOf {f : Fault} (h : (failureOf f).isPlanning = false) :
    ∃ args, f = .raised .pipeline args := by
  unfold failureOf at h
  split at h
  case isFalse => simp [PlanningFailure.isPlanning] at h
  case isTrue hown =>
    cases f with
    | raised kind args =>
      cases kind with
      | pipeline => exact ⟨args, rfl⟩
      | planning => simp [PlanningFailure.isPlanning, Fault.isPlanning] at h
      | _ => simp [Fault.isOwn] at hown
    | _ => simp [Fault.isOwn] at hown

/-- What comes of a refused sink is always a failure of planning. -/
theorem isPlanning_of_sinkRefused {k : Sink} (h : SinkRefused k original) :
    (sinkFailure original).isPlanning = true := by
  cases h <;> rfl

/-- What composing passes on is one of the two. -/
theorem passesOn_of_compose [Storage σ] {s : Session σ}
    (h : (compose env root plans e s).1 = .error failure) (hforeign : failure.isPlanning = false) :
    PassesOn env root plans e s.drawn failure := by
  have hc := composition env root plans e s
  generalize compose env root plans e s = r at h hc
  cases hc with
  | idle => simp at h
  | wired => simp at h
  | refused hne hrefused =>
    cases h
    obtain ⟨hkey, rfl⟩ := hrefused.eq_unhashable hforeign
    exact .source hne hkey
  | rolledBack hne left =>
    cases h
    cases left.interrupted with
    | sink _ hrefused =>
      rw [isPlanning_of_sinkRefused hrefused] at hforeign
      exact absurd hforeign (by simp)
    | lease hfewer hrefuses =>
      obtain ⟨args, rfl⟩ := eq_pipeline_of_failureOf hforeign
      obtain ⟨format, hsource⟩ := left.source
      cases hrefuses with
      | raised hdraw => exact .name hsource left.grants hfewer hdraw

/-- Each of the two is passed on. -/
theorem compose_of_passesOn [Storage σ] {s : Session σ}
    (h : PassesOn env root plans e s.drawn failure) :
    (compose env root plans e s).1 = .error failure := by
  cases h with
  | source hne hkey => rw [compose_of_sourceRefused (.unhashable hkey) hne env root s]
  | @name format names args hsource hgrants hneeded hdraw =>
    have hc := composition env root plans e s
    generalize compose env root plans e s = r at hc
    cases hc with
    | idle hnil => simp [hnil] at hneeded
    | refused _ hrefused => exact absurd hrefused hsource.not_refused
    | wired _ left =>
      -- a pipeline needs more leases than the draws before the failing one can grant
      have hle := (Leases.Refuses.raised hdraw).length_le hgrants left.grants
      rw [left.length] at hle
      omega
    | rolledBack _ left =>
      cases left.interrupted with
      | sink hcomplete _ =>
        have hle := (Leases.Refuses.raised hdraw).length_le hgrants left.grants
        omega
      | lease _ hrefuses =>
        -- another lease was refused: by the draws it is this one
        obtain ⟨-, rfl⟩ := (Leases.Refuses.raised hdraw).unique hgrants hrefuses left.grants
        rfl

/-- **What composing passes on**, over any storage. -/
theorem compose_passesOn_iff [Storage σ] (s : Session σ) :
    ((compose env root plans e s).1 = .error failure ∧ failure.isPlanning = false) ↔
      PassesOn env root plans e s.drawn failure :=
  ⟨fun h => passesOn_of_compose h.1 h.2, fun h => ⟨compose_of_passesOn h, h.isPlanning⟩⟩

end Wiring

namespace Draft

open Wiring

/-- What composing the plans of a draft passes on, where so many names were drawn before. -/
def ComposingPassesOn (env : Environment σ) (d : Draft) (drawn : Nat) (failure : PlanningFailure) :
    Prop :=
  ∃ plans, d.plans = .ok plans ∧
    PassesOn env d.settings.intermediateRoot plans d.settings.endpoints drawn failure

variable [Storage σ] {env : Environment σ} {d : Draft} {s : Session σ} {failure : PlanningFailure}

/-- **What a run passes on** instead of reporting it. -/
inductive Escapes (env : Environment σ) (substrate : Substrate σ) (d : Draft) (s : Session σ) :
    PlanningFailure → Prop where
  | composing {failure : PlanningFailure} (passesOn : d.ComposingPassesOn env s.drawn failure) :
    Escapes env substrate d s failure
  /-- A pipeline is prepared, and of its stages the first whose reply is no success gets one that is
  unclear. -/
  | answer {p : Pipeline} {s₁ : Session σ} {f : Fault}
    (prepared : d.prepare env (s.note (info ("Generating stage chain: " ++ d.settings.name.plain)))
      = (.ok p, s₁))
    (unclear : (Chain.replies substrate p.stages s₁.storage)[Chain.failsAt substrate p.stages
      s₁.storage]? = some (.unclear f)) :
    Escapes env substrate d s (.fault f)

theorem compile_escapes_iff :
    ((d.compile env s).1 = .error failure ∧ failure.isPlanning = false) ↔
      d.ComposingPassesOn env s.drawn failure := by
  unfold compile planned ComposingPassesOn
  cases hplans : d.plans with
  | error e =>
    simp only [Except.error.injEq, reduceCtorEq, false_and, exists_false, iff_false]
    rintro ⟨rfl, hforeign⟩
    simp [PlanningFailure.isPlanning] at hforeign
  | ok plans =>
    have hc := @compose_passesOn_iff σ env d.settings.intermediateRoot plans d.settings.endpoints
      failure _ (s.noteAll (closedRecords 0 plans))
    simp only [Except.ok.injEq, exists_eq_left']
    rw [show s.drawn = (s.noteAll (closedRecords 0 plans)).drawn from rfl, ← hc]
    generalize compose env d.settings.intermediateRoot plans d.settings.endpoints
      (s.noteAll (closedRecords 0 plans)) = r
    obtain ⟨e | p, s'⟩ := r <;> simp

/-- What goes wrong when the sink is prepared is a failure of planning. -/
theorem isPlanning_of_prepareSink {p : Pipeline} (h : (d.prepareSink p s).1 = .error failure) :
    failure.isPlanning = true := by
  unfold prepareSink at h
  split at h
  · simp at h
  · split at h
    · simp at h
    · split at h
      · simp at h
      · simp at h
      · cases h; rfl

theorem prepare_escapes_iff :
    ((d.prepare env s).1 = .error failure ∧ failure.isPlanning = false) ↔
      d.ComposingPassesOn env s.drawn failure := by
  rw [← compile_escapes_iff, prepare]
  obtain ⟨e | p, s₁⟩ := d.compile env s
  · rfl
  · have hsink := @isPlanning_of_prepareSink σ _ d s₁ failure p
    rcases hr : d.prepareSink p s₁ with ⟨e | u, s₂⟩
    · rw [hr] at hsink
      simp only [hr, Except.error.injEq, reduceCtorEq, false_and, iff_false]
      rintro ⟨rfl, hforeign⟩
      rw [hsink rfl] at hforeign
      exact absurd hforeign (by simp)
    · simp [hr]

/-- What a run passes on whose pipeline cannot be prepared. -/
theorem run_error_iff_of_unprepared {substrate : Substrate σ} (h : env.substrate = some substrate)
    {e : PlanningFailure} {s₁ : Session σ}
    (hp : d.prepare env (s.note (info ("Generating stage chain: " ++ d.settings.name.plain)))
      = (.error e, s₁)) : (d.run env s).1 = .error failure ↔ d.Escapes env substrate s failure := by
  have hcomposing : (e = failure ∧ failure.isPlanning = false) ↔
      d.ComposingPassesOn env s.drawn failure := by
    rw [show s.drawn = (s.note (info ("Generating stage chain: "
      ++ d.settings.name.plain))).drawn from rfl, ← prepare_escapes_iff, hp, Except.error.injEq]
  have hescapes : d.Escapes env substrate s failure ↔ d.ComposingPassesOn env s.drawn failure := by
    refine ⟨fun h => ?_, .composing⟩
    cases h with
    | composing hpassesOn => exact hpassesOn
    | answer hprepared _ => cases hp.symm.trans hprepared
  rw [hescapes, ← hcomposing, run, h]
  simp only [hp]
  by_cases he : e.isPlanning = true
  · rw [if_pos he]
    simp only [reduceCtorEq, false_iff]
    rintro ⟨rfl, hforeign⟩
    rw [he] at hforeign
    cases hforeign
  · rw [if_neg he, Except.error.injEq]
    exact ⟨fun hf => ⟨hf, hf ▸ by simpa using he⟩, fun hf => hf.1⟩

/-- What a run passes on that prepared its pipeline. -/
theorem run_error_iff_of_prepared {substrate : Substrate σ} (h : env.substrate = some substrate)
    {p : Pipeline} {s₁ : Session σ}
    (hp : d.prepare env (s.note (info ("Generating stage chain: " ++ d.settings.name.plain)))
      = (.ok p, s₁)) : (d.run env s).1 = .error failure ↔ d.Escapes env substrate s failure := by
  have hescapes : d.Escapes env substrate s failure ↔
      ∃ f, failure = .fault f ∧ (Chain.run env substrate p s₁).1 = .error f := by
    constructor
    · intro h
      cases h with
      | composing hpassesOn =>
        have hfails := (@prepare_escapes_iff σ _ env d
          (s.note (info ("Generating stage chain: " ++ d.settings.name.plain))) failure).2 hpassesOn
        rw [hp] at hfails
        cases hfails.1
      | @answer p' s₁' f hprepared hunclear =>
        cases hp.symm.trans hprepared
        exact ⟨f, rfl, Chain.runFrom_eq_error_iff.2 hunclear⟩
    · rintro ⟨f, rfl, hf⟩
      exact .answer hp (Chain.runFrom_eq_error_iff.1 hf)
  rw [hescapes, run, h]
  simp only [hp]
  split
  · -- where there is nothing to run there is no reply either
    next hempty =>
      have hidle : (Chain.run env substrate p s₁).1 = .ok ⟨[], none⟩ := by
        rw [Chain.run, List.isEmpty_iff.1 hempty]
        rfl
      simp [hidle]
  · generalize Chain.run env substrate p s₁ = r
    obtain ⟨f | r, s₂⟩ := r <;> simp [eq_comm]

/-- **What a run passes on**, over any storage. -/
theorem run_error_iff {substrate : Substrate σ} (h : env.substrate = some substrate) :
    (d.run env s).1 = .error failure ↔ d.Escapes env substrate s failure := by
  rcases hp : d.prepare env (s.note (info ("Generating stage chain: " ++ d.settings.name.plain)))
    with ⟨e | p, s₁⟩
  · exact run_error_iff_of_unprepared h hp
  · exact run_error_iff_of_prepared h hp

/-- **When a run reports.** A run on a substrate ends in a report, with status 0, 1 or 2, unless
composing its plans passes something on or a stage gets a reply that is unclear, and then it passes
on just that. The storage and who is told of progress have no other say in it. -/
theorem run_reports_iff (env : Environment σ) (d : Draft) (s : Session σ) {substrate : Substrate σ}
    (h : env.substrate = some substrate) :
    ((∃ report s', d.run env s = (.ok report, s') ∧ report.status ∈ [0, 1, 2]) ↔
      ∀ failure, ¬d.Escapes env substrate s failure) ∧
    ∀ failure, (∃ s', d.run env s = (.error failure, s')) ↔ d.Escapes env substrate s failure := by
  have herror (failure : PlanningFailure) := @run_error_iff σ _ env d s failure substrate h
  generalize d.run env s = r at herror ⊢
  obtain ⟨e | report, s'⟩ := r
  · refine ⟨⟨fun ⟨_, _, hr, _⟩ => absurd hr (by simp), fun hnone => ?_⟩, fun failure => ?_⟩
    · exact absurd ((herror e).1 rfl) (hnone e)
    · rw [← herror]; simp
  · refine ⟨⟨fun _ failure hf => ?_, fun _ => ⟨report, s', rfl, report.status_mem⟩⟩,
      fun failure => ?_⟩
    · exact absurd ((herror failure).2 hf) (by simp)
    · rw [← herror]; simp

/-- The sample reports although no name can be drawn and nothing can be deleted. -/
theorem run_reports_iff_sample :
    let env : Environment MemoryStorage :=
      { Environment.counting MemoryStorage with
        names := fun _ => .error (.raised .runtime [.text "out of names"])
        substrate := some (.dryRun true) }
    let s : Session MemoryStorage :=
      .start { MemoryStorage.ofList ["in"] with eraseFault := fun _ => some (.raised .system []) }
    env.substrate = some (.dryRun true) ∧
      (∀ failure, ¬sample.Escapes env (.dryRun true) s failure) ∧
      ∃ report s', sample.run env s = (.ok report, s') ∧ report.status ∈ [0, 1, 2] := by
  intro env s
  have hsubstrate : env.substrate = some (.dryRun true) := rfl
  have hnone : ∀ failure, ¬sample.Escapes env (.dryRun true) s failure := by
    intro failure h
    cases h with
    | composing hpassesOn =>
      obtain ⟨plans, -, h⟩ := hpassesOn
      cases h with
      | source _ hkey => exact absurd hkey (by decide)
      | name _ _ _ hdraw => cases hdraw
    | answer _ hunclear =>
      have hscript : ∀ (stage : Stage) (t : MemoryStorage),
          (Substrate.submit (.dryRun true) stage t).1 = .answered true := fun _ _ => rfl
      rw [Chain.replies_of_script hscript, List.getElem?_map] at hunclear
      simp at hunclear
  exact ⟨hsubstrate, hnone, (run_reports_iff env sample s hsubstrate).1.2 hnone⟩

/-- Settings in which the format of the source is a list. -/
def listedSettings : Settings where
  path := "graphstage.yaml"
  name := .text "listed"
  graphInput := [(.text "format", .list [.text "graphson"]),
    (.text "location", .text "/data/graph.json")]
  graphOutput := [(.text "format", .text "graphson"), (.text "location", .text "/out")]
  statisticsOutput := []
  intermediate := [(.text "root", .text "/work")]
  logging := [(.text "console", .bool false)]
  properties := []

/-- Where there is no parameter, there is none without a name. -/
theorem keys_bare : ∀ k ∈ (Table.ofList [] : Table String ConfigValue).keys, k ≠ "" := by decide

/-- The identity alone, by those settings. -/
def listedDraft : Draft :=
  ((start listedSettings).append (.onGraph .identity (.ofList []) keys_bare)).2

/-- **A run need not report**: settings load in which the format of the source is a list, and a run
by them passes on that a list cannot be looked up. -/
theorem report_missing :
    let env : Environment MemoryStorage :=
      { Environment.counting MemoryStorage with substrate := some (.dryRun true) }
    let s : Session MemoryStorage := .start (.ofList ["/data/graph.json"])
    Settings.ofValue "graphstage.yaml" (.map [
        (.text "pipeline", .map [(.text "name", .text "listed")]),
        (.text "graph", .map [(.text "input", .map listedSettings.graphInput),
          (.text "output", .map listedSettings.graphOutput)]),
        (.text "intermediate", .map listedSettings.intermediate),
        (.text "logging", .map listedSettings.logging)]) = .ok listedSettings ∧
      (start listedSettings).append (.onGraph .identity (.ofList []) keys_bare)
        = (.ok (), listedDraft) ∧
      (listedDraft.run env s).1 = .error (.fault (.unhashable "list")) ∧
      ¬∃ report s', listedDraft.run env s = (.ok report, s') := by
  intro env s
  have herror : (listedDraft.run env s).1 = .error (.fault (.unhashable "list")) :=
    (run_error_iff rfl).2
      (.composing ⟨_, rfl, .source (List.ne_nil_of_length_pos (by decide)) (by decide)⟩)
  refine ⟨by decide +kernel, rfl, herror, ?_⟩
  rintro ⟨report, s', h⟩
  rw [h] at herror
  cases herror

end Draft

end StageChain
