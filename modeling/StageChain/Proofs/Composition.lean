import StageChain.Proofs.Endpoints
import StageChain.Proofs.Leasing
import StageChain.Proofs.Partition
import StageChain.Proofs.Wiring

/-!
# What composing comes to

Composing plans ends in one of four ways: there is nothing to compose, the source is refused, a lease
or the sink is refused and all leases are given back, or the plans become a pipeline. Which of them it
is follows from the names and the endpoints alone; the storage has no say in it.

* `Composition`: the four ways; `composition`: there is no other.
* `RolledBack`, `Wired`: what the last two leave behind.
* `compose_ok_iff`: **when plans become a pipeline**, and how it is wired.
-/

namespace StageChain

namespace Wiring

variable {σ : Type}

/-- The refusal of a source. -/
abbrev SourceRefused (e : Endpoints) : PlanningFailure → Prop :=
  Refused "source" Format.sources .noSourceLocation e.sourceFormat e.sourceLocation

/-- The refusal of a sink. -/
abbrev SinkRefused (k : Sink) : PlanningFailure → Prop :=
  Refused k.role k.supported (.noSinkLocation k.role) k.format k.location

/-- Why composing goes no further than the leases of some names, where so many leases are needed. -/
inductive Interrupted (env : Environment σ) (root : String) (drawn leases : Nat) (k : Sink)
    (names : List String) : PlanningFailure → Prop where
  /-- A draw fails or repeats a location. -/
  | lease {f : Fault} (fewer : names.length < leases)
    (refused : Leases.Refuses env root drawn names f) :
    Interrupted env root drawn leases k names (.fault f)
  /-- All leases are held, and the sink is refused. -/
  | sink {failure : PlanningFailure} (complete : names.length = leases)
    (refused : SinkRefused k failure) : Interrupted env root drawn leases k names failure

/-- What composing leaves behind if it fails after the source was accepted: the leased locations are
cleared in order. -/
structure RolledBack [Storage σ] (env : Environment σ) (root : String) (plans : List Plan)
    (e : Endpoints) (s s' : Session σ) (names : List String) (original : PlanningFailure) :
    Prop where
  source : ∃ name, Accepts Format.sources e.sourceFormat e.sourceLocation name
  grants : Leases.Grants env root s.drawn names
  interrupted :
    Interrupted env root s.drawn (plans.length - 1) (sinkOf e (isDerivation plans)) names original
  drawn : Leases.Spends env root s.drawn names s'.drawn
  storage : s'.storage = (names.map (joinLocation root)).foldl Chain.cleared s.storage
  quiet : s.Quiet s'

/-- What composing leaves behind if it makes a pipeline. -/
structure Wired (env : Environment σ) (root : String) (plans : List Plan) (e : Endpoints)
    (s s' : Session σ) (names : List String) (sourceFormat sinkFormat : String) (p : Pipeline) :
    Prop where
  source : Accepts Format.sources e.sourceFormat e.sourceLocation sourceFormat
  sink : Accepts (sinkOf e (isDerivation plans)).supported (sinkOf e (isDerivation plans)).format
    (sinkOf e (isDerivation plans)).location sinkFormat
  grants : Leases.Grants env root s.drawn names
  length : names.length = plans.length - 1
  stages : p.stages = wire e.properties
    ⟨(sinkOf e (isDerivation plans)).location.getD "", sinkFormat⟩ 0
    ⟨e.sourceLocation.getD "", sourceFormat⟩ plans p.intermediates
  intermediates : p.intermediates = names.map (joinLocation root)
  isDerivation : p.isDerivation = isDerivation plans
  drawn : s'.drawn = s.drawn + names.length
  storage : s'.storage = s.storage
  quiet : s.Quiet s'

variable {env : Environment σ} {root : String} {plans : List Plan} {e : Endpoints}
  {s s' : Session σ} {p : Pipeline}

/-- **The four ways in which composing ends.** -/
inductive Composition [Storage σ] (env : Environment σ) (root : String) (plans : List Plan)
    (e : Endpoints) (s : Session σ) : Except PlanningFailure Pipeline × Session σ → Prop where
  | idle (none : plans = []) : Composition env root plans e s (.ok .empty, s)
  | refused {failure : PlanningFailure} (some : plans ≠ []) (refused : SourceRefused e failure) :
    Composition env root plans e s (.error failure, s)
  | rolledBack {names : List String} {original : PlanningFailure} {s' : Session σ}
    (some : plans ≠ []) (left : RolledBack env root plans e s s' names original) :
    Composition env root plans e s (.error (sinkFailure original), s')
  | wired {names : List String} {source sink : String} {p : Pipeline} {s' : Session σ}
    (some : plans ≠ []) (left : Wired env root plans e s s' names source sink p) :
    Composition env root plans e s (.ok p, s')

/-- Composing ends in one of these ways. -/
theorem composition [Storage σ] (env : Environment σ) (root : String) (plans : List Plan)
    (e : Endpoints) (s : Session σ) :
    Composition env root plans e s (compose env root plans e s) := by
  by_cases hne : plans = []
  · subst hne
    exact .idle rfl
  unfold compose
  rw [if_neg (by simpa using hne)]
  split
  case h_1 err hsource =>
    rw [checkSource_eq] at hsource
    exact .refused hne (checkEnd_error hsource)
  case h_2 source hsource =>
    rw [checkSource_eq, checkEnd_ok_iff] at hsource
    obtain ⟨names, fault, s₁, hleases, h⟩ :=
      Leases.leasing_acquireAll env root (plans.length - 1) s
    simp only
    split
    case h_1 f l s₂ ha =>
      obtain ⟨rfl, rfl, rfl⟩ : some f = fault ∧ l = .ofNames root names ∧ s₂ = s₁ := by
        simpa using ha.symm.trans hleases
      obtain ⟨hfewer, hrefused⟩ := h.refused f rfl
      obtain ⟨hstorage, hdrawn, hquiet⟩ := Leases.rollback_frame (.ofNames root names) s₂
      have left :
          RolledBack env root plans e s (rollback (.ofNames root names) s₂) names (.fault f) :=
        { source := ⟨source, hsource⟩
          grants := h.grants
          interrupted := .lease hfewer hrefused
          drawn := .inr ⟨⟨f, hrefused⟩, hdrawn.trans h.drawn⟩
          storage := hstorage.trans (by rw [h.storage]; rfl)
          quiet := h.quiet.trans hquiet }
      exact .rolledBack hne left
    case h_2 l s₂ ha =>
      obtain ⟨rfl, rfl, rfl⟩ : none = fault ∧ l = .ofNames root names ∧ s₂ = s₁ := by
        simpa using ha.symm.trans hleases
      have hlength := h.complete rfl
      split
      case h_1 err hsink =>
        rw [checkSink_eq] at hsink
        obtain ⟨hstorage, hdrawn, hquiet⟩ := Leases.rollback_frame (.ofNames root names) s₂
        have left : RolledBack env root plans e s (rollback (.ofNames root names) s₂) names err :=
          { source := ⟨source, hsource⟩
            grants := h.grants
            interrupted := .sink hlength (checkEnd_error hsink)
            drawn := .inl (hdrawn.trans h.drawn)
            storage := hstorage.trans (by rw [h.storage]; rfl)
            quiet := h.quiet.trans hquiet }
        exact .rolledBack hne left
      case h_2 sink hsink =>
        rw [checkSink_eq, checkEnd_ok_iff] at hsink
        refine .wired hne (?_ : Wired env root plans e s _ names source sink _)
        exact
          { source := hsource
            sink := hsink
            grants := h.grants
            length := hlength
            stages := rfl
            intermediates := rfl
            isDerivation := rfl
            drawn := h.drawn
            storage := h.storage
            quiet := h.quiet.note _ }

/-! ## Pipelines -/

theorem wired_of_ok [Storage σ] (hne : plans ≠ []) (h : compose env root plans e s = (.ok p, s')) :
    ∃ names source sink, Wired env root plans e s s' names source sink p := by
  have hc := composition env root plans e s
  rw [h] at hc
  cases hc with
  | idle hnil => exact absurd hnil hne
  | wired _ left => exact ⟨_, _, _, left⟩

/-- The configuration of the stage at a place. -/
theorem wire_configuration {properties : Table String Value} {output input : Place} {k i : Nat}
    {ps : List Plan} {ls : List String} {stage : Stage}
    (h : (wire properties output k input ps ls)[i]? = some stage) :
    stage.configuration = stageConfiguration properties stage.plan := by
  induction ps generalizing k i input ls with
  | nil => simp [wire] at h
  | cons p ps ih =>
    unfold wire at h
    cases i with
    | zero =>
      rw [List.getElem?_cons_zero, Option.some.injEq] at h
      rw [← h]
    | succ i => exact ih (by simpa using h)

/-- **How the stages of plans are wired** between their endpoints. -/
structure Composed (env : Environment σ) (root : String) (plans : List Plan) (e : Endpoints)
    (s : Session σ) (p : Pipeline) : Prop where
  /-- There is one stage for each plan, in order. -/
  stages : p.stages.map (·.plan) = plans
  derivation : p.isDerivation = isDerivation plans
  /-- The intermediate locations are those of the names that are drawn, and no two are the same. -/
  intermediates : ∃ names, Leases.Grants env root s.drawn names ∧
    names.length = plans.length - 1 ∧ p.intermediates = names.map (joinLocation root)
  distinct : p.intermediates.Nodup
  stage : ∀ (i : Nat) (stage : Stage), p.stages[i]? = some stage → stage.index = i ∧
    stage.configuration = stageConfiguration e.properties stage.plan ∧
    stage.inputIsIntermediate = decide (0 < i) ∧
    stage.outputIsIntermediate = decide (i < plans.length - 1)
  /-- The first stage reads the source in the format under which that is accepted. -/
  first : ∀ stage, p.stages[0]? = some stage → stage.inputLocation = e.sourceLocation.getD "" ∧
    Accepts Format.sources e.sourceFormat e.sourceLocation stage.inputFormat
  /-- The location between two stages is what one of them writes and the other one reads. -/
  between : ∀ (i : Nat) (a b : Stage), p.stages[i]? = some a → p.stages[i + 1]? = some b →
    p.intermediates[i]? = some a.outputLocation ∧ b.inputLocation = a.outputLocation ∧
      a.outputFormat = "sequence-file" ∧ b.inputFormat = "sequence-file"
  /-- The last stage writes the sink in the format under which that is accepted. -/
  last : ∀ stage, p.stages[plans.length - 1]? = some stage →
    stage.outputLocation = (sinkOf e (isDerivation plans)).location.getD "" ∧
    Accepts (sinkOf e (isDerivation plans)).supported (sinkOf e (isDerivation plans)).format
      (sinkOf e (isDerivation plans)).location stage.outputFormat

namespace Wired

variable {names : List String} {source sink : String}

theorem length_intermediates (h : Wired env root plans e s s' names source sink p) :
    p.intermediates.length = plans.length - 1 := by
  rw [h.intermediates, List.length_map, h.length]

theorem length_stages (h : Wired env root plans e s s' names source sink p) :
    p.stages.length = plans.length := by rw [h.stages, wire_length]

theorem plans_stages (h : Wired env root plans e s s' names source sink p) :
    p.stages.map (·.plan) = plans := by
  apply List.ext_getElem?
  intro i
  rw [List.getElem?_map]
  cases hi : p.stages[i]? with
  | some stage => rw [Option.map_some, (wire_stage h.length_intermediates (h.stages ▸ hi)).2.1]
  | none =>
    rw [List.getElem?_eq_none_iff, h.length_stages] at hi
    rw [Option.map_none, List.getElem?_eq_none hi]

theorem composed (h : Wired env root plans e s s' names source sink p) :
    Composed env root plans e s p := by
  have hat {i : Nat} {stage : Stage} (hi : p.stages[i]? = some stage) :=
    wire_stage h.length_intermediates (h.stages ▸ hi)
  refine
    { stages := h.plans_stages
      derivation := h.isDerivation
      intermediates := ⟨names, h.grants, h.length, h.intermediates⟩
      distinct := h.intermediates ▸ h.grants.nodup
      stage := ?_
      first := ?_
      between := ?_
      last := ?_ }
  · intro i stage hi
    obtain ⟨hindex, -, -, -, hin, hout⟩ := hat hi
    rw [Nat.zero_add] at hindex hin
    rw [h.length_intermediates] at hout
    exact ⟨hindex, wire_configuration (h.stages ▸ hi), hin, hout⟩
  · intro stage hi
    have hplace := (hat hi).2.2.1
    rw [List.getElem?_cons_zero, Option.some.injEq, Place.mk.injEq] at hplace
    exact ⟨hplace.1.symm, hplace.2 ▸ h.source⟩
  · intro i a b ha hb
    have hlt : i < (p.intermediates.map between).length := by
      have := (List.getElem?_eq_some_iff.1 hb).1
      rw [h.length_stages] at this
      rw [List.length_map, h.length_intermediates]; omega
    have hwrites := (hat ha).2.2.2.1
    have hreads := (hat hb).2.2.1
    rw [List.getElem?_append_left hlt] at hwrites
    rw [List.getElem?_cons_succ] at hreads
    -- both places are the one that the leased location stands for
    obtain ⟨t, ht, hplace⟩ := Option.map_eq_some_iff.1 (List.getElem?_map .. ▸ hwrites)
    obtain ⟨hout, houtFormat⟩ := Place.mk.inj hplace
    obtain ⟨hin, hinFormat⟩ := Place.mk.inj (Option.some.inj (hreads.symm.trans hwrites))
    exact ⟨hout ▸ ht, hin, houtFormat.symm, hinFormat.trans houtFormat.symm⟩
  · intro stage hi
    have hplace := (hat hi).2.2.2.1
    rw [List.getElem?_append_right (by rw [List.length_map, h.length_intermediates]),
      List.length_map, h.length_intermediates, Nat.sub_self, List.getElem?_cons_zero,
      Option.some.injEq, Place.mk.injEq] at hplace
    exact ⟨hplace.1.symm, hplace.2 ▸ h.sink⟩

end Wired

/-- **When plans become a pipeline, and which one.** The source has to be accepted, the names that are
drawn have to grant a lease for every two stages in a row, and the sink has to be accepted. Nothing
else is asked, and the pipeline is then wired between its endpoints. -/
theorem compose_ok_iff [Storage σ] (env : Environment σ) (root : String) {plans : List Plan}
    (hne : plans ≠ []) (e : Endpoints) (s : Session σ) :
    ((∃ p s', compose env root plans e s = (.ok p, s')) ↔
      (∃ source, Accepts Format.sources e.sourceFormat e.sourceLocation source) ∧
      (∃ names, names.length = plans.length - 1 ∧ Leases.Grants env root s.drawn names) ∧
      ∃ sink, Accepts (sinkOf e (isDerivation plans)).supported
        (sinkOf e (isDerivation plans)).format (sinkOf e (isDerivation plans)).location sink) ∧
    ∀ p s', compose env root plans e s = (.ok p, s') → Composed env root plans e s p ∧
      s'.storage = s.storage ∧ s'.drawn = s.drawn + (plans.length - 1) := by
  refine ⟨⟨?_, ?_⟩, ?_⟩
  · rintro ⟨p, s', h⟩
    obtain ⟨names, source, sink, left⟩ := wired_of_ok hne h
    exact ⟨⟨source, left.source⟩, ⟨names, left.length, left.grants⟩, sink, left.sink⟩
  · rintro ⟨⟨source, hsource⟩, ⟨names, hlength, hgrants⟩, sink, hsink⟩
    have hc := composition env root plans e s
    generalize compose env root plans e s = r at hc
    cases hc with
    | idle hnil => exact absurd hnil hne
    | wired _ left => exact ⟨_, _, rfl⟩
    | refused _ hrefused => exact absurd hrefused hsource.not_refused
    | rolledBack _ left =>
      cases left.interrupted with
      | lease hfewer hrefused =>
        have := hrefused.length_le left.grants hgrants
        omega
      | sink _ hrefused => exact absurd hrefused hsink.not_refused
  · intro p s' h
    obtain ⟨names, source, sink, left⟩ := wired_of_ok hne h
    exact ⟨left.composed, left.storage, left.length ▸ left.drawn⟩

/-- The three stages of the sample, from a source whose format is written with blanks and capitals to
locations under a root. -/
theorem compose_ok_iff_sample : sampleFusion.plans ≠ [] ∧ ∃ p s',
    compose (.counting MemoryStorage) "/tmp" sampleFusion.plans
      { Endpoints.sample with sourceFormat := .text " GraphSON\t" } (.start (.ofList []))
      = (.ok p, s') ∧
    p.intermediates = ["/tmp/tmp-0", "/tmp/tmp-1"] ∧
    p.stages.map (fun stage => (stage.inputLocation, stage.inputFormat))
      = [("in", "graphson"), ("/tmp/tmp-0", "sequence-file"), ("/tmp/tmp-1", "sequence-file")] := by
  have hne : sampleFusion.plans ≠ [] := List.ne_nil_of_length_pos (by decide)
  obtain ⟨hiff, -⟩ := compose_ok_iff (.counting MemoryStorage) "/tmp" hne
    { Endpoints.sample with sourceFormat := .text " GraphSON\t" } (.start (.ofList []))
  obtain ⟨p, s', h⟩ := hiff.2 ⟨⟨"graphson", rfl, rfl, by decide, by decide⟩,
    ⟨["tmp-0", "tmp-1"], rfl, by
      rintro (_ | _ | i) name hi
      · cases hi; rfl
      · cases hi; rfl
      · simp at hi, by decide⟩,
    "graphson", rfl, rfl, by decide, by decide⟩
  refine ⟨hne, p, s', h, ?_⟩
  cases h
  exact ⟨rfl, rfl⟩

end Wiring

end StageChain
