import StageChain.Proofs.Protocol

/-!
# What becomes of the source

A run deletes locations in three places: leases are given back when no pipeline can be prepared, the
sink is overwritten, and inputs are released. Each of them deletes all that lies below a location too.
What is stored at a location survives a run if none of them is at or above it, and the sink is the one
of them that the settings may put there.

* `Spares`: a run clears nothing at or above a location; `stored_run`: **then the location stays**.
* `holds_first_iff`: what a run leaves of a location before its first stage.
* `source_kept`: **when the source survives a run.**
* `source_lost`: a sink above the source takes it along, and the first stage does not find its input.
-/

namespace StageChain

/-- A substrate that takes nothing out of the storage. -/
def Substrate.Keeps (substrate : Substrate MemoryStorage) : Prop :=
  ∀ stage m, ∀ l ∈ m.locations, l ∈ (substrate.submit stage m).2.locations

theorem Substrate.Keeps.dryRun (marksOutputs : Bool) : (Substrate.dryRun marksOutputs).Keeps := by
  intro stage m l hl
  cases marksOutputs with
  | false => exact hl
  | true => exact MemoryStorage.mem_add.2 (.inl hl)

/-! ## What a run spares -/

namespace Chain

variable {substrate : Substrate MemoryStorage} {p : Pipeline} {m : MemoryStorage} {l : String}

/-- A location that is apart from the intermediate ones stays while stages are submitted and their
inputs released. -/
theorem mem_storageAt (hp : p.Linked) (hkeeps : substrate.Keeps)
    (hapart : ∀ t ∈ p.intermediates, isApart l t = true) (hl : l ∈ m.locations) {i : Nat}
    (hi : i ≤ p.stages.length) : l ∈ (storageAt substrate p.stages m i).locations := by
  induction i with
  | zero => exact hl
  | succ i ih =>
    have hstage := List.getElem?_eq_getElem (l := p.stages) (show i < p.stages.length by omega)
    have hsubmitted := hkeeps p.stages[i] _ l (ih (by omega))
    rw [storageAt_succ substrate hstage, tidied, hp.isIntermediate i _ hstage]
    cases i with
    | zero => simpa using hsubmitted
    | succ i =>
      rw [if_pos (by simp)]
      exact MemoryStorage.mem_cleared hsubmitted fun _ =>
        hapart _ (List.mem_of_getElem? (hp.input i _ hstage))

/-- It stays to the end of the run. -/
theorem mem_run (hp : p.Linked) (hkeeps : substrate.Keeps)
    (hapart : ∀ t ∈ p.intermediates, isApart l t = true) (env : Environment MemoryStorage)
    {s : Session MemoryStorage} (hl : l ∈ s.storage.locations) :
    l ∈ (run env substrate p s).2.storage.locations := by
  have hle := failsAt_le substrate p.stages s.storage
  rw [run, storage_runFrom]
  split
  · exact hkeeps _ _ l (mem_storageAt hp hkeeps hapart hl hle)
  · exact mem_storageAt hp hkeeps hapart hl (Nat.le_refl _)

end Chain

namespace Draft

/-- The sink that a run of a draft overwrites, if it comes to run stages. -/
def overwrites? (d : Draft) : Option String :=
  match d.plans with
  | .ok plans => (Wiring.sinkOf d.settings.endpoints (isDerivation plans)).location.filter
      fun sink => d.settings.overwrite && sink ≠ ""
  | .error _ => none

variable {env : Environment MemoryStorage} {d : Draft} {s s' s₁ : Session MemoryStorage}
  {names : List String} {p : Pipeline} {l : String} {m : MemoryStorage}

/-- A pipeline that writes to the sink that the plans select overwrites what the settings say. -/
theorem overwritten?_of_sink {plans : List Plan} (hplans : d.plans = .ok plans)
    (hsink : p.sinkLocation?
      = some ((Wiring.sinkOf d.settings.endpoints (isDerivation plans)).location.getD "")) :
    d.overwritten? p = d.overwrites? := by
  unfold overwritten? overwrites?
  rw [hsink, hplans]
  cases hlocation : (Wiring.sinkOf d.settings.endpoints (isDerivation plans)).location with
  | none => simp [hlocation]
  | some location => simp [hlocation]

/-- The sink of a pipeline that a draft is compiled into is the one that the settings select. -/
theorem Planned.overwritten?_eq {drawn : Nat} (h : Planned env d drawn names p)
    (hsome : p.stages ≠ []) : d.overwritten? p = d.overwrites? := by
  cases hsink : p.sinkLocation? with
  | none => exact absurd (p.sinkLocation?_eq_none_iff.1 hsink) hsome
  | some sink =>
    obtain ⟨plans, hplans, rfl⟩ := h.sink sink hsink
    exact overwritten?_of_sink hplans hsink

/-- **What a run of a draft spares**: no location that may be leased is at or above it, nor is the
sink if that is overwritten and no fault comes up there. -/
structure Spares (env : Environment MemoryStorage) (d : Draft) (m : MemoryStorage) (l : String) :
    Prop where
  names : ∀ n name, env.names n = .ok name →
    isApart l (joinLocation d.settings.intermediateRoot name) = true
  sink : ∀ sink ∈ d.overwrites?, m.clears sink = true → isApart l sink = true

theorem Spares.leases {drawn : Nat} (h : d.Spares env m l)
    (hgrants : Leases.Grants env d.settings.intermediateRoot drawn names) :
    ∀ t ∈ names.map (joinLocation d.settings.intermediateRoot), isApart l t = true := by
  intro t ht
  obtain ⟨name, hname, rfl⟩ := List.mem_map.1 ht
  obtain ⟨i, hi⟩ := List.mem_iff_getElem?.1 hname
  exact h.names _ name (hgrants.draws i name hi)

/-- Preparing a pipeline with stages leaves what is spared. -/
theorem Prepared.mem_of_spares (left : Prepared env d s s₁ names p) (hsome : p.stages ≠ [])
    (h : d.Spares env s.storage l) (hl : l ∈ s.storage.locations) : l ∈ s₁.storage.locations := by
  rw [left.storage, MemoryStorage.mem_clearedIfAny, left.planned.overwritten?_eq hsome]
  exact ⟨hl, h.sink⟩

/-- **What a run spares stays**, at every stage that is handed over and to the end. -/
theorem stored_run (env : Environment MemoryStorage) (d : Draft) (s : Session MemoryStorage)
    (hkeeps : ∀ substrate ∈ env.substrate, substrate.Keeps) (h : d.Spares env s.storage l)
    (hl : l ∈ s.storage.locations) :
    (∀ x ∈ s.handedOver (d.run env s).2, l ∈ x.storage.locations) ∧
      l ∈ (d.run env s).2.storage.locations := by
  cases hsubstrate : env.substrate with
  | none =>
    have hrun : (d.run env s).2 = s := by rw [run, hsubstrate]
    rw [hrun, (Session.Quiet.refl s).handedOver_eq_nil]
    exact ⟨by simp, hl⟩
  | some substrate =>
    have hkeeps := hkeeps substrate hsubstrate
    have hending := ending hsubstrate d s
    generalize (d.run env s).1 = r, (d.run env s).2 = s' at hending ⊢
    cases hending with
    | unprepared _ left =>
      rw [left.quiet.handedOver_eq_nil, left.storage, MemoryStorage.mem_foldl_cleared]
      exact ⟨by simp, hl, fun t ht _ => h.leases left.grants t ht⟩
    | @idle names p _ left hnone =>
      have hsink : d.overwritten? p = none := by
        rw [overwritten?, p.sinkLocation?_eq_none_iff.2 hnone]
        rfl
      rw [left.quiet.handedOver_eq_nil, left.storage, hsink]
      exact ⟨by simp, hl⟩
    | @executed names p s₁ _ left hsome _ hstorage hsubmissions =>
      have hlinked := left.planned.linked
      have hapart := left.planned.intermediates ▸ h.leases left.planned.grants
      have hmem := left.mem_of_spares hsome h hl
      refine ⟨?_, hstorage ▸ Chain.mem_run hlinked hkeeps hapart env hmem⟩
      intro x hx
      rw [left.handedOver_eq hsubmissions] at hx
      obtain ⟨i, hi⟩ := List.mem_iff_getElem?.1 hx
      obtain ⟨-, hx, hle⟩ := Chain.getElem?_handedOver hi
      rw [hx]
      exact Chain.mem_storageAt hlinked hkeeps hapart hmem
        (hle.trans (Chain.failsAt_le substrate p.stages s₁.storage))

/-- **What a run leaves before its first stage**: a location is held if something at or below it is
stored that the sink does not take along. -/
theorem holds_first_iff (env : Environment MemoryStorage) (d : Draft) (s : Session MemoryStorage)
    {x : Submission MemoryStorage} (hx : x ∈ (s.handedOver (d.run env s).2).head?)
    (location : String) :
    x.storage.holds location = true ↔ ∃ l ∈ s.storage.locations, isApart l location = false ∧
      ∀ sink ∈ d.overwrites?, s.storage.clears sink = true → isApart l sink = true := by
  cases hsubstrate : env.substrate with
  | none => simp [run, hsubstrate, (Session.Quiet.refl s).handedOver_eq_nil] at hx
  | some substrate =>
    have hending := ending hsubstrate d s
    generalize (d.run env s).1 = r, (d.run env s).2 = s' at hending hx
    cases hending with
    | unprepared _ left => simp [left.quiet.handedOver_eq_nil] at hx
    | idle left _ => simp [left.quiet.handedOver_eq_nil] at hx
    | @executed names p s₁ _ left hsome _ _ hsubmissions =>
      rw [left.handedOver_eq hsubmissions, List.head?_eq_getElem?] at hx
      rw [(Chain.getElem?_handedOver hx).2.1, Chain.storageAt_zero, MemoryStorage.holds_iff,
        left.storage, left.planned.overwritten?_eq hsome]
      simp only [MemoryStorage.mem_clearedIfAny, and_assoc]
      exact exists_congr fun l => and_congr_right fun _ => and_comm

/-- A sink that is overwritten takes along all that is at or below it, whoever needs it. -/
theorem lost_first (env : Environment MemoryStorage) (d : Draft) (s : Session MemoryStorage)
    {x : Submission MemoryStorage} (hx : x ∈ (s.handedOver (d.run env s).2).head?)
    {sink location : String} (hsink : sink ∈ d.overwrites?) (hclears : s.storage.clears sink = true)
    (hbelow : isApart location sink = false) : x.storage.holds location = false := by
  rw [← Bool.not_eq_true, holds_first_iff env d s hx]
  rintro ⟨l, -, hat, hapart⟩
  have hl := hapart sink hsink hclears
  rw [isApart_eq_false_trans hat hbelow] at hl
  exact absurd hl (by simp)

/-- **When the source survives a run** on a substrate that takes nothing out. The first stage finds it
if the sink does not take along all that is stored there. It stays to the end if something is stored
there that the run spares, as the source itself is if no lease and no sink that is overwritten lies
at or above it. -/
theorem source_kept (env : Environment MemoryStorage) (d : Draft) (s : Session MemoryStorage)
    (hkeeps : ∀ substrate ∈ env.substrate, substrate.Keeps) :
    ∀ source ∈ d.settings.sourceLocation?,
      (∀ x ∈ (s.handedOver (d.run env s).2).head?, x.storage.holds source = true ↔
        ∃ l ∈ s.storage.locations, isApart l source = false ∧
          ∀ sink ∈ d.overwrites?, s.storage.clears sink = true → isApart l sink = true) ∧
      ∀ l ∈ s.storage.locations, isApart l source = false → d.Spares env s.storage l →
        (∀ x ∈ s.handedOver (d.run env s).2, x.storage.holds source = true) ∧
          (d.run env s).2.storage.holds source = true := by
  intro source _
  refine ⟨fun x hx => holds_first_iff env d s hx source, ?_⟩
  intro l hl hat hspared
  obtain ⟨hhanded, hfinal⟩ := stored_run env d s hkeeps hspared hl
  refine ⟨fun x hx => ?_, ?_⟩
  · exact MemoryStorage.holds_iff.2 ⟨l, hhanded x hx, hat⟩
  · exact MemoryStorage.holds_iff.2 ⟨l, hfinal, hat⟩

/-- The sample is run dry from a directory to one that is overwritten: the source is still there. -/
theorem source_kept_sample :
    let env : Environment MemoryStorage :=
      { Environment.counting MemoryStorage with
        names := fun n => .ok (if n = 0 then "tmp-a" else "tmp-b")
        substrate := some (.dryRun true) }
    let s : Session MemoryStorage := .start (.ofList ["in/part", "out/old"])
    (∀ substrate ∈ env.substrate, substrate.Keeps) ∧ "in" ∈ sample.settings.sourceLocation? ∧
      "in/part" ∈ s.storage.locations ∧ isApart "in/part" "in" = false ∧
      sample.Spares env s.storage "in/part" ∧ (sample.run env s).2.storage.holds "in" = true ∧
      (sample.run env s).2.storage.deleted = ["out", "tmp-a", "tmp-b"] := by
  intro env s
  have hkeeps : ∀ substrate ∈ env.substrate, substrate.Keeps := by
    rintro _ ⟨⟩
    exact .dryRun true
  have hspared : sample.Spares env s.storage "in/part" := by
    refine ⟨?_, by decide +kernel⟩
    rintro n _ ⟨⟩
    by_cases h0 : n = 0
    · rw [if_pos h0]; decide +kernel
    · rw [if_neg h0]; decide +kernel
  have hsource : "in" ∈ sample.settings.sourceLocation? := by decide +kernel
  have hl : "in/part" ∈ s.storage.locations := by decide +kernel
  have hat : isApart "in/part" "in" = false := by decide +kernel
  obtain ⟨-, hkept⟩ := source_kept env sample s hkeeps "in" hsource
  exact ⟨hkeeps, hsource, hl, hat, hspared, (hkept "in/part" hl hat hspared).2, by decide +kernel⟩

/-- Settings by which a graph is copied over the directory that it lies in. -/
def enclosingSettings : Settings where
  path := "graphstage.yaml"
  name := .text "copy"
  graphInput := [(.text "format", .text "graphson"), (.text "location", .text "/data/graph.json")]
  graphOutput := [(.text "format", .text "graphson"), (.text "location", .text "/data"),
    (.text "overwrite", .bool true)]
  statisticsOutput := []
  intermediate := [(.text "root", .text "/work")]
  logging := [(.text "console", .bool false)]
  properties := []

/-- **The source may be lost**: a sink above it takes it along, so that the first stage does not find
its input, although no lease lies at or above the source and the substrate takes nothing out. -/
theorem source_lost :
    let env : Environment MemoryStorage :=
      { Environment.counting MemoryStorage with
        names := fun _ => .ok "tmp"
        substrate := some (.dryRun true) }
    let s : Session MemoryStorage := .start (.ofList ["/data/graph.json"])
    Settings.ofValue "graphstage.yaml" (.map [
        (.text "pipeline", .map [(.text "name", .text "copy")]),
        (.text "graph", .map [(.text "input", .map enclosingSettings.graphInput),
          (.text "output", .map enclosingSettings.graphOutput)]),
        (.text "intermediate", .map enclosingSettings.intermediate),
        (.text "logging", .map enclosingSettings.logging)]) = .ok enclosingSettings ∧
      enclosingSettings.sourceLocation? = some "/data/graph.json" ∧
      (Substrate.dryRun true).Keeps ∧
      (∀ n name, env.names n = .ok name →
        isApart "/data/graph.json" (joinLocation enclosingSettings.intermediateRoot name) = true) ∧
      s.storage.holds "/data/graph.json" = true ∧
      ∃ d, (start enclosingSettings).append (.onGraph .identity (.ofList []) (by decide))
          = (.ok (), d) ∧
        (∃ x ∈ (s.handedOver (d.run env s).2).head?, x.storage.holds "/data/graph.json" = false) ∧
        (d.run env s).2.storage.holds "/data/graph.json" = false := by
  intro env s
  have happend : (start enclosingSettings).append (.onGraph .identity (.ofList []) (by decide))
    = (.ok (), _) := rfl
  refine ⟨by decide +kernel, by decide +kernel, .dryRun true, ?_, by decide +kernel, _, happend,
    ?_, by decide +kernel⟩
  · rintro n _ ⟨⟩
    decide +kernel
  · exact ⟨Option.get _ (by decide +kernel), Option.get_mem _,
      lost_first env _ s (Option.get_mem _) (show "/data" ∈ _ by decide +kernel) (by decide +kernel)
        (by decide +kernel)⟩

end Draft

end StageChain
