import Mathlib.Logic.Function.Basic
import StageChain.Proofs.Configuration
import StageChain.Proofs.Partition
import StageChain.Proofs.Wiring

/-!
# What a chain does to records

Operations act on records: a map-only one on each record, a grouping one on all of them. A stage
knows its operations only from its configuration and applies the map-only ones to one record after
the other. These lemmas show that the stages of a composed pipeline, run in order, do to the records
of the source what the operations do to them one by one.

* `flatMap_fused`: applying fused operations record by record is applying one after the other.
* `steps?_stageConfiguration`: a stage reads its operations back from its configuration.
* `run_wire`: the stages between two places apply the operations of their plans.
* `run_compose`: **compilation preserves meaning.**
-/

namespace StageChain

universe u

/-- What operations do to records. Map-only operations turn a record into records, grouping ones a
list of records into another. -/
structure Interpretation (ρ : Type u) where
  onRecord : (name : String) → (config : List (String × Value)) → ρ → List ρ
  onAll : (name : String) → (config : List (String × Value)) → List ρ → List ρ

/-- An operation as a stage finds it in its configuration. -/
structure Step where
  name : String
  config : List (String × Value)

namespace Step

/-- What a stage should find of an operation. -/
def ofDescriptor (d : Descriptor) : Step :=
  ⟨d.name, d.config.entries.map fun e => (e.1, e.2.toValue)⟩

/-- The operations that a stage finds in its configuration: the names between commas under the key
for them, each with the entries at its position. -/
def ofConfiguration? (c : Table String Value) : Option (List Step) :=
  match c.get? Plan.classesKey with
  | some (.text names) =>
    some <| ((names.split ',').toList.map (·.copy)).zipIdx.map fun n =>
      ⟨n.1, Plan.entriesAt n.2 c.entries⟩
  | _ => none

end Step

namespace Interpretation

variable {ρ : Type u} (I : Interpretation ρ)

/-- One operation applied to records. -/
def apply (rs : List ρ) (d : Descriptor) : List ρ :=
  let t := Step.ofDescriptor d
  if d.kind = .grouping then I.onAll t.name t.config rs
  else rs.flatMap (I.onRecord t.name t.config)

/-- Operations applied to records one after the other. -/
def applyAll (ds : List Descriptor) (rs : List ρ) : List ρ := ds.foldl I.apply rs

/-- Fused operations applied to one record. -/
def fused : List Step → ρ → List ρ
  | [], r => [r]
  | t :: ts, r => (I.onRecord t.name t.config r).flatMap (fused ts)

/-- What a stage does to the records that it reads: the fused operations act on each record, and the
last operation on all of them if it is a grouping one. -/
def stage (groups : Bool) (ts : List Step) (rs : List ρ) : List ρ :=
  match groups, ts.getLast? with
  | true, some t => I.onAll t.name t.config (rs.flatMap (I.fused ts.dropLast))
  | _, _ => rs.flatMap (I.fused ts)

/-- Stages run in order on the records at locations; `none` if one cannot read its configuration. -/
def run : List Stage → (String → List ρ) → Option (String → List ρ)
  | [], records => some records
  | s :: ss, records =>
    match Step.ofConfiguration? s.configuration with
    | none => none
    | some ts =>
      let groups := s.configuration.contains Plan.reduceKey
      run ss <| Function.update records s.outputLocation <|
        I.stage groups ts (records s.inputLocation)

/-- **Fusion.** Fused operations, applied record by record, do what they do one after the other. -/
theorem flatMap_fused (ts : List Step) (rs : List ρ) :
    rs.flatMap (I.fused ts) = ts.foldl (fun rs t => rs.flatMap (I.onRecord t.name t.config)) rs := by
  induction ts generalizing rs with
  | nil => simp [fused]
  | cons t ts ih =>
    rw [List.foldl_cons, ← ih, List.flatMap_assoc]; rfl

theorem applyAll_append (ds ds' : List Descriptor) (rs : List ρ) :
    I.applyAll (ds ++ ds') rs = I.applyAll ds' (I.applyAll ds rs) := List.foldl_append

theorem applyAll_mapOnly {ds : List Descriptor} (h : ∀ d ∈ ds, d.kind = .mapOnly) (rs : List ρ) :
    I.applyAll ds rs = rs.flatMap (I.fused (ds.map Step.ofDescriptor)) := by
  rw [flatMap_fused, List.foldl_map, applyAll]
  induction ds generalizing rs with
  | nil => rfl
  | cons d ds ih =>
    have hd : I.apply rs d
        = rs.flatMap (I.onRecord (Step.ofDescriptor d).name (Step.ofDescriptor d).config) := by
      simp [apply, h d (by simp)]
    rw [List.foldl_cons, List.foldl_cons, hd, ih fun e he => h e (by simp [he])]

/-- A stage that finds the operations of a plan applies them. -/
theorem stage_operations (p : Plan) (rs : List ρ) :
    I.stage p.grouping.isSome (p.operations.map Step.ofDescriptor) rs
      = I.applyAll p.operations rs := by
  cases hg : p.grouping with
  | none =>
    have ho : p.operations = p.mapOnly := by simp [Plan.operations, hg]
    rw [ho, I.applyAll_mapOnly p.mapOnly_kind]
    simp [stage]
  | some g =>
    have ho : p.operations = p.mapOnly ++ [g] := by simp [Plan.operations, hg]
    have hk : g.kind = .grouping := p.grouping_kind g hg
    rw [ho, applyAll_append, I.applyAll_mapOnly p.mapOnly_kind]
    simp [stage, applyAll, apply, hk]

end Interpretation

open Wiring

/-- **A stage finds the operations of its plan**, whatever properties were put in that are none of a
stage's keys. -/
theorem steps?_stageConfiguration {properties : Table String Value} {p : Plan}
    (h : ∀ k ∈ properties.keys, Plan.isStageKey k = false) :
    Step.ofConfiguration? (stageConfiguration properties p)
      = some (p.operations.map Step.ofDescriptor) := by
  simp only [Step.ofConfiguration?, get?_classesKey h, p.split_operationNames, Option.some.injEq]
  apply List.ext_getElem?
  intro i
  rw [List.getElem?_map, List.getElem?_map, List.getElem?_zipIdx, Plan.operationNames,
    List.getElem?_map]
  cases hd : p.operations[i]? with
  | none => rfl
  | some d =>
    simp only [Option.map_some, Option.some.injEq, Nat.zero_add]
    rw [entriesAt_stageConfiguration h hd]; rfl

namespace Interpretation

variable {ρ : Type u} (I : Interpretation ρ)

/-- One stage of a plan applies the plan's operations to what is at its input. -/
theorem run_cons {properties : Table String Value}
    (h : ∀ k ∈ properties.keys, Plan.isStageKey k = false) {s : Stage} {p : Plan}
    (hs : s.configuration = stageConfiguration properties p) (ss : List Stage)
    (records : String → List ρ) :
    I.run (s :: ss) records = I.run ss (Function.update records s.outputLocation
      (I.applyAll p.operations (records s.inputLocation))) := by
  simp only [run, hs, steps?_stageConfiguration h, contains_reduceKey h, I.stage_operations]

/-- The stages between two places apply the operations of their plans to what is at the first, write
the result to the second, and touch nothing but what they write. -/
theorem run_wire {properties : Table String Value}
    (h : ∀ k ∈ properties.keys, Plan.isStageKey k = false) {output input : Place} {k : Nat}
    {ps : List Plan} {ls : List String} (hne : ps ≠ []) (hl : ls.length = ps.length - 1)
    (records : String → List ρ) :
    ∃ final, I.run (wire properties output k input ps ls) records = some final ∧
      final output.location
        = I.applyAll (ps.flatMap (·.operations)) (records input.location) ∧
      ∀ l, (∀ s ∈ wire properties output k input ps ls, s.outputLocation ≠ l) →
        final l = records l := by
  induction ps generalizing k input ls records with
  | nil => exact absurd rfl hne
  | cons p ps ih =>
    cases ps with
    | nil =>
      obtain rfl : ls = [] := by simpa using hl
      simp only [wire]
      rw [I.run_cons h rfl, run]
      refine ⟨_, rfl, by simp, ?_⟩
      intro l hw
      exact Function.update_of_ne (Ne.symm (hw _ (by simp))) _ _
    | cons q qs =>
      obtain ⟨l, ls, rfl⟩ : ∃ l ls', ls = l :: ls' := by
        cases ls with
        | nil => simp at hl
        | cons l ls => exact ⟨l, ls, rfl⟩
      rw [wire]
      simp only [List.tail_cons]
      rw [I.run_cons h rfl]
      -- the next stage reads what this one has written
      obtain ⟨final, hrun, hout, hframe⟩ := @ih ⟨l, Format.intermediate⟩ (k + 1) ls (by simp)
        (by simpa using hl)
        (Function.update records l (I.applyAll p.operations (records input.location)))
      refine ⟨final, hrun, ?_, ?_⟩
      · rw [hout, Function.update_self, ← I.applyAll_append, ← List.flatMap_cons]
      · intro m hw
        rw [hframe m fun s hs => hw s (by simp [hs])]
        exact Function.update_of_ne (Ne.symm (hw _ List.mem_cons_self)) _ _

end Interpretation

theorem sinkLocation?_of_wire {properties : Table String Value} {output input : Place} {k : Nat}
    {ps : List Plan} {ls : List String} (hne : ps ≠ []) (hl : ls.length = ps.length - 1)
    {p : Pipeline} (hp : p.stages = wire properties output k input ps ls) :
    p.sinkLocation? = some output.location := by
  have hlen : p.stages.length = ps.length := by rw [hp, wire_length]
  have hpos : 0 < ps.length := List.length_pos_iff.2 hne
  rw [Pipeline.sinkLocation?, List.getLast?_eq_getElem?, hlen]
  obtain ⟨s, hs⟩ : ∃ s, p.stages[ps.length - 1]? = some s :=
    ⟨_, List.getElem?_eq_getElem (by omega)⟩
  have hout := (wire_stage hl (hp ▸ hs)).2.2.2.1
  rw [List.getElem?_append_right (by rw [List.length_map]; omega)] at hout
  rw [hs, Option.map_some]
  obtain rfl : output = ⟨s.outputLocation, s.outputFormat⟩ := by
    have := List.mem_of_getElem? hout
    exact (List.mem_singleton.1 this).symm
  rfl

/-- **Compilation preserves meaning.** Take operations that an empty fusion accepts, any endpoints
between which their plans are composed, and properties none of which is a key that a stage reads for
itself. Whatever the operations do to records and whatever records are at the locations: when the
stages of the pipeline are run in order, each reading its operations from its own configuration, all
of them can, and the sink then holds what the operations make, one after the other, of the records at
the source. Only locations that a stage writes have changed. -/
theorem run_compose {ρ : Type u} (I : Interpretation ρ) {initial : Schema} {ds : List Descriptor}
    (hne : ds ≠ []) {f : Fusion} (hf : (Fusion.start initial).appendAll ds = .ok f)
    {σ : Type} [Storage σ] {env : Environment σ} {root : String} {e : Endpoints} {s s' : Session σ}
    {p : Pipeline} (hp : compose env root f.flush.1 e s = (.ok p, s'))
    (hprops : ∀ k ∈ e.properties.keys, Plan.isStageKey k = false) (records : String → List ρ) :
    ∃ final sink, I.run p.stages records = some final ∧ p.sinkLocation? = some sink ∧
      final sink = I.applyAll ds (records (e.sourceLocation.getD "")) ∧
      ∀ l, (∀ stage ∈ p.stages, stage.outputLocation ≠ l) → final l = records l := by
  have hops : f.plans.flatMap (·.operations) = ds :=
    (Fusion.holds_start.appendAll hf).operations_plans
  have hplans : f.plans ≠ [] := by
    intro h
    rw [h, List.flatMap_nil] at hops
    exact hne hops.symm
  obtain ⟨sourceFormat, sinkFormat, hstages, hlen, -⟩ := compose_ok hplans hp
  obtain ⟨final, hrun, hout, hframe⟩ := I.run_wire hprops hplans hlen records
  rw [hops] at hout
  rw [← hstages] at hrun hframe
  exact ⟨final, _, hrun, sinkLocation?_of_wire hplans hlen hstages, hout, hframe⟩

/-- Operations on numbers: a map-only one adds the length of its name or takes the number twice, a
grouping one turns the list around. -/
def Interpretation.sample : Interpretation Nat where
  onRecord name config n := if config.isEmpty then [n + name.length] else [n, n]
  onAll _ config ns := ns.reverse ++ [config.length]

/-- The sample, run on two numbers. -/
theorem run_compose_sample : ∃ p s' final, (Fusion.start .graph).appendAll sampleChain
      = .ok sampleFusion ∧
    compose (.counting MemoryStorage) "" sampleFusion.flush.1 .sample (.start (.ofList []))
      = (.ok p, s') ∧
    (∀ k ∈ Endpoints.sample.properties.keys, Plan.isStageKey k = false) ∧
    Interpretation.sample.run p.stages (fun l => if l = "in" then [1, 2] else []) = some final ∧
    p.sinkLocation? = some "out" ∧ final "out" = [10, 9, 9, 10, 10, 9] := by
  have hf : (Fusion.start .graph).appendAll sampleChain = .ok sampleFusion := rfl
  have hc : compose (.counting MemoryStorage) "" sampleFusion.flush.1 .sample
    (.start (.ofList [])) = (.ok _, _) := rfl
  have hprops : ∀ k ∈ Endpoints.sample.properties.keys, Plan.isStageKey k = false := by decide
  obtain ⟨final, sink, hrun, hsink, hfinal, -⟩ := run_compose Interpretation.sample (by decide) hf
    hc hprops fun l => if l = "in" then [1, 2] else []
  obtain rfl : "out" = sink := Option.some.inj hsink
  exact ⟨_, _, final, hf, hc, hprops, hrun, hsink, hfinal⟩

end StageChain
