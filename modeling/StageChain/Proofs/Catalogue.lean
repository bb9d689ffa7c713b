import StageChain.Proofs.Composition
import StageChain.Proofs.Making
import StageChain.Proofs.Replay

/-!
# Chains of operations of the catalogue

Every operation of the catalogue reads graph elements, and all but five write graph elements again.
So a chain of them is accepted as long as those five stand nowhere but at its end, and its end alone
decides whether the chain makes another graph and to which sink it writes.

* `Op.results`: **the operations that end a chain.**
* `isChain_made_iff`: operations fit one after the other if none before the last is one of those.
* `Draft.appendAll_ok_iff`, `Draft.Replays.appendAll`: operations appended one after the other.
* `output_of_mem_dropLast`, `isDerivation_iff`: what the plans of such a chain write.
* `Draft.Concludes`, `Draft.appendAll_made`: **which chains are accepted, and where they end.**
-/

namespace StageChain

/-- **The operations that end a chain**: they write texts or counts. -/
def Op.results : List Op := [.propertyMap, .pathMap, .valueDistribution, .groupCount, .count]

theorem Op.output_eq_graph_iff (op : Op) : op.output = .graph ↔ op ∉ Op.results := by
  cases op <;> decide

/-- **A chain stays on the graph** if it is empty or its last operation does not end it. -/
def StaysOnGraph (xs : List Descriptor) : Prop := ∀ x ∈ xs.getLast?, x.op ∉ Op.results

variable {xs : List Descriptor} {f : Fusion} {p : Plan}

/-- Operations fit one after the other exactly if none but the last ends a chain. -/
theorem isChain_made_iff (h : ∀ x ∈ xs, x.IsMade) :
    xs.IsChain (fun a b => b.input = a.output) ↔ ∀ x ∈ xs.dropLast, x.op ∉ Op.results := by
  induction xs with
  | nil => simp
  | cons a xs ih =>
    cases xs with
    | nil => simp
    | cons b xs =>
      have hfit : b.input = a.output ↔ a.op ∉ Op.results := by
        rw [(h b (by simp)).input, (h a (by simp)).output, ← Op.output_eq_graph_iff, eq_comm]
      rw [List.isChain_cons_cons, hfit, ih fun x hx => h x (List.mem_cons_of_mem a hx),
        List.dropLast_cons_cons, List.forall_mem_cons]

/-! ## What the plans of a chain write -/

/-- Each plan reads graph elements, since its first operation does. -/
theorem input_of_mem_flush (hflows : Fusion.Flows .graph xs f) (h : ∀ x ∈ xs, x.IsMade)
    (hp : p ∈ f.flush.1) : p.input = .graph := by
  have hmem : p.operations.head p.operations_ne_nil ∈ xs :=
    hflows.operations ▸ List.mem_flatMap.2 ⟨p, hp, List.head_mem _⟩
  exact (h _ hmem).input

/-- Each plan but the last writes what the plan behind it reads. -/
theorem output_of_mem_dropLast (hflows : Fusion.Flows .graph xs f) (h : ∀ x ∈ xs, x.IsMade)
    (hp : p ∈ f.flush.1.dropLast) : p.output = .graph := by
  obtain ⟨i, hi, rfl⟩ := List.mem_iff_getElem.1 hp
  rw [List.length_dropLast] at hi
  rw [List.getElem_dropLast, ← List.isChain_iff_getElem.1 hflows.between i (by omega)]
  exact input_of_mem_flush hflows h (List.getElem_mem _)

/-- The last plan writes graph elements exactly if the chain stays on the graph. -/
theorem running_eq_graph_iff (hflows : Fusion.Flows .graph xs f) (h : ∀ x ∈ xs, x.IsMade) :
    f.running = .graph ↔ StaysOnGraph xs := by
  rw [hflows.running, StaysOnGraph]
  cases hlast : xs.getLast? with
  | none => simp
  | some x =>
    have hx : x.IsMade := h x (List.mem_of_getLast? hlast)
    simp [hx.output, Op.output_eq_graph_iff]

/-- **The plans make another graph** exactly if the chain stays on the graph. -/
theorem isDerivation_iff (hflows : Fusion.Flows .graph xs f) (h : ∀ x ∈ xs, x.IsMade) :
    isDerivation f.flush.1 = true ↔ StaysOnGraph xs := by
  have hall : isDerivation f.flush.1 = true ↔ ∀ p ∈ f.flush.1.getLast?, p.output = .graph := by
    simp only [isDerivation, List.all_eq_true, decide_eq_true_eq]
    refine ⟨fun hp p hl => hp p (List.mem_of_getLast? hl), fun hl p hp => ?_⟩
    -- a plan is the last one or stands before it
    have hne : f.flush.1 ≠ [] := List.ne_nil_of_mem hp
    rw [← List.dropLast_append_getLast hne, List.mem_append, List.mem_singleton] at hp
    rcases hp with hp | rfl
    · exact output_of_mem_dropLast hflows h hp
    · exact hl _ (List.getLast?_eq_some_getLast hne)
  rw [hall, ← running_eq_graph_iff hflows h]
  constructor
  · intro hl
    cases hlast : f.flush.1.getLast? with
    | some p => rw [← hflows.emitted p hlast]; exact hl p hlast
    | none =>
      have hnil := hflows.operations
      rw [List.getLast?_eq_none_iff.1 hlast, List.flatMap_nil] at hnil
      rw [hflows.running, ← hnil]
      rfl
  · intro hrunning p hp
    rw [hflows.emitted p hp, hrunning]

/-- A stage writes to a sink, in a format under which that is accepted. -/
structure Stage.WritesTo (stage : Stage) (location : Option String) (format : Value)
    (supported : List String) : Prop where
  written : stage.outputLocation = location.getD ""
  accepted : Wiring.Accepts supported format location stage.outputFormat

namespace Draft

/-! ## Drafts -/

/-- Appends operations one after the other. With the first that is refused the draft is given up. -/
def appendAll (d : Draft) : List Descriptor → Except SchemaMismatch Draft
  | [] => .ok d
  | x :: xs => match d.append x with
    | (.ok (), d) => appendAll d xs
    | (.error e, _) => .error e

variable {d : Draft} {settings : Settings}

/-- A draft accepts what its fusion accepts. -/
theorem appendAll_eq (d : Draft) (xs : List Descriptor) : d.appendAll xs
    = (d.fusion.appendAll xs).map fun f =>
        { d with descriptors := d.descriptors ++ xs, fusion := f } := by
  induction xs generalizing d with
  | nil => simp [appendAll, Fusion.appendAll, Except.map]
  | cons x xs ih =>
    rw [appendAll, Fusion.appendAll]
    by_cases hx : x.input = d.fusion.running
    · rw [append_of_fits hx, Fusion.append_of_fits hx]
      simp only [ih, accept, List.append_assoc, List.singleton_append]
    · rw [append_of_not_fits hx, Fusion.append_of_not_fits hx]
      rfl

theorem appendAll_start_iff : (start settings).appendAll xs = .ok d ↔
    ∃ f, (Fusion.start .graph).appendAll xs = .ok f ∧ d = ⟨settings, xs, f⟩ := by
  rw [appendAll_eq]
  change ((Fusion.start .graph).appendAll xs).map (fun f => (⟨settings, xs, f⟩ : Draft)) = .ok d ↔ _
  cases (Fusion.start .graph).appendAll xs with
  | error e => simp [Except.map]
  | ok f => simp [Except.map, eq_comm]

/-- A draft is compiled into the pipeline that composes its plans, or into the empty one. -/
theorem composed_of_compile {σ : Type} [Storage σ] {env : Environment σ} {s s' : Session σ}
    {plans : List Plan} {p : Pipeline} (hplans : d.plans = .ok plans)
    (h : d.compile env s = (.ok p, s')) : (plans = [] ∧ p = .empty) ∨ (plans ≠ [] ∧
      ∃ s₀, Wiring.Composed env d.settings.intermediateRoot plans d.settings.endpoints s₀ p) := by
  simp only [compile, planned, hplans] at h
  split at h
  · cases h
  case h_2 s₁ hcompose =>
    obtain ⟨hp, -⟩ := Prod.mk.inj h
    obtain rfl := Except.ok.inj hp
    by_cases hne : plans = []
    · subst hne
      obtain ⟨hempty, -⟩ := Prod.mk.inj hcompose
      exact .inl ⟨rfl, (Except.ok.inj hempty).symm⟩
    · obtain ⟨names, source, sink, left⟩ := Wiring.wired_of_ok hne hcompose
      exact .inr ⟨hne, _, left.composed⟩

/-- **Where a pipeline ends** that was compiled from a chain of operations. -/
structure EndsAt (settings : Settings) (xs : List Descriptor) (p : Pipeline) : Prop where
  idle : p.stages = [] ↔ xs = []
  derivation : p.isDerivation = true ↔ StaysOnGraph xs
  graph : StaysOnGraph xs → ∀ stage ∈ p.stages.getLast?,
    stage.WritesTo settings.graphLocation? settings.graphFormat Format.graphSinks
  statistics : ¬StaysOnGraph xs → ∀ stage ∈ p.stages.getLast?,
    stage.WritesTo settings.statisticsLocation? settings.statisticsFormat Format.statisticsSinks

/-- **What a draft comes to** that has accepted a chain of operations. -/
structure Concludes (settings : Settings) (xs : List Descriptor) (d : Draft) : Prop where
  /-- Only the last plan may write anything but graph elements. -/
  plans : ∃ plans, d.plans = .ok plans ∧ (∀ p ∈ plans.dropLast, p.output = .graph) ∧
    (isDerivation plans = true ↔ StaysOnGraph xs)
  compiled : ∀ {σ : Type} [Storage σ] (env : Environment σ) (s s' : Session σ) (p : Pipeline),
    d.compile env s = (.ok p, s') → EndsAt settings xs p

/-- A pipeline that composes the plans of a chain ends where the chain does. -/
theorem endsAt_of_composed {σ : Type} {env : Environment σ} {root : String} {s : Session σ}
    {p : Pipeline} (hflows : Fusion.Flows .graph xs f) (h : ∀ x ∈ xs, x.IsMade)
    (hne : f.flush.1 ≠ []) (left : Wiring.Composed env root f.flush.1 settings.endpoints s p) :
    EndsAt settings xs p := by
  have hderivation := isDerivation_iff hflows h
  have hlength : p.stages.length = f.flush.1.length := by
    rw [← left.stages, List.length_map]
  have hlast : ∀ stage ∈ p.stages.getLast?, p.stages[f.flush.1.length - 1]? = some stage := by
    intro stage hstage
    rwa [← hlength, ← List.getLast?_eq_getElem?]
  refine ⟨?_, by rw [left.derivation, hderivation], fun hgraph stage hstage => ?_,
    fun hgraph stage hstage => ?_⟩
  · have hstages : p.stages ≠ [] := by
      rw [← List.length_pos_iff, hlength]
      exact List.length_pos_iff.2 hne
    have hxs : xs ≠ [] := by
      rintro rfl
      obtain ⟨q, hq⟩ := List.exists_mem_of_ne_nil _ hne
      exact q.operations_ne_nil (List.flatMap_eq_nil_iff.1 hflows.operations q hq)
    simp [hstages, hxs]
  · have hend := left.last stage (hlast stage hstage)
    rw [hderivation.2 hgraph] at hend
    exact ⟨hend.1, hend.2⟩
  · have hend := left.last stage (hlast stage hstage)
    rw [Bool.eq_false_iff.2 (mt hderivation.1 hgraph)] at hend
    exact ⟨hend.1, hend.2⟩

theorem endsAt_empty (hflows : Fusion.Flows .graph xs f) (hnil : f.flush.1 = []) :
    EndsAt settings xs .empty := by
  obtain rfl : xs = [] := by rw [← hflows.operations, hnil, List.flatMap_nil]
  exact ⟨by simp [Pipeline.empty], by simp [Pipeline.empty, StaysOnGraph],
    by simp [Pipeline.empty], by simp [Pipeline.empty]⟩

/-- **Which chains of operations are accepted, and where they end.** An empty draft accepts
operations of the catalogue exactly if none but the last of them ends a chain. Wherever they are cut
into stages, only the last plan may then write anything but graph elements, and the last stage writes
to the sink for graphs or to the one for statistics as the last operation has it. -/
theorem appendAll_made (settings : Settings) (h : ∀ x ∈ xs, x.IsMade) :
    ((∃ d, (start settings).appendAll xs = .ok d) ↔ ∀ x ∈ xs.dropLast, x.op ∉ Op.results) ∧
    ∀ d, (start settings).appendAll xs = .ok d → Concludes settings xs d := by
  constructor
  · have hhead : ∀ x ∈ xs.head?, x.input = (Fusion.start .graph).running :=
      fun x hx => (h x (List.mem_of_mem_head? hx)).input
    rw [← isChain_made_iff h, ← and_iff_right (b := xs.IsChain _) hhead,
      ← Fusion.appendAll_ok_iff]
    constructor
    · rintro ⟨d, hd⟩
      obtain ⟨f, hf, -⟩ := appendAll_start_iff.1 hd
      exact ⟨f, hf⟩
    · rintro ⟨f, hf⟩
      exact ⟨_, appendAll_start_iff.2 ⟨f, hf, rfl⟩⟩
  · intro d hd
    obtain ⟨f, hf, rfl⟩ := appendAll_start_iff.1 hd
    have hflows := Fusion.flows_of_appendAll hf
    have hplans : (⟨settings, xs, f⟩ : Draft).plans = .ok f.flush.1 := Replays.plans ⟨rfl, hf⟩
    refine ⟨⟨_, hplans, fun p => output_of_mem_dropLast hflows h, isDerivation_iff hflows h⟩, ?_⟩
    intro σ _ env s s' p hp
    rcases composed_of_compile hplans hp with ⟨hnil, rfl⟩ | ⟨hne, s₀, left⟩
    · exact endsAt_empty hflows hnil
    · exact endsAt_of_composed hflows h hne left

/-- Settings with a sink of either kind. -/
def twoSinks : Settings where
  path := "sinks.yaml"
  name := .text "sinks"
  graphInput := [(.text "format", .text "titan-cassandra")]
  graphOutput := [(.text "format", .text "graphson"), (.text "location", .text "graph")]
  statisticsOutput := [(.text "location", .text "counts")]
  intermediate := []
  logging := []
  properties := []

/-- A step to neighbours, then a count. -/
def countedNeighbours : List Descriptor :=
  [.ofFields .verticesVertices [("direction", .text "BOTH"), ("labels", .text "knows")],
    .ofFields .count [("class", .text "edge")]]

/-- The sample ends with its count, in the sink for statistics. -/
theorem appendAll_made_sample : (∀ x ∈ countedNeighbours, x.IsMade) ∧
    ∃ d, (start twoSinks).appendAll countedNeighbours = .ok d ∧
      Concludes twoSinks countedNeighbours d ∧
      ∃ p s', d.compile (.counting MemoryStorage) (.start (.ofList [])) = (.ok p, s') ∧
        p.stages.getLast?.map (·.outputLocation) = some "counts" := by
  have hmade : ∀ x ∈ countedNeighbours, x.IsMade := by
    intro x hx
    rcases List.mem_pair.1 hx with rfl | rfl
    · exact Descriptor.isMade_of_build (show Descriptor.build (.text "vertices_vertices")
        [(.text "direction", .text "both"), (.text "labels", .text "knows")] = .ok _ from rfl)
    · exact Descriptor.isMade_of_build (show Descriptor.build (.text "count")
        [(.text "element", .text "Edge")] = .ok _ from rfl)
  obtain ⟨hiff, hends⟩ := appendAll_made twoSinks hmade
  obtain ⟨d, hd⟩ := hiff.2 (by decide)
  refine ⟨hmade, d, hd, hends d hd, ?_⟩
  obtain ⟨f, hf, rfl⟩ := appendAll_start_iff.1 hd
  cases hf
  exact ⟨_, _, rfl, rfl⟩

end Draft

end StageChain
