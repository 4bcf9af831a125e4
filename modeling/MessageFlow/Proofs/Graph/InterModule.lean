import MessageFlow.Proofs.Graph.Agreement

/-!
# Flows between modules

`Graph.interModule` is a filter: what it leaves is told by `WellFormed.flows_interModule` and
`WellFormed.vertices_interModule`, and there is nothing to leave out the second time.

A walk may be narrowed to the flows between modules, or the graph may be narrowed first and walked
then.  The second one loses what is reached through a module only:

* `WellFormed.interModule_interModule`   narrowing twice;
* `WellFormed.flows_interModule_walkFrom_subset`   a walk that is narrowed has flows between modules
  of the graph;
* `WellFormed.flows_walkFrom_interModule_subset`   among them are those of the walk in the narrowed
  graph.
-/

namespace MessageFlow.Graph

variable {g : Graph}

section
variable (hg : g.WellFormed)
include hg

theorem WellFormed.interModule_interModule : g.interModule.interModule = g.interModule := by
  have h1 : g.interModule.flows.filter Flow.isInterModule =
      g.flows.filter Flow.isInterModule := by
    rw [hg.flows_interModule, List.filter_filter]
    simp only [Bool.and_self]
  show (∅ : Graph).addFlows (g.interModule.flows.filter Flow.isInterModule) = _
  rw [h1]
  rfl

theorem WellFormed.flows_interModule_walkFrom_subset (start : String) :
    ∀ f ∈ (g.walkFrom start).interModule.flows, f ∈ g.interModule.flows := by
  intro f hf
  obtain ⟨hf, hm⟩ := (WellFormed.walkFrom g start).mem_flows_interModule.mp hf
  exact hg.mem_flows_interModule.mpr ⟨(hg.part_walkFrom start).flows_subset f hf, hm⟩

/-- what flows between modules lead to, all flows lead to -/
theorem WellFormed.flows_walkFrom_interModule_subset (start : String) :
    ∀ f ∈ (g.interModule.walkFrom start).flows, f ∈ (g.walkFrom start).interModule.flows := by
  intro f hf
  obtain ⟨hf, hl⟩ := (WellFormed.interModule g).mem_flows_walkFrom_iff.mp hf
  obtain ⟨hfg, hm⟩ := hg.mem_flows_interModule.mp hf
  have h1 : g.Leads start f.source.name := hl.mono hg.part_interModule.flows_subset
  exact (WellFormed.walkFrom g start).mem_flows_interModule.mpr
    ⟨hg.mem_flows_walkFrom_iff.mpr ⟨hfg, h1⟩, hm⟩

end

/-- **Narrowing to the flows between modules is an exact filter.**  What is left are the flows whose
ends have different modules, in their order and with their comments, one edge for each of them, and
the ends of these flows in the order in which they first appear, as they are in the graph.  Narrowing
once more changes nothing.  From any start, the flows between modules of a walk are among those of
the graph, and have among them the flows of the walk in the narrowed graph. -/
theorem interModule_exact (hg : g.WellFormed) :
    g.interModule.WellFormed
    ∧ g.interModule.flows = g.flows.filter (fun f => f.source.moduleKey ≠ f.target.moduleKey)
    ∧ g.interModule.flows.length = g.interModule.edges.length
    ∧ g.interModule.vertices = (g.interModule.flows.flatMap Flow.ends).eraseDups
    ∧ (∀ v ∈ g.interModule.vertices, g.vertex? v.name = some v)
    ∧ g.interModule.interModule = g.interModule
    ∧ ∀ start,
        (∀ f ∈ (g.walkFrom start).interModule.flows, f ∈ g.interModule.flows)
        ∧ ∀ f ∈ (g.interModule.walkFrom start).flows, f ∈ (g.walkFrom start).interModule.flows := by
  have hi : g.interModule.WellFormed := WellFormed.interModule g
  refine ⟨hi, hg.flows_interModule, hi.length_flows, ?_, ?_, hg.interModule_interModule, ?_⟩
  · rw [hg.flows_interModule]
    exact hg.vertices_interModule
  · intro v hv
    exact hg.vertex?_of_mem (hg.part_interModule.vertices_subset v hv)
  · intro start
    exact ⟨hg.flows_interModule_walkFrom_subset start, hg.flows_walkFrom_interModule_subset start⟩

/-- the flow inside the bank is left out, also of what a walk comes to -/
theorem interModule_detour :
    (detour false).WellFormed
    ∧ (detour false).interModule.flows.map Flow.key =
      [("shop.a", "bank.b", "pay"), ("bank.c", "shop.a", "paid")]
    ∧ (detour false).interModule.vertices.map Handler.name = ["shop.a", "bank.b", "bank.c"]
    ∧ (detour false).interModule.interModule = (detour false).interModule
    ∧ ∀ f ∈ ((detour false).walkFrom "bank.b").interModule.flows, f.message.name ≠ "book" := by
  have hg : (detour false).WellFormed := by decide
  obtain ⟨-, hf, -, hv, -, hi, hw⟩ := interModule_exact hg
  refine ⟨hg, ?_, ?_, hi, ?_⟩
  · rw [hf]
    decide
  · rw [hv, hf]
    decide
  · intro f hmem
    have h1 := (hw "bank.b").1 f hmem
    rw [hf] at h1
    have h2 : ∀ f ∈ (detour false).flows.filter (fun f => f.source.moduleKey ≠ f.target.moduleKey),
        f.message.name ≠ "book" := by decide
    exact h2 f h1

end MessageFlow.Graph
