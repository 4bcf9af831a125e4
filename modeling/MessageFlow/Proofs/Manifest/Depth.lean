import Mathlib.Data.List.Sort
import MessageFlow.Proofs.Graph.Regroup
import MessageFlow.Proofs.Manifest.Graph

/-!
# The depth of modules

How many segments of a name make a module does not decide what is in a graph or in which order, but
how it is divided: the graph of a smaller depth is the graph of a greater one with coarser modules
(`graph_ofManifest_of_le`).  So a greater depth refines the modules (`graph_of_depths`).

* `names_ofManifest_eq`, `labels_ofManifest_eq`   what the depth does not decide;
* `regroup_handler`   and what it does.
-/

namespace MessageFlow.Analysis

variable {m : Manifest} {d e : Nat}

theorem mem_labels_ofManifest {depth : Nat} {l : String × String × Message} :
    l ∈ (ofManifest depth m).graph.flows.map Flow.label ↔
      l.2.2 = m.message l.2.2.name
      ∧ (Side.producing, l.1, l.2.2.name) ∈ Record.exchanges m.records
      ∧ (Side.consuming, l.2.1, l.2.2.name) ∈ Record.exchanges m.records := by
  rw [graph_ofManifest, Graph.labels_join, Graph.mem_joinFlows]
  simp only [Manifest.message?_onSide]
  constructor
  · rintro ⟨x, y, ⟨rfl, hp⟩, ⟨rfl, hc⟩, hl⟩
    rw [Message.absorb_self] at hl
    exact ⟨hl, hp, hc⟩
  · rintro ⟨hl, hp, hc⟩
    refine ⟨_, _, ⟨rfl, hp⟩, ⟨rfl, hc⟩, ?_⟩
    rw [Message.absorb_self]
    exact hl

/-- the depth decides nothing about the flows -/
theorem labels_ofManifest_eq (m : Manifest) (d e : Nat) :
    (ofManifest d m).graph.flows.map Flow.label = (ofManifest e m).graph.flows.map Flow.label := by
  have hasc : ∀ depth,
      ((ofManifest depth m).graph.flows.map Flow.label).Pairwise Graph.LabelLt := by
    intro depth
    rw [graph_ofManifest, Graph.labels_join]
    exact Graph.joinFlows_ascending _ _
  -- a list in strict order is told by its members
  apply (hasc d).eq_of_mem_iff (hasc e)
  intro l
  rw [mem_labels_ofManifest, mem_labels_ofManifest]

theorem names_ofManifest_eq (m : Manifest) (d e : Nat) :
    (ofManifest d m).graph.vertices.map Handler.name =
      (ofManifest e m).graph.vertices.map Handler.name := by
  have hasc : ∀ depth,
      ((ofManifest depth m).graph.vertices.map Handler.name).Pairwise (· < ·) := by
    intro depth
    rw [graph_ofManifest, Graph.names_join]
    exact Roster.names_ascending _
  apply (hasc d).eq_of_mem_iff (hasc e)
  intro h
  rw [mem_names_ofManifest, mem_names_ofManifest]

theorem vertices_ofManifest (depth : Nat) (m : Manifest) :
    (ofManifest depth m).graph.vertices =
      ((ofManifest depth m).graph.vertices.map Handler.name).map (m.handler depth) := by
  have h1 : ∀ v ∈ (ofManifest depth m).graph.vertices, m.handler depth v.name = v :=
    fun v hv => (mem_vertices_ofManifest.mp hv).1.symm
  rw [List.map_map]
  exact ((List.map_congr_left h1).trans (List.map_id _)).symm

/-- a smaller depth looks at the module only -/
theorem regroup_handler (m : Manifest) (h : d ≤ e) (n : String) :
    (m.handler e n).regroup (Name.moduleKey d) = m.handler d n := by
  rw [Manifest.handler_eq, Manifest.handler_eq, Handler.regroup, Name.moduleKey_moduleKey_of_le h]

/-- the graph of a smaller depth is that of the greater one with coarser modules -/
theorem graph_ofManifest_of_le (m : Manifest) (h : d ≤ e) :
    (ofManifest d m).graph = (ofManifest e m).graph.regroup (Name.moduleKey d) := by
  have hwf : ∀ depth, (ofManifest depth m).graph.WellFormed :=
    fun depth => Graph.WellFormed.join _ _
  -- names make the vertices, and together with the labels the edges
  have hv : (ofManifest d m).graph.vertices =
      (ofManifest e m).graph.vertices.map (Handler.regroup (Name.moduleKey d)) := by
    have hn : ∀ names : List String, names.map (m.handler d) =
        (names.map (m.handler e)).map (Handler.regroup (Name.moduleKey d)) := by
      intro names
      rw [List.map_map]
      exact List.map_congr_left fun n _ => (regroup_handler m h n).symm
    rw [vertices_ofManifest d, names_ofManifest_eq m d e, hn, ← vertices_ofManifest]
  have he : (ofManifest d m).graph.edges = (ofManifest e m).graph.edges := by
    rw [(hwf d).edges_eq, (hwf e).edges_eq, names_ofManifest_eq m d e, labels_ofManifest_eq m d e]
  exact congrArg₂ Graph.mk hv he

open Manifest (combine)

/-- **A greater depth refines the modules.**  Whatever the manifests are, graphs of two depths have
the same vertices, but for their modules, and the same edges, all in the same order.  Vertices that
share a module at the greater depth share one at the smaller depth, which has no more modules, and
whose flows between modules are flows between modules at the greater depth. -/
theorem graph_of_depths (ms : List Manifest) {d e : Nat} (h : d ≤ e) :
    let g := (ofManifest d (combine ms)).graph
    let g' := (ofManifest e (combine ms)).graph
    g = g'.regroup (Name.moduleKey d)
    ∧ g.vertices.map Handler.name = g'.vertices.map Handler.name
    ∧ g.edges = g'.edges
    ∧ g.flows.map Flow.label = g'.flows.map Flow.label
    ∧ (∀ v ∈ g.vertices, ∀ w ∈ g.vertices, ∀ v' ∈ g'.vertices, ∀ w' ∈ g'.vertices,
        v'.name = v.name → w'.name = w.name → v'.moduleKey = w'.moduleKey →
        v.moduleKey = w.moduleKey)
    ∧ g.modules.length ≤ g'.modules.length
    ∧ (g.interModule.flows.map Flow.label).Sublist (g'.interModule.flows.map Flow.label) := by
  intro g g'
  have hg' : g'.WellFormed := Graph.WellFormed.join _ _
  have hreg : g = g'.regroup (Name.moduleKey d) := graph_ofManifest_of_le (combine ms) h
  refine ⟨hreg, names_ofManifest_eq _ d e, ?_, labels_ofManifest_eq _ d e, ?_, ?_, ?_⟩
  · rw [hreg]
    rfl
  · intro v hv w hw v' hv' w' hw' hvn hwn hk
    rw [hreg] at hv hw
    rw [hg'.eq_regroup_of_name_eq hv hv' hvn, hg'.eq_regroup_of_name_eq hw hw' hwn]
    exact congrArg (Name.moduleKey d) hk
  · rw [hreg]
    exact Graph.length_modules_regroup_le _ g'
  · rw [hreg]
    exact hg'.labels_interModule_regroup _

/-- a shop, names without a second segment, and names with nothing before or behind the dot -/
def street : List Manifest :=
  [⟨∅, ∅, [⟨.publisher, "shop.till", ["m"]⟩, ⟨.consumer, "shop.desk", ["m"]⟩]⟩,
    ⟨∅, ∅, [⟨.consumer, "shop", ["m"]⟩, ⟨.consumer, "", ["m"]⟩, ⟨.consumer, ".", ["m"]⟩,
      ⟨.consumer, "shop.", ["m"]⟩]⟩]

/-- two modules fall into six, and the flow out of the shop stays between modules -/
theorem graph_of_depths_street :
    0 ≤ 2
    ∧ (ofManifest 0 (combine street)).graph.modules = ["", "shop"]
    ∧ (ofManifest 2 (combine street)).graph.modules =
      ["", ".", "shop", "shop.", "shop.desk", "shop.till"]
    ∧ (ofManifest 0 (combine street)).graph.edges = (ofManifest 2 (combine street)).graph.edges
    ∧ ("shop.till", ".", .ofName "m") ∈
      (ofManifest 2 (combine street)).graph.interModule.flows.map Flow.label := by
  have h : 0 ≤ 2 := by decide
  obtain ⟨-, -, hedges, -, -, -, hflows⟩ := graph_of_depths street h
  refine ⟨h, by decide, by decide, hedges, hflows.subset ?_⟩
  decide

end MessageFlow.Analysis
