import MessageFlow.Proofs.Graph.Part
import MessageFlow.Proofs.Graph.Sorted

/-!
# Coarser modules

`Graph.regroup φ g` puts every module `k` of `g` into the module `φ k`.  Names, edges and labels stay,
while modules may fall together: there are no more of them, and flows between modules become flows
within one, never the other way round.

* `flows_regroup`, `mem_modules_regroup`   flows and modules of the coarser graph;
* `length_modules_regroup_le`   there are no more modules;
* `WellFormed.labels_interModule_regroup`   every flow that is still between modules was so before.
-/

namespace MessageFlow

/-- the same handler in another module -/
def Handler.regroup (φ : String → String) (v : Handler) : Handler :=
  { v with moduleKey := φ v.moduleKey }

/-- the same flow with its ends in other modules -/
def Flow.regroup (φ : String → String) (f : Flow) : Flow :=
  ⟨f.source.regroup φ, f.target.regroup φ, f.message⟩

/-- one module is not sent to two -/
theorem Flow.isInterModule_of_regroup {φ : String → String} {f : Flow}
    (h : (f.regroup φ).isInterModule = true) : f.isInterModule = true := by
  rw [isInterModule, decide_eq_true_eq] at h ⊢
  exact fun he => h (congrArg φ he)

namespace Graph

/-- the same graph with its handlers in other modules -/
def regroup (φ : String → String) (g : Graph) : Graph :=
  { g with vertices := g.vertices.map (Handler.regroup φ) }

variable {φ : String → String} {g : Graph}

theorem names_regroup (φ : String → String) (g : Graph) :
    (g.regroup φ).vertices.map Handler.name = g.vertices.map Handler.name := by
  rw [regroup, List.map_map]
  rfl

theorem flow?_regroup (φ : String → String) (g : Graph) (e : Edge) :
    (g.regroup φ).flow? e = (g.flow? e).map (Flow.regroup φ) := by
  rw [flow?, flow?, regroup, List.getElem?_map, List.getElem?_map]
  cases g.vertices[e.source]? with
  | none => rfl
  | some v => cases g.vertices[e.target]? <;> rfl

theorem flows_regroup (φ : String → String) (g : Graph) :
    (g.regroup φ).flows = g.flows.map (Flow.regroup φ) := by
  rw [flows, flows, List.map_filterMap]
  exact List.filterMap_congr fun e _ => flow?_regroup φ g e

theorem WellFormed.regroup (hg : g.WellFormed) (φ : String → String) :
    (g.regroup φ).WellFormed where
  names_nodup := by
    rw [names_regroup]
    exact hg.names_nodup
  source_lt := by
    rw [Graph.regroup, List.length_map]
    exact hg.source_lt
  target_lt := by
    rw [Graph.regroup, List.length_map]
    exact hg.target_lt
  keys_nodup := hg.keys_nodup

/-- vertices of the coarser graph are told by their names -/
theorem WellFormed.eq_regroup_of_name_eq (hg : g.WellFormed) {v v' : Handler}
    (hv : v ∈ (g.regroup φ).vertices) (hv' : v' ∈ g.vertices) (hn : v'.name = v.name) :
    v = v'.regroup φ := by
  obtain ⟨w, hw, rfl⟩ := List.mem_map.mp hv
  rw [hg.vertex_inj hv' hw hn]

theorem mem_modules_regroup {key : String} :
    key ∈ (g.regroup φ).modules ↔ ∃ k ∈ g.modules, φ k = key := by
  rw [mem_modules, regroup, List.map_map]
  simp only [mem_modules, List.mem_map, Function.comp_apply, Handler.regroup,
    exists_exists_and_eq_and]

theorem length_modules_regroup_le (φ : String → String) (g : Graph) :
    (g.regroup φ).modules.length ≤ g.modules.length := by
  have hs : (g.regroup φ).modules ⊆ g.modules.map φ := by
    intro key hk
    exact List.mem_map.mpr (mem_modules_regroup.mp hk)
  have h1 := ((modules_nodup _).subperm hs).length_le
  rwa [List.length_map] at h1

/-- flows within a module stay within one -/
theorem WellFormed.labels_interModule_regroup (hg : g.WellFormed) (φ : String → String) :
    ((g.regroup φ).interModule.flows.map Flow.label).Sublist
      (g.interModule.flows.map Flow.label) := by
  rw [(hg.regroup φ).flows_interModule, hg.flows_interModule, flows_regroup, List.filter_map,
    List.map_map]
  apply List.Sublist.map
  exact List.monotone_filter_right _ fun f => Flow.isInterModule_of_regroup

end Graph

end MessageFlow
