import MessageFlow.Diagram.Selection
import MessageFlow.Proofs.Diagram.Palette
import MessageFlow.Proofs.Graph.Agreement

/-!
# What a drawing shows

A diagram of a graph has one node for every vertex and one arrow for every flow
(`Diagram.shows_ofGraph`), the row of the class is highlighted in the node of that name only, and the
row of the module has the colour of the module's number.  The graph that is drawn is told apart by
what its start leads to and by the modules of the ends:

* `Graph.select_of_not_contains`   a start that the graph does not have changes nothing;
* `WellFormed.mem_flows_select`, `WellFormed.mem_vertices_select`   what is drawn from a start.
-/

namespace MessageFlow

/-- every member stands in the group of its key -/
theorem flatMap_filter_perm {α κ : Type} [DecidableEq κ] (f : α → κ) {keys : List κ}
    (hk : keys.Nodup) {l : List α} (h : ∀ x ∈ l, f x ∈ keys) :
    (keys.flatMap fun key => l.filter (f · = key)).Perm l := by
  induction keys generalizing l with
  | nil => rw [List.eq_nil_iff_forall_not_mem.mpr fun x hx => List.not_mem_nil (h x hx)]; rfl
  | cons key keys ih =>
    obtain ⟨hn, hk⟩ := List.nodup_cons.mp hk
    have hrest : ∀ x ∈ l.filter (fun x => !decide (f x = key)), f x ∈ keys := by
      intro x hx
      obtain ⟨hx, hne⟩ := List.mem_filter.mp hx
      exact (List.mem_cons.mp (h x hx)).resolve_left (by simpa using hne)
    have hgroups : (keys.flatMap fun k => l.filter (f · = k))
        = keys.flatMap fun k => (l.filter (fun x => !decide (f x = key))).filter (f · = k) := by
      refine List.flatMap_congr fun k hmem => ?_
      rw [List.filter_filter]
      refine List.filter_congr fun x _ => ?_
      have hne : k ≠ key := fun he => hn (he ▸ hmem)
      by_cases hx : f x = k <;> simp [hx, hne]
    rw [List.flatMap_cons, hgroups]
    exact ((ih hk hrest).append_left _).trans (List.filter_append_perm _ l)

namespace Diagram

/-- the nodes of all clusters -/
def nodes (d : Diagram) : List Node := d.clusters.flatMap Cluster.nodes

/-- one node for each of these vertices and one arrow for each of these flows -/
structure Shows (d : Diagram) (vertices : List Handler) (flows : List Flow) : Prop where
  nodes : (d.nodes.map Node.id).Perm (vertices.map Handler.name)
  arrows : d.arrows.Perm (flows.map arrow)

section
variable (s : DiagramSettings) (g : Graph) (highlight : Option String)

theorem nodes_ofGraph_perm : (ofGraph s g highlight).nodes.Perm
    (g.vertices.map (node s (.ofGraph g s.palette s.unknownColor) highlight)) := by
  have hgroups : (g.modules.flatMap fun key => g.sortedVertices.filter (·.moduleKey = key)).Perm
      g.sortedVertices := by
    refine flatMap_filter_perm Handler.moduleKey g.modules_nodup fun v hv => ?_
    exact Graph.mem_modules.mpr (List.mem_map_of_mem (g.sortedVertices_perm.mem_iff.mp hv))
  have h := (hgroups.trans g.sortedVertices_perm).map
    (node s (.ofGraph g s.palette s.unknownColor) highlight)
  rw [List.map_flatMap] at h
  rw [nodes, ofGraph, List.flatMap_map]
  exact h

theorem shows_ofGraph : (ofGraph s g highlight).Shows g.vertices g.flows where
  nodes := by
    have h := (nodes_ofGraph_perm s g highlight).map Node.id
    rw [List.map_map] at h
    exact h
  arrows := g.sortedFlows_perm.map arrow

variable {s g highlight}

theorem exists_of_mem_nodes {n : Node} (h : n ∈ (ofGraph s g highlight).nodes) :
    ∃ v ∈ g.vertices, n = node s (.ofGraph g s.palette s.unknownColor) highlight v := by
  obtain ⟨v, hv, rfl⟩ := List.mem_map.mp ((nodes_ofGraph_perm s g highlight).mem_iff.mp h)
  exact ⟨v, hv, rfl⟩

theorem classColor_of_mem_nodes {n : Node} (h : n ∈ (ofGraph s g highlight).nodes) :
    n.classColor = if highlight = some n.id then s.highlightColor else plainColor := by
  obtain ⟨v, _, rfl⟩ := exists_of_mem_nodes h
  rfl

/-- the module of a node has a number, and the colour of that number -/
theorem moduleColor_of_mem_nodes (hp : s.palette ≠ []) {n : Node}
    (h : n ∈ (ofGraph s g highlight).nodes) :
    ∃ v ∈ g.vertices, n.id = v.name ∧ ∃ i, g.modules[i]? = some v.moduleKey
      ∧ s.palette[i % s.palette.length]? = some n.moduleColor := by
  obtain ⟨v, hv, rfl⟩ := exists_of_mem_nodes h
  obtain ⟨i, hi⟩ := List.mem_iff_getElem?.mp (Graph.mem_modules.mpr (List.mem_map_of_mem hv))
  exact ⟨v, hv, rfl, i, hi, ModulePalette.color_ofGraph _ hp hi⟩

/-- the colour for everything else is in no diagram -/
theorem ofGraph_of_unknownColor (hp : s.palette ≠ []) (unknown : String) :
    ofGraph { s with unknownColor := unknown } g highlight = ofGraph s g highlight := by
  have hcolor : ∀ key ∈ g.modules, (ModulePalette.ofGraph g s.palette unknown).color key
      = (ModulePalette.ofGraph g s.palette s.unknownColor).color key := fun key hkey => by
    obtain ⟨i, hi⟩ := List.mem_iff_getElem?.mp hkey
    have h1 := ModulePalette.color_ofGraph unknown hp hi
    rw [ModulePalette.color_ofGraph s.unknownColor hp hi] at h1
    exact (Option.some.inj h1).symm
  have hclusters : (ofGraph { s with unknownColor := unknown } g highlight).clusters
      = (ofGraph s g highlight).clusters := by
    refine List.map_congr_left fun key hkey => congrArg (Cluster.mk key) ?_
    refine List.map_congr_left fun v hv => ?_
    have hv : v.moduleKey = key := of_decide_eq_true (List.mem_filter.mp hv).2
    rw [node, node, hv, hcolor key hkey]
  rw [ofGraph, ofGraph] at hclusters ⊢
  exact congrArg (fun cs => (⟨_, _, _, cs, _⟩ : Diagram)) hclusters

end

end Diagram

/-- the diagram that a selection is drawn as -/
def Selection.diagram (s : DiagramSettings) (x : Selection) : Diagram :=
  Diagram.ofGraph s x.graph x.highlight

theorem Selection.classColor_of_mem_nodes {s : DiagramSettings} {x : Selection} {n : Node}
    (h : n ∈ (x.diagram s).nodes) :
    n.classColor = if x.highlight = some n.id then s.highlightColor else Diagram.plainColor :=
  Diagram.classColor_of_mem_nodes h

namespace Graph

variable {g : Graph} {start : Option String} {only : Bool}

theorem select_of_not_contains (h : ∀ name, start = some name → g.contains name = false) :
    g.select start only = g.select none only := by
  have hs : start.filter g.contains = none := by
    cases start with
    | none => rfl
    | some name => rw [Option.filter, h name rfl]; rfl
  rw [select, select, reached, hs]
  rfl

theorem highlight_select_none : (g.select none only).highlight = none := by
  cases only <;> rfl

section
variable (hg : g.WellFormed)
include hg

theorem WellFormed.select (start : Option String) (only : Bool) :
    (g.select start only).graph.WellFormed := by
  cases only with
  | true => exact WellFormed.interModule _
  | false =>
    show (g.reached start).graph.WellFormed
    unfold Graph.reached
    split
    · exact WellFormed.walkFrom g _
    · exact hg

variable {v : Handler} (hv : v ∈ g.vertices)
include hv

omit hg in
theorem select_of_mem : g.select (some v.name) only
    = ⟨if only then (g.walkFrom v.name).interModule else g.walkFrom v.name, some v.name⟩ := by
  have hc : g.contains v.name = true := contains_iff.mpr (List.mem_map_of_mem hv)
  rw [Graph.select, Graph.reached, Option.filter, if_pos hc]
  cases only <;> rfl

theorem WellFormed.mem_flows_select {f : Flow} :
    f ∈ (g.select (some v.name) only).graph.flows ↔ f ∈ g.flows
      ∧ g.Leads v.name f.source.name ∧ (only = true → f.source.moduleKey ≠ f.target.moduleKey) := by
  rw [select_of_mem hv]
  cases only with
  | false =>
    show f ∈ (g.walkFrom v.name).flows ↔ _
    simp only [hg.mem_flows_walkFrom_iff, Bool.false_eq_true, false_implies, and_true]
  | true =>
    show f ∈ (g.walkFrom v.name).interModule.flows ↔ _
    rw [(WellFormed.walkFrom g v.name).mem_flows_interModule, hg.mem_flows_walkFrom_iff,
      Flow.isInterModule, decide_eq_true_iff, and_assoc]
    simp only [true_implies]

theorem WellFormed.mem_vertices_select {x : Handler} :
    x ∈ (g.select (some v.name) only).graph.vertices ↔
      if only then
        ∃ f ∈ (g.select (some v.name) only).graph.flows, f.source = x ∨ f.target = x
      else x ∈ g.vertices ∧ g.Leads v.name x.name := by
  rw [select_of_mem hv]
  cases only with
  | false => exact hg.mem_vertices_walkFrom_iff
  | true =>
    have hw := WellFormed.walkFrom g v.name
    show x ∈ (g.walkFrom v.name).interModule.vertices ↔
      ∃ f ∈ (g.walkFrom v.name).interModule.flows, f.source = x ∨ f.target = x
    rw [hw.mem_vertices_interModule]
    simp only [hw.mem_flows_interModule, mem_ends, and_assoc]

/-- **What is drawn from a start**: the flows that leave what it leads to, all of them or those between
different modules, and what it leads to or the ends of these flows; the start is highlighted. -/
theorem WellFormed.shows_select (s : DiagramSettings) (only : Bool) :
    ∃ (vertices : List Handler) (flows : List Flow),
      ((g.select (some v.name) only).diagram s).Shows vertices flows
      ∧ vertices.Nodup ∧ flows.Nodup
      ∧ (∀ f, f ∈ flows ↔ f ∈ g.flows ∧ g.Leads v.name f.source.name
        ∧ (only = true → f.source.moduleKey ≠ f.target.moduleKey))
      ∧ (∀ x, x ∈ vertices ↔ if only then ∃ f ∈ flows, f.source = x ∨ f.target = x
        else x ∈ g.vertices ∧ g.Leads v.name x.name)
      ∧ ∀ n ∈ ((g.select (some v.name) only).diagram s).nodes,
        n.classColor = if n.id = v.name then s.highlightColor else Diagram.plainColor := by
  have hw := hg.select (some v.name) only
  refine ⟨(g.select (some v.name) only).graph.vertices, (g.select (some v.name) only).graph.flows,
    Diagram.shows_ofGraph _ _ _, hw.nodup_vertices, hw.flows_nodup,
    fun f => hg.mem_flows_select hv, fun x => hg.mem_vertices_select hv, fun n hn => ?_⟩
  rw [Selection.classColor_of_mem_nodes hn, select_of_mem hv]
  exact if_congr (Option.some_inj.trans eq_comm) rfl rfl

end

end Graph

end MessageFlow
