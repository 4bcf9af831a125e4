import MessageFlow.Proofs.Diagram.Reading
import MessageFlow.Proofs.Graph.Sorted

/-!
# Graphs are drawn as they are

The DOT text of a graph is read as one cluster for every module with one node for every vertex, and
one edge for every edge of the graph, in the order of their names (`read_dot`).  Names, comments,
entry points and colours come back from the places that they were put in, and make no structure of
their own, whatever characters they consist of.
-/

namespace MessageFlow

/-- what hovers over a vertex: where a process starts, and the comment, on lines of their own -/
def Handler.hoverText (v : Handler) : Option String :=
  if v.entryPoint.isSome ∨ v.comment.isSome then
    some ("\n".intercalate ((v.entryPoint.map ("Entry point: " ++ ·)).toList ++ v.comment.toList))
  else none

theorem Handler.tooltip_eq (v : Handler) : v.tooltip = v.hoverText := by
  unfold tooltip hoverText
  cases v.entryPoint <;> cases v.comment <;> simp

namespace Graph

variable {g : Graph}

/-! ### the order of things -/

/-- the content of a graph in the order in which it is drawn: every module, vertex and edge once -/
structure Arrangement (g : Graph) where
  /-- module keys, and the vertices of each module -/
  modules : List (String × List Handler)
  flows : List Flow
  modules_ascending : (modules.map Prod.fst).Pairwise (· < ·)
  mem_modules : ∀ key, key ∈ modules.map Prod.fst ↔ ∃ v ∈ g.vertices, v.moduleKey = key
  vertices_ascending : ∀ m ∈ modules, m.2.Pairwise (fun v w => v.name < w.name)
  mem_vertices : ∀ m ∈ modules, ∀ v, v ∈ m.2 ↔ v ∈ g.vertices ∧ v.moduleKey = m.1
  flows_ascending : flows.Pairwise (fun f f' => f.rank < f'.rank)
  flows_perm : (flows.map some).Perm (g.edges.map g.flow?)

def arrangement (g : Graph) (hg : g.WellFormed) : g.Arrangement where
  modules := g.modules.map fun key => (key, g.sortedVertices.filter (·.moduleKey = key))
  flows := g.sortedFlows
  modules_ascending := by
    rw [List.map_map, Function.comp_def, List.map_id']
    exact g.modules_ascending
  mem_modules := by
    intro key
    rw [List.map_map, Function.comp_def, List.map_id', Graph.mem_modules, List.mem_map]
  vertices_ascending := by
    intro m hm
    obtain ⟨key, -, rfl⟩ := List.mem_map.mp hm
    exact hg.sortedVertices_strict.filter _
  mem_vertices := by
    intro m hm v
    obtain ⟨key, -, rfl⟩ := List.mem_map.mp hm
    rw [List.mem_filter, g.sortedVertices_perm.mem_iff, decide_eq_true_eq]
  flows_ascending := hg.sortedFlows_strict
  flows_perm := by
    rw [← hg.map_some_flows]
    exact g.sortedFlows_perm.map some

/-! ### what is drawn -/

def vertexStatement (s : DiagramSettings) (color : String) (highlight : Option String)
    (v : Handler) : Dot.Statement :=
  Dot.nodeStatement v.name color v.namespaceOf
    (if highlight = some v.name then s.highlightColor else "white") v.className v.hoverText

def flowStatement (f : Flow) : Dot.Statement :=
  Dot.arrowStatement f.source.name f.target.name f.message.short f.message.comment

/-- the settings, a cluster for every module, and the edges -/
def Arrangement.document (a : g.Arrangement) (s : DiagramSettings) (highlight : Option String) :
    Dot.Document where
  name := .word "G"
  items :=
    let colors := ModulePalette.ofGraph g s.palette s.unknownColor
    Dot.header s.direction s.splines
      ++ a.modules.map (fun m => Dot.clusterItem m.1 s.clusterColor
          (m.2.map (vertexStatement s (colors.color m.1) highlight)))
      ++ a.flows.map fun f => .statement (flowStatement f)

/-- the same with splines and borders that are read as these values -/
def Arrangement.documentWith (a : g.Arrangement) (s : DiagramSettings) (highlight : Option String)
    (splines border : Dot.Value) : Dot.Document where
  name := .word "G"
  items :=
    let colors := ModulePalette.ofGraph g s.palette s.unknownColor
    Dot.headerWith s.direction splines
      ++ a.modules.map (fun m => Dot.Item.subgraph (Dot.quoted ("cluster_" ++ m.1))
          (.setting (.word "label") (Dot.quoted m.1) :: .setting (.word "color") border
            :: .setting (.word "rank") (Dot.quoted "same")
            :: m.2.map (vertexStatement s (colors.color m.1) highlight)))
      ++ a.flows.map fun f => .statement (flowStatement f)

theorem statementOf_node (s : DiagramSettings) (p : ModulePalette) (highlight : Option String)
    (v : Handler) : Dot.statementOf (Diagram.node s p highlight v) =
      vertexStatement s (p.color v.moduleKey) highlight v := by
  rw [vertexStatement, ← Handler.tooltip_eq]
  rfl

theorem documentWith_ofGraph (hg : g.WellFormed) (s : DiagramSettings) (highlight : Option String)
    (splines border : Dot.Value) : Dot.documentWith splines border (Diagram.ofGraph s g highlight) =
      (g.arrangement hg).documentWith s highlight splines border := by
  -- the vertices of a cluster have the colour of its module
  have h1 : ∀ key, (g.sortedVertices.filter (·.moduleKey = key)).map (Dot.statementOf ∘
      Diagram.node s (.ofGraph g s.palette s.unknownColor) highlight) =
      (g.sortedVertices.filter (·.moduleKey = key)).map (vertexStatement s
        ((ModulePalette.ofGraph g s.palette s.unknownColor).color key) highlight) := by
    intro key
    refine List.map_congr_left fun v hv => ?_
    rw [Function.comp_apply, statementOf_node, of_decide_eq_true (List.mem_filter.mp hv).2]
  simp only [Dot.documentWith, Diagram.ofGraph, Arrangement.documentWith, arrangement,
    Dot.clusterWith, List.map_map, Function.comp_def] at h1 ⊢
  simp only [h1]
  rfl

theorem documentOf_ofGraph (hg : g.WellFormed) (s : DiagramSettings) (highlight : Option String) :
    Dot.documentOf (Diagram.ofGraph s g highlight) = (g.arrangement hg).document s highlight :=
  documentWith_ofGraph hg s highlight (.word s.splines) (.word s.clusterColor)

/-- **Names and comments make no structure.**  The DOT text of a graph is read as the settings, one
cluster for every module with one node for every vertex of it, and one edge for every edge, each in
strictly ascending order.  A node has a tooltip if its vertex has an entry point or a comment, and an
edge has one if its message has a comment.  Table texts are read as they are, and quoted texts are
read without their carriage returns. -/
theorem read_dot (hg : g.WellFormed) (s : DiagramSettings) (highlight : Option String)
    (h1 : Dot.isIdentifier s.splines = true) (h2 : Dot.isIdentifier s.clusterColor = true) :
    ∃ a : g.Arrangement, Dot.read (g.dot s highlight) = some (a.document s highlight) := by
  refine ⟨g.arrangement hg, ?_⟩
  rw [← documentOf_ofGraph hg]
  exact (Dot.spells_dot (Diagram.ofGraph s g highlight) h1 h2).read

/-- two handlers whose texts are full of delimiters -/
def awkward : Graph :=
  let a : Handler := ⟨"shop.\"Cart\"<T>\\", "shop\"\x7d", some "say \"hi\" <b>\\ok</b>\r\nbye]",
    some "\\\""⟩
  let b : Handler := ⟨"bank.<&amp;>.\n]", "bank -> \"", none, none⟩
  ((∅ : Graph).addFlow ⟨a, b, ⟨"shop.a \"quoted\" [tag]", some "\\"⟩⟩).1

theorem read_dot_awkward :
    awkward.WellFormed ∧ Dot.isIdentifier DiagramSettings.standard.splines = true
    ∧ Dot.isIdentifier DiagramSettings.standard.clusterColor = true
    ∧ ∃ a : awkward.Arrangement, Dot.read (awkward.dot DiagramSettings.standard none) =
        some (a.document DiagramSettings.standard none) := by
  have h1 : awkward.WellFormed := by decide
  have h2 : Dot.isIdentifier DiagramSettings.standard.splines = true := by decide
  have h3 : Dot.isIdentifier DiagramSettings.standard.clusterColor = true := by decide
  exact ⟨h1, h2, h3, read_dot h1 _ _ h2 h3⟩

end Graph

end MessageFlow
