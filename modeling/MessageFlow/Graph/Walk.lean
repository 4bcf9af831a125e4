import MessageFlow.Graph.Basic

/-!
# Walking a graph

`Graph.walkFrom` narrows a graph to what can be reached from one vertex along the directions of the
edges.  The search keeps a stack of positions and expands every position once: it adds the flows
that leave it, the last one first, and pushes their targets so that the first one is expanded next.
So cycles do no harm, and the search ends because every expansion leaves fewer positions unexpanded.

`Graph.Reaches` is the relation that the search decides.
-/

set_option linter.unusedVariables false

namespace MessageFlow.Graph

/-- a path of one or more edges leads from `i` to `j` -/
inductive Reaches (g : Graph) : Nat → Nat → Prop
  | edge {e : Edge} (h : e ∈ g.edges) : Reaches g e.source e.target
  | step {i : Nat} {e : Edge} (hi : Reaches g i e.source) (h : e ∈ g.edges) : Reaches g i e.target

/-- the positions of vertices that are not yet expanded -/
def unexpanded (g : Graph) (expanded : List Nat) : List Nat :=
  (List.range g.vertices.length).filter (· ∉ expanded)

theorem length_unexpanded_cons_lt (g : Graph) {expanded : List Nat} {i : Nat}
    (hi : i < g.vertices.length) (hn : i ∉ expanded) :
    (g.unexpanded (i :: expanded)).length < (g.unexpanded expanded).length := by
  have h1 : g.unexpanded (i :: expanded) = (g.unexpanded expanded).filter (· ≠ i) := by
    simp only [unexpanded, List.filter_filter]
    apply List.filter_congr
    intro j _
    simp [List.mem_cons, not_or]
  have h2 : i ∈ g.unexpanded expanded := by simp [unexpanded, hi, hn]
  have h3 := List.length_filter_lt_length_iff_exists (l := g.unexpanded expanded)
    (p := fun j => decide (j ≠ i))
  rw [h1]
  exact h3.mpr ⟨i, h2, by simp⟩

/-- adds to `walked` all that the positions on the stack lead to, save through expanded positions -/
def walkPending (g : Graph) (expanded : List Nat) : List Nat → Graph → Graph
  | [], walked => walked
  | i :: pending, walked =>
    if h : i < g.vertices.length ∧ i ∉ expanded then
      let out := g.outbound i
      let next := (out.map Edge.target).filter (· ∉ i :: expanded)
      walkPending g (i :: expanded) (next ++ pending)
        (walked.addFlows (out.reverse.filterMap g.flow?))
    else walkPending g expanded pending walked
termination_by pending _ => ((g.unexpanded expanded).length, pending.length)
decreasing_by
  · exact Prod.Lex.left _ _ (length_unexpanded_cons_lt g h.1 h.2)
  · exact Prod.Lex.right _ (Nat.lt_succ_self _)

/-- the vertex of that name with everything that it leads to; no vertex, no graph -/
def walkFrom (g : Graph) (start : String) : Graph :=
  match g.position? start, g.vertex? start with
  | some i, some v => g.walkPending [] [i] ((∅ : Graph).addVertex v).1
  | _, _ => ∅

end MessageFlow.Graph
