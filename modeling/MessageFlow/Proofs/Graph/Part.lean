import MessageFlow.Proofs.Graph.Growth

/-!
# Parts of a graph

`Part w g` says that the well-formed graph `w` has vertices and flows of `g` only.  A vertex or flow
of `g` that is added to such a part absorbs nothing, since what `w` has under the same name is
already the same, with all its remarks.  So a part grows like a list of distinct members:

* `Part.vertices_addVertex`   a vertex of `g` comes last, unless it is there;
* `Part.flows_addFlow`        so does a flow of `g`, and its ends are added before it;
* `Part.vertices_addFlows`, `Part.flows_addFlows`   the same for a list of flows;
* `WellFormed.flows_interModule`, `WellFormed.vertices_interModule`   so nothing but the flows inside
  a module is lost when the flows between modules are added to an empty graph.
-/

namespace MessageFlow

/-- adds a member at the end unless it is there -/
def appendNew {α : Type} [DecidableEq α] (l : List α) (x : α) : List α :=
  if x ∈ l then l else l ++ [x]

theorem mem_appendNew {α : Type} [DecidableEq α] {l : List α} {x y : α} :
    y ∈ appendNew l x ↔ y ∈ l ∨ y = x := by
  unfold appendNew
  split
  · rename_i h
    constructor
    · exact Or.inl
    · rintro (hy | rfl)
      · exact hy
      · exact h
  · rw [List.mem_append, List.mem_singleton]

theorem mem_foldl_appendNew {α : Type} [DecidableEq α] {l xs : List α} {y : α} :
    y ∈ xs.foldl appendNew l ↔ y ∈ l ∨ y ∈ xs := by
  induction xs generalizing l with
  | nil => rw [List.foldl_nil, List.mem_nil_iff, or_false]
  | cons x xs ih => rw [List.foldl_cons, ih, mem_appendNew, List.mem_cons, or_assoc]

theorem foldl_appendNew_eraseDups {α : Type} [DecidableEq α] (l xs : List α) :
    xs.foldl appendNew l.eraseDups = (l ++ xs).eraseDups := by
  induction xs generalizing l with
  | nil => rw [List.append_nil]; rfl
  | cons x xs ih =>
    have h1 : appendNew l.eraseDups x = (l ++ [x]).eraseDups := by
      simp only [appendNew, eraseDups_concat, List.mem_eraseDups]
    rw [List.foldl_cons, h1, ih, List.append_assoc]
    rfl

theorem foldl_appendNew_of_nodup {α : Type} [DecidableEq α] {l xs : List α}
    (h : (l ++ xs).Nodup) : xs.foldl appendNew l = l ++ xs := by
  induction xs generalizing l with
  | nil => exact (List.append_nil l).symm
  | cons x xs ih =>
    have h1 : l ++ x :: xs = (l ++ [x]) ++ xs := by rw [List.append_assoc]; rfl
    have hx : x ∉ l := fun hx => (List.nodup_append.mp h).2.2 x hx x List.mem_cons_self rfl
    rw [List.foldl_cons, appendNew, if_neg hx, h1]
    exact ih (h1 ▸ h)

namespace Graph

/-- a well-formed graph whose vertices and flows are vertices and flows of `g` -/
structure Part (w g : Graph) : Prop where
  wellFormed : w.WellFormed
  vertices_subset : ∀ v ∈ w.vertices, v ∈ g.vertices
  flows_subset : ∀ f ∈ w.flows, f ∈ g.flows

theorem Part.empty (g : Graph) : Part ∅ g :=
  ⟨WellFormed.empty, fun _ h => (List.not_mem_nil h).elim, fun _ h => (List.not_mem_nil h).elim⟩

variable {w g : Graph} {v : Handler} {f : Flow}

/-! ### adding a vertex -/

/-- a vertex that is there absorbs itself -/
theorem WellFormed.addVertex_of_mem (hw : w.WellFormed) (hv : v ∈ w.vertices) :
    ∃ i, w.vertices[i]? = some v ∧ w.addVertex v = (w, i) := by
  obtain ⟨i, hi⟩ := List.mem_iff_getElem?.mp hv
  refine ⟨i, hi, ?_⟩
  have h1 : w.vertices.modify i (·.absorb v) = w.vertices :=
    modify_eq_of_fixed hi (Handler.absorb_self v)
  rw [addVertex_of_position? (hw.position?_of_getElem? hi), h1]

/-- what `g` has under some name is what its part has under it, if anything -/
theorem Part.addVertex_of_not_mem (hw : Part w g) (hg : g.WellFormed) (hv : v ∈ g.vertices)
    (hn : v ∉ w.vertices) :
    w.addVertex v = (⟨w.vertices ++ [v], w.edges⟩, w.vertices.length) := by
  apply addVertex_of_absent
  rw [position?_eq_none_iff]
  intro h
  obtain ⟨x, hx, hname⟩ := List.mem_map.mp h
  have h1 : x = v := hg.vertex_inj (hw.vertices_subset x hx) hv hname
  exact hn (h1 ▸ hx)

theorem Part.vertices_addVertex (hw : Part w g) (hg : g.WellFormed) (hv : v ∈ g.vertices) :
    (w.addVertex v).1.vertices = appendNew w.vertices v := by
  by_cases hm : v ∈ w.vertices
  · obtain ⟨i, _, h1⟩ := hw.wellFormed.addVertex_of_mem hm
    rw [h1, appendNew, if_pos hm]
  · rw [hw.addVertex_of_not_mem hg hv hm, appendNew, if_neg hm]

/-- the position that `addVertex` tells is that of the vertex -/
theorem Part.getElem?_addVertex (hw : Part w g) (hg : g.WellFormed) (hv : v ∈ g.vertices) :
    (w.addVertex v).1.vertices[(w.addVertex v).2]? = some v := by
  by_cases hm : v ∈ w.vertices
  · obtain ⟨i, hi, h1⟩ := hw.wellFormed.addVertex_of_mem hm
    rw [h1]
    exact hi
  · rw [hw.addVertex_of_not_mem hg hv hm]
    exact List.getElem?_concat_length

/-- vertices of a part keep their positions -/
theorem Part.getElem?_addVertex_of (hw : Part w g) (hg : g.WellFormed) (hv : v ∈ g.vertices)
    {i : Nat} {x : Handler} (hi : w.vertices[i]? = some x) :
    (w.addVertex v).1.vertices[i]? = some x := by
  rw [hw.vertices_addVertex hg hv, appendNew]
  split
  · exact hi
  · obtain ⟨hlt, _⟩ := List.getElem?_eq_some_iff.mp hi
    rw [List.getElem?_append_left hlt]
    exact hi

theorem Part.flows_addVertex (hw : Part w g) (hg : g.WellFormed) (hv : v ∈ g.vertices) :
    (w.addVertex v).1.flows = w.flows := by
  rw [flows, flows, edges_addVertex]
  apply List.filterMap_congr
  intro e he
  obtain ⟨x, hx⟩ := hw.wellFormed.exists_flow? he
  obtain ⟨hs, ht, hm⟩ := flow?_eq_some_iff.mp hx
  rw [hx, flow?_eq_some_iff]
  exact ⟨hw.getElem?_addVertex_of hg hv hs, hw.getElem?_addVertex_of hg hv ht, hm⟩

theorem Part.addVertex (hw : Part w g) (hg : g.WellFormed) (hv : v ∈ g.vertices) :
    Part (w.addVertex v).1 g where
  wellFormed := hw.wellFormed.addVertex v
  vertices_subset := by
    rw [hw.vertices_addVertex hg hv]
    intro x hx
    rcases mem_appendNew.mp hx with hx | rfl
    · exact hw.vertices_subset x hx
    · exact hv
  flows_subset := by
    rw [hw.flows_addVertex hg hv]
    exact hw.flows_subset

/-! ### adding an edge -/

section
variable {i j : Nat} (hw : Part w g) (hg : g.WellFormed) (hf : f ∈ g.flows)
  (hi : w.vertices[i]? = some f.source) (hj : w.vertices[j]? = some f.target)
include hw hg hf hi hj

theorem Part.flows_addEdge : (w.addEdge i j f.message).1.flows = appendNew w.flows f := by
  have h1 := hw.wellFormed.key_mem_iff hi hj
  by_cases hk : (i, j, f.message.name) ∈ w.edges.map Edge.key
  · obtain ⟨hilt, _⟩ := List.getElem?_eq_some_iff.mp hi
    obtain ⟨hjlt, _⟩ := List.getElem?_eq_some_iff.mp hj
    obtain ⟨k, e, he, hke, h2⟩ := addEdge_of_present hilt hjlt hk
    have hmem : e ∈ w.edges := List.mem_of_getElem? he
    -- the edge that is found is the edge of this flow, so it absorbs its own message
    obtain ⟨x, hx, hxk⟩ := hw.wellFormed.exists_flow?_of_key hi hj hmem hke
    have hxw : x ∈ w.flows := mem_flows.mpr ⟨e, hmem, hx⟩
    obtain rfl : x = f := hg.eq_of_key_eq (hw.flows_subset x hxw) hf hxk
    have hfix : { e with message := e.message.absorb x.message } = e := by
      rw [← (flow?_eq_some_iff.mp hx).2.2, Message.absorb_self]
    rw [h2, modify_eq_of_fixed he hfix, appendNew, if_pos hxw]
  · have hn : f ∉ w.flows := fun h => hk (h1.mpr (List.mem_map_of_mem h))
    rw [flows_addEdge_of_absent hi hj hk, appendNew, if_neg hn]

theorem Part.addEdge : Part (w.addEdge i j f.message).1 g where
  wellFormed := hw.wellFormed.addEdge i j f.message
  vertices_subset := by
    rw [vertices_addEdge]
    exact hw.vertices_subset
  flows_subset := by
    rw [hw.flows_addEdge hg hf hi hj]
    intro x hx
    rcases mem_appendNew.mp hx with hx | rfl
    · exact hw.flows_subset x hx
    · exact hf

end

/-! ### adding flows -/

section
variable (hw : Part w g) (hg : g.WellFormed)
include hw hg

/-- with its ends added, a flow of `g` finds them -/
theorem Part.addFlow_ends (hf : f ∈ g.flows) :
    ∃ (x : Graph) (i j : Nat), Part x g ∧ x.vertices[i]? = some f.source
      ∧ x.vertices[j]? = some f.target ∧ x.vertices = f.ends.foldl appendNew w.vertices
      ∧ x.flows = w.flows ∧ w.addFlow f = x.addEdge i j f.message := by
  have hs : f.source ∈ g.vertices := source_mem_of_mem_flows hf
  have ht : f.target ∈ g.vertices := target_mem_of_mem_flows hf
  have h1 := hw.addVertex hg hs
  have h2 := h1.addVertex hg ht
  refine ⟨((w.addVertex f.source).1.addVertex f.target).1, (w.addVertex f.source).2,
    ((w.addVertex f.source).1.addVertex f.target).2, h2, ?_, h1.getElem?_addVertex hg ht, ?_, ?_, rfl⟩
  · exact h1.getElem?_addVertex_of hg ht (hw.getElem?_addVertex hg hs)
  · rw [h1.vertices_addVertex hg ht, hw.vertices_addVertex hg hs]
    rfl
  · rw [h1.flows_addVertex hg ht, hw.flows_addVertex hg hs]

theorem Part.vertices_addFlow (hf : f ∈ g.flows) :
    (w.addFlow f).1.vertices = f.ends.foldl appendNew w.vertices := by
  obtain ⟨x, i, j, _, _, _, hx, _, h1⟩ := hw.addFlow_ends hg hf
  rw [h1, vertices_addEdge, hx]

theorem Part.flows_addFlow (hf : f ∈ g.flows) :
    (w.addFlow f).1.flows = appendNew w.flows f := by
  obtain ⟨x, i, j, hp, hi, hj, _, hx, h1⟩ := hw.addFlow_ends hg hf
  rw [h1, hp.flows_addEdge hg hf hi hj, hx]

theorem Part.addFlow (hf : f ∈ g.flows) : Part (w.addFlow f).1 g := by
  obtain ⟨x, i, j, hp, hi, hj, _, _, h1⟩ := hw.addFlow_ends hg hf
  rw [h1]
  exact hp.addEdge hg hf hi hj

end

theorem Part.addFlows (hw : Part w g) (hg : g.WellFormed) {fs : List Flow}
    (hfs : ∀ f ∈ fs, f ∈ g.flows) : Part (w.addFlows fs) g := by
  induction fs generalizing w with
  | nil => exact hw
  | cons f fs ih =>
    obtain ⟨hf, hfs⟩ := List.forall_mem_cons.mp hfs
    exact ih (hw.addFlow hg hf) hfs

/-- the ends of the flows that are added come in the order of their first appearance -/
theorem Part.vertices_addFlows (hw : Part w g) (hg : g.WellFormed) {fs : List Flow}
    (hfs : ∀ f ∈ fs, f ∈ g.flows) :
    (w.addFlows fs).vertices = (fs.flatMap Flow.ends).foldl appendNew w.vertices := by
  induction fs generalizing w with
  | nil => rfl
  | cons f fs ih =>
    obtain ⟨hf, hfs⟩ := List.forall_mem_cons.mp hfs
    have h1 : ((w.addFlow f).1.addFlows fs).vertices
        = (fs.flatMap Flow.ends).foldl appendNew (w.addFlow f).1.vertices :=
      ih (hw.addFlow hg hf) hfs
    rw [List.flatMap_cons, List.foldl_append, ← hw.vertices_addFlow hg hf]
    exact h1

theorem Part.flows_addFlows (hw : Part w g) (hg : g.WellFormed) {fs : List Flow}
    (hfs : ∀ f ∈ fs, f ∈ g.flows) : (w.addFlows fs).flows = fs.foldl appendNew w.flows := by
  induction fs generalizing w with
  | nil => rfl
  | cons f fs ih =>
    obtain ⟨hf, hfs⟩ := List.forall_mem_cons.mp hfs
    have h1 : ((w.addFlow f).1.addFlows fs).flows = fs.foldl appendNew (w.addFlow f).1.flows :=
      ih (hw.addFlow hg hf) hfs
    rw [List.foldl_cons, ← hw.flows_addFlow hg hf]
    exact h1

/-! ### flows between modules -/

section
variable (hg : g.WellFormed)
include hg

/-- flows between different modules keep their order, and every one is left -/
theorem WellFormed.flows_interModule :
    g.interModule.flows = g.flows.filter Flow.isInterModule := by
  have h1 : ([] ++ g.flows.filter Flow.isInterModule).Nodup := hg.flows_nodup.filter _
  rw [Graph.interModule, (Part.empty g).flows_addFlows hg fun _ => List.mem_of_mem_filter]
  exact foldl_appendNew_of_nodup h1

theorem WellFormed.vertices_interModule :
    g.interModule.vertices =
      ((g.flows.filter Flow.isInterModule).flatMap Flow.ends).eraseDups := by
  rw [Graph.interModule, (Part.empty g).vertices_addFlows hg fun _ => List.mem_of_mem_filter]
  exact foldl_appendNew_eraseDups [] _

theorem WellFormed.part_interModule : Part g.interModule g :=
  (Part.empty g).addFlows hg fun _ => List.mem_of_mem_filter

theorem WellFormed.mem_flows_interModule :
    f ∈ g.interModule.flows ↔ f ∈ g.flows ∧ f.isInterModule = true := by
  rw [hg.flows_interModule, List.mem_filter]

theorem WellFormed.mem_vertices_interModule :
    v ∈ g.interModule.vertices ↔ ∃ f ∈ g.flows, f.isInterModule = true ∧ v ∈ f.ends := by
  simp only [hg.vertices_interModule, List.mem_eraseDups, List.mem_flatMap, List.mem_filter,
    and_assoc]

end

end Graph

end MessageFlow
