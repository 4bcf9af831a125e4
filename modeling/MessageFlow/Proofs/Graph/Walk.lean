import MessageFlow.Graph.Walk
import MessageFlow.Proofs.Graph.Part

/-!
# What a walk comes to

`Graph.walkFrom` gives the part of a graph that its start leads to, no more and no less.

* `LeadsTo g i j`        `j` is `i` itself or reachable from it;
* `Walked`               the invariant of the search: what the graph that is built has to do with
                         the positions that are expanded and those on the stack;
* `Walked.expand`, `Walked.skip`   the two steps keep it;
* `Walked.walkPending`   so the search keeps it, and ends with an empty stack;
* `Walked.mem_expanded_iff`   then the expanded positions are those that the start leads to;
* `visits`, `walkPending_eq_addFlows`   the flows that the search adds, as a list;
* `walkFrom_iff_leadsTo`      the vertices and flows of a walk.
-/

namespace MessageFlow.Graph

/-- `j` is `i` or reachable from it -/
def LeadsTo (g : Graph) (i j : Nat) : Prop := j = i ∨ g.Reaches i j

variable {g w : Graph} {i j : Nat} {expanded pending : List Nat}

theorem LeadsTo.edge {e : Edge} (h : g.LeadsTo i e.source) (he : e ∈ g.edges) :
    g.LeadsTo i e.target := by
  right
  rcases h with rfl | h
  · exact Reaches.edge he
  · exact Reaches.step h he

/-- the last edge of a path -/
theorem Reaches.exists_edge (h : g.Reaches i j) :
    ∃ e ∈ g.edges, g.LeadsTo i e.source ∧ e.target = j := by
  cases h with
  | edge he => exact ⟨_, he, .inl rfl, rfl⟩
  | step hi he => exact ⟨_, he, .inr hi, rfl⟩

theorem WellFormed.lt_of_leadsTo (hg : g.WellFormed) (hi : i < g.vertices.length)
    (h : g.LeadsTo i j) : j < g.vertices.length := by
  rcases h with rfl | h
  · exact hi
  · obtain ⟨e, he, _, rfl⟩ := h.exists_edge
    exact hg.target_lt e he

/-! ### the flows that leave a position -/

theorem mem_outbound {e : Edge} : e ∈ g.outbound j ↔ e ∈ g.edges ∧ e.source = j := by
  rw [outbound, List.mem_filter, decide_eq_true_iff]

theorem mem_outbound_flows {f : Flow} :
    f ∈ (g.outbound j).reverse.filterMap g.flow? ↔
      ∃ e ∈ g.edges, e.source = j ∧ g.flow? e = some f := by
  rw [List.mem_filterMap]
  constructor
  · rintro ⟨e, he, hf⟩
    obtain ⟨h1, h2⟩ := mem_outbound.mp (List.mem_reverse.mp he)
    exact ⟨e, h1, h2, hf⟩
  · rintro ⟨e, h1, h2, hf⟩
    exact ⟨e, List.mem_reverse.mpr (mem_outbound.mpr ⟨h1, h2⟩), hf⟩

theorem outbound_flows_subset :
    ∀ f ∈ (g.outbound j).reverse.filterMap g.flow?, f ∈ g.flows := by
  intro f hf
  obtain ⟨e, he, _, h1⟩ := mem_outbound_flows.mp hf
  exact mem_flows.mpr ⟨e, he, h1⟩

theorem mem_ends {f : Flow} {v : Handler} : v ∈ f.ends ↔ f.source = v ∨ f.target = v := by
  rw [Flow.ends, List.mem_pair, eq_comm (a := v), eq_comm (a := v)]

/-- the vertices at the ends of the edges that leave a position -/
theorem WellFormed.mem_outbound_ends (hg : g.WellFormed) {v : Handler} :
    v ∈ ((g.outbound j).reverse.filterMap g.flow?).flatMap Flow.ends ↔
      ∃ e ∈ g.edges, e.source = j
        ∧ (g.vertices[e.source]? = some v ∨ g.vertices[e.target]? = some v) := by
  rw [List.mem_flatMap]
  constructor
  · rintro ⟨f, hf, hv⟩
    obtain ⟨e, he, hj, h1⟩ := mem_outbound_flows.mp hf
    obtain ⟨hs, ht, _⟩ := flow?_eq_some_iff.mp h1
    refine ⟨e, he, hj, ?_⟩
    rcases mem_ends.mp hv with rfl | rfl
    · exact .inl hs
    · exact .inr ht
  · rintro ⟨e, he, hj, hv⟩
    obtain ⟨f, hf⟩ := hg.exists_flow? he
    obtain ⟨hs, ht, _⟩ := flow?_eq_some_iff.mp hf
    refine ⟨f, mem_outbound_flows.mpr ⟨e, he, hj, hf⟩, mem_ends.mpr ?_⟩
    rw [hs, ht] at hv
    exact hv.imp Option.some.inj Option.some.inj

/-! ### the invariant of the search -/

/-- **The state of a search that began at `i`.**  What was expanded or waits on the stack is what `i`
leads to, the edges that leave an expanded position end at one of these, and the graph that is built
has the vertex at `i` and exactly the edges that leave expanded positions, with their ends. -/
structure Walked (g : Graph) (i : Nat) (expanded pending : List Nat) (w : Graph) : Prop where
  part : Part w g
  start : i ∈ expanded ∨ i ∈ pending
  leads : ∀ j, j ∈ expanded ∨ j ∈ pending → g.LeadsTo i j
  closed : ∀ e ∈ g.edges, e.source ∈ expanded → e.target ∈ expanded ∨ e.target ∈ pending
  mem_vertices : ∀ v, v ∈ w.vertices ↔ g.vertices[i]? = some v ∨ ∃ e ∈ g.edges,
    e.source ∈ expanded ∧ (g.vertices[e.source]? = some v ∨ g.vertices[e.target]? = some v)
  mem_flows : ∀ f, f ∈ w.flows ↔ ∃ e ∈ g.edges, e.source ∈ expanded ∧ g.flow? e = some f

/-- an edge that leaves an expanded position leaves the new one or one that was expanded before -/
theorem exists_edge_cons {p : Edge → Prop} :
    (∃ e ∈ g.edges, e.source ∈ j :: expanded ∧ p e) ↔
      (∃ e ∈ g.edges, e.source ∈ expanded ∧ p e) ∨ ∃ e ∈ g.edges, e.source = j ∧ p e := by
  constructor
  · rintro ⟨e, he, hs, hp⟩
    rcases List.mem_cons.mp hs with hs | hs
    · exact .inr ⟨e, he, hs, hp⟩
    · exact .inl ⟨e, he, hs, hp⟩
  · rintro (⟨e, he, hs, hp⟩ | ⟨e, he, hs, hp⟩)
    · exact ⟨e, he, List.mem_cons_of_mem _ hs, hp⟩
    · exact ⟨e, he, List.mem_cons.mpr (.inl hs), hp⟩

theorem Walked.init (hg : g.WellFormed) {v : Handler} (hi : g.vertices[i]? = some v) :
    Walked g i [] [i] ((∅ : Graph).addVertex v).1 where
  part := (Part.empty g).addVertex hg (List.mem_of_getElem? hi)
  start := .inr (List.mem_singleton.mpr rfl)
  leads := by
    rintro j (hj | hj)
    · exact (List.not_mem_nil hj).elim
    · exact .inl (List.mem_singleton.mp hj)
  closed := fun e _ hs => (List.not_mem_nil hs).elim
  mem_vertices := by
    intro x
    rw [(Part.empty g).vertices_addVertex hg (List.mem_of_getElem? hi), mem_appendNew, hi]
    constructor
    · rintro (hx | rfl)
      · exact (List.not_mem_nil hx).elim
      · exact .inl rfl
    · rintro (hx | ⟨e, _, hs, _⟩)
      · exact .inr (Option.some.inj hx).symm
      · exact (List.not_mem_nil hs).elim
  mem_flows := by
    intro f
    rw [(Part.empty g).flows_addVertex hg (List.mem_of_getElem? hi)]
    constructor
    · exact fun hf => (List.not_mem_nil hf).elim
    · rintro ⟨e, _, hs, _⟩
      exact (List.not_mem_nil hs).elim

/-- a position is expanded: its edges are added and their targets go onto the stack -/
theorem Walked.expand (hg : g.WellFormed) (h : Walked g i expanded (j :: pending) w) :
    Walked g i (j :: expanded)
      (((g.outbound j).map Edge.target).filter (· ∉ j :: expanded) ++ pending)
      (w.addFlows ((g.outbound j).reverse.filterMap g.flow?)) where
  part := h.part.addFlows hg outbound_flows_subset
  start := by
    rcases h.start with hi | hi
    · exact .inl (List.mem_cons_of_mem j hi)
    · rcases List.mem_cons.mp hi with rfl | hi
      · exact .inl List.mem_cons_self
      · exact .inr (List.mem_append_right _ hi)
  leads := by
    have h1 : g.LeadsTo i j := h.leads j (.inr List.mem_cons_self)
    rintro k (hk | hk)
    · rcases List.mem_cons.mp hk with rfl | hk
      · exact h1
      · exact h.leads k (.inl hk)
    · rcases List.mem_append.mp hk with hk | hk
      · obtain ⟨e, ho, rfl⟩ := List.mem_map.mp (List.mem_filter.mp hk).1
        obtain ⟨he, rfl⟩ := mem_outbound.mp ho
        exact h1.edge he
      · exact h.leads k (.inr (List.mem_cons_of_mem j hk))
  closed := by
    intro e he hs
    by_cases hx : e.target ∈ j :: expanded
    · exact .inl hx
    · right
      rcases List.mem_cons.mp hs with hs | hs
      · -- the target is new, so it is pushed
        apply List.mem_append_left
        rw [List.mem_filter, decide_eq_true_iff]
        exact ⟨List.mem_map_of_mem (mem_outbound.mpr ⟨he, hs⟩), hx⟩
      · rcases h.closed e he hs with ht | ht
        · exact absurd (List.mem_cons_of_mem j ht) hx
        · rcases List.mem_cons.mp ht with ht | ht
          · exact absurd (List.mem_cons.mpr (.inl ht)) hx
          · exact List.mem_append_right _ ht
  mem_vertices := by
    intro v
    rw [h.part.vertices_addFlows hg outbound_flows_subset, mem_foldl_appendNew, h.mem_vertices,
      hg.mem_outbound_ends, exists_edge_cons, or_assoc]
  mem_flows := by
    intro f
    rw [h.part.flows_addFlows hg outbound_flows_subset, mem_foldl_appendNew, h.mem_flows,
      mem_outbound_flows, exists_edge_cons]

/-- a position that was expanded before is dropped -/
theorem Walked.skip (h : Walked g i expanded (j :: pending) w) (hj : j ∈ expanded) :
    Walked g i expanded pending w := by
  have h1 : ∀ k, k ∈ expanded ∨ k ∈ j :: pending → k ∈ expanded ∨ k ∈ pending := by
    rintro k (hk | hk)
    · exact .inl hk
    · rcases List.mem_cons.mp hk with rfl | hk
      · exact .inl hj
      · exact .inr hk
  exact {
    part := h.part
    start := h1 i h.start
    leads := fun k hk => h.leads k (hk.imp_right (List.mem_cons_of_mem j))
    closed := fun e he hs => h1 e.target (h.closed e he hs)
    mem_vertices := h.mem_vertices
    mem_flows := h.mem_flows }

/-- the search keeps the invariant until the stack is empty -/
theorem Walked.walkPending (hg : g.WellFormed) (hi : i < g.vertices.length)
    (h : Walked g i expanded pending w) :
    ∃ all, Walked g i all [] (g.walkPending expanded pending w) := by
  fun_induction Graph.walkPending g expanded pending w with
  | case1 expanded w => exact ⟨expanded, h⟩
  | case2 expanded j pending w hj out next ih => exact ih (h.expand hg)
  | case3 expanded j pending w hj ih =>
    have h1 := hg.lt_of_leadsTo hi (h.leads j (.inr List.mem_cons_self))
    exact ih (h.skip (by_contra fun h2 => hj ⟨h1, h2⟩))

/-- a set that no edge leaves keeps what is reachable from its members -/
theorem Reaches.mem_of_closed {s : List Nat}
    (hc : ∀ e ∈ g.edges, e.source ∈ s → e.target ∈ s) (h : g.Reaches i j) (hi : i ∈ s) : j ∈ s := by
  induction h with
  | edge he => exact hc _ he hi
  | step _ he ih => exact hc _ he (ih hi)

/-- with nothing left on the stack, the expanded positions are those that the start leads to -/
theorem Walked.mem_expanded_iff (h : Walked g i expanded [] w) :
    j ∈ expanded ↔ g.LeadsTo i j := by
  have hi : i ∈ expanded := h.start.resolve_right List.not_mem_nil
  constructor
  · exact fun hj => h.leads j (.inl hj)
  · rintro (rfl | hj)
    · exact hi
    · exact hj.mem_of_closed (fun e he hs => (h.closed e he hs).resolve_right List.not_mem_nil) hi

/-! ### the flows that the search adds -/

/-- the flows that the search adds, in this order, while it works off the stack -/
def visits (g : Graph) (expanded : List Nat) : List Nat → List Flow
  | [] => []
  | i :: pending =>
    if i < g.vertices.length ∧ i ∉ expanded then
      let out := g.outbound i
      let next := (out.map Edge.target).filter (· ∉ i :: expanded)
      out.reverse.filterMap g.flow? ++ visits g (i :: expanded) (next ++ pending)
    else visits g expanded pending
termination_by pending => ((g.unexpanded expanded).length, pending.length)
decreasing_by
  · rename_i h
    exact Prod.Lex.left _ _ (length_unexpanded_cons_lt g h.1 h.2)
  · exact Prod.Lex.right _ (Nat.lt_succ_self _)

/-- the search does not look at what it has added -/
theorem walkPending_eq_addFlows (g : Graph) (expanded pending : List Nat) (walked : Graph) :
    g.walkPending expanded pending walked = walked.addFlows (g.visits expanded pending) := by
  fun_induction Graph.walkPending g expanded pending walked with
  | case1 expanded walked => rw [visits]; rfl
  | case2 expanded i pending walked h out next ih => rw [ih, visits, if_pos h, addFlows_append]
  | case3 expanded i pending walked h ih => rw [ih, visits, if_neg h]

/-! ### the walk -/

/-- no operation of the search makes a graph ill-formed, whatever graph it walks -/
theorem WellFormed.walkPending (hw : w.WellFormed) :
    (g.walkPending expanded pending w).WellFormed := by
  fun_induction Graph.walkPending g expanded pending w with
  | case1 => exact hw
  | case2 _ _ _ _ _ _ _ ih => exact ih (hw.addFlows _)
  | case3 _ _ _ _ _ ih => exact ih hw

theorem WellFormed.walkFrom (g : Graph) (start : String) : (g.walkFrom start).WellFormed := by
  unfold Graph.walkFrom
  split
  · exact (WellFormed.empty.addVertex _).walkPending
  · exact WellFormed.empty

theorem walkFrom_of_not_mem {start : String} (h : start ∉ g.vertices.map Handler.name) :
    g.walkFrom start = ∅ := by
  rw [walkFrom, position?_eq_none_iff.mpr h]

section
variable {start : Handler} (hg : g.WellFormed) (hi : g.vertices[i]? = some start)
include hg hi

theorem WellFormed.walked_walkFrom : ∃ all, Walked g i all [] (g.walkFrom start.name) := by
  obtain ⟨hlt, _⟩ := List.getElem?_eq_some_iff.mp hi
  rw [Graph.walkFrom, hg.position?_of_getElem? hi, hg.vertex?_of_mem (List.mem_of_getElem? hi)]
  exact (Walked.init hg hi).walkPending hg hlt

theorem WellFormed.mem_vertices_walkFrom {v : Handler} :
    v ∈ (g.walkFrom start.name).vertices ↔ ∃ j, g.LeadsTo i j ∧ g.vertices[j]? = some v := by
  obtain ⟨all, h⟩ := hg.walked_walkFrom hi
  rw [h.mem_vertices]
  constructor
  · rintro (hv | ⟨e, he, hs, hv⟩)
    · exact ⟨i, .inl rfl, hv⟩
    · have h1 : g.LeadsTo i e.source := h.mem_expanded_iff.mp hs
      rcases hv with hv | hv
      · exact ⟨e.source, h1, hv⟩
      · exact ⟨e.target, h1.edge he, hv⟩
  · rintro ⟨j, rfl | hj, hv⟩
    · exact .inl hv
    · obtain ⟨e, he, hs, rfl⟩ := hj.exists_edge
      exact .inr ⟨e, he, h.mem_expanded_iff.mpr hs, .inr hv⟩

theorem WellFormed.mem_flows_walkFrom {f : Flow} :
    f ∈ (g.walkFrom start.name).flows ↔
      ∃ e ∈ g.edges, g.LeadsTo i e.source ∧ g.flow? e = some f := by
  obtain ⟨all, h⟩ := hg.walked_walkFrom hi
  rw [h.mem_flows]
  constructor
  · rintro ⟨e, he, hs, hf⟩
    exact ⟨e, he, h.mem_expanded_iff.mp hs, hf⟩
  · rintro ⟨e, he, hs, hf⟩
    exact ⟨e, he, h.mem_expanded_iff.mpr hs, hf⟩

end

/-- a walk has nothing that the graph does not have -/
theorem WellFormed.part_walkFrom (hg : g.WellFormed) (start : String) :
    Part (g.walkFrom start) g := by
  by_cases hn : start ∈ g.vertices.map Handler.name
  · obtain ⟨v, hv, rfl⟩ := List.mem_map.mp hn
    obtain ⟨i, hi⟩ := List.mem_iff_getElem?.mp hv
    obtain ⟨all, h⟩ := hg.walked_walkFrom hi
    exact h.part
  · rw [walkFrom_of_not_mem hn]
    exact Part.empty g

/-- **A walk comes to exactly what its start leads to.**  Without such a vertex it is empty.  With
it, the walk has the vertices that the start leads to and the flows of the edges that leave them,
every flow once, and no other edge. -/
theorem walkFrom_iff_leadsTo (hg : g.WellFormed) (start : String) :
    (start ∉ g.vertices.map Handler.name → g.walkFrom start = ∅)
    ∧ ∀ (i : Nat) (v : Handler), g.vertices[i]? = some v → v.name = start →
      (g.walkFrom start).WellFormed
      ∧ (∀ x, x ∈ (g.walkFrom start).vertices ↔ ∃ j, g.LeadsTo i j ∧ g.vertices[j]? = some x)
      ∧ (∀ f, f ∈ (g.walkFrom start).flows ↔
          ∃ e ∈ g.edges, g.LeadsTo i e.source ∧ g.flow? e = some f)
      ∧ (g.walkFrom start).flows.Nodup
      ∧ (g.walkFrom start).flows.length = (g.walkFrom start).edges.length := by
  refine ⟨walkFrom_of_not_mem, ?_⟩
  rintro i v hi rfl
  have hw : (g.walkFrom v.name).WellFormed := WellFormed.walkFrom g v.name
  exact ⟨hw, fun _ => hg.mem_vertices_walkFrom hi, fun _ => hg.mem_flows_walkFrom hi,
    hw.flows_nodup, hw.length_flows⟩

/-- two flows from `a` to `b`, a diamond down to `d`, which leads to itself and back to `a`, and a
vertex `e` that leads into all this -/
def knot : Graph where
  vertices := ["a", "b", "c", "d", "e"].map (Handler.ofName 1)
  edges := [⟨0, 1, .ofName "m"⟩, ⟨0, 1, .ofName "n"⟩, ⟨0, 2, .ofName "m"⟩, ⟨1, 3, .ofName "m"⟩,
    ⟨2, 3, .ofName "m"⟩, ⟨3, 3, .ofName "m"⟩, ⟨3, 0, .ofName "m"⟩, ⟨4, 0, .ofName "m"⟩]

theorem walkFrom_knot :
    knot.WellFormed ∧ knot.walkFrom "f" = ∅
    ∧ Handler.ofName 1 "d" ∈ (knot.walkFrom "a").vertices
    ∧ Handler.ofName 1 "e" ∉ (knot.walkFrom "a").vertices
    ∧ ⟨Handler.ofName 1 "a", Handler.ofName 1 "b", .ofName "n"⟩ ∈ (knot.walkFrom "a").flows := by
  have hg : knot.WellFormed := by decide
  obtain ⟨h1, _⟩ := walkFrom_iff_leadsTo hg "f"
  obtain ⟨_, h2⟩ := walkFrom_iff_leadsTo hg "a"
  obtain ⟨_, hv, hf, _, _⟩ := h2 0 (Handler.ofName 1 "a") rfl rfl
  refine ⟨hg, h1 (by decide), ?_, ?_, ?_⟩
  · have h3 : knot.Reaches 0 1 := Reaches.edge (e := ⟨0, 1, .ofName "m"⟩) (by decide)
    have h4 : knot.Reaches 0 3 := Reaches.step (e := ⟨1, 3, .ofName "m"⟩) h3 (by decide)
    exact (hv _).mpr ⟨3, .inr h4, rfl⟩
  · intro h
    obtain ⟨j, hj, he⟩ := (hv _).mp h
    have hc : ∀ e ∈ knot.edges, e.source ∈ [0, 1, 2, 3] → e.target ∈ [0, 1, 2, 3] := by decide
    have h3 : j ∈ [0, 1, 2, 3] := by
      rcases hj with rfl | hj
      · decide
      · exact hj.mem_of_closed hc (by decide)
    have h4 : ∀ j ∈ [0, 1, 2, 3], knot.vertices[j]? ≠ some (Handler.ofName 1 "e") := by decide
    exact h4 j h3 he
  · exact (hf _).mpr ⟨⟨0, 1, .ofName "n"⟩, by decide, .inl rfl, rfl⟩

end MessageFlow.Graph
