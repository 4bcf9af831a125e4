import MessageFlow.Proofs.Graph.Walk

/-!
# The order of a walk

`Graph.expand` is depth-first search as one would write it down: a call at an expanded position
returns at once, any other marks its position and calls itself for the targets of the edges that
leave it, in their order.  `Graph.preorder` lists the positions that such a search expands.

`Graph.walkFrom` works with a stack instead, on which a position may stand several times, and from
which it may be taken after it was expanded.  It expands the same positions in the same order:

* `expandAll_append`        the calls that wait are those that the stack holds, from its top;
* `expandAll_filter`        targets that are not pushed are those whose calls would return at once;
* `visits_eq_flatMap`       so the search with the stack adds what leaves the positions of `expandAll`;
* `walkFrom_eq_preorder`    the flows and the vertices of a walk, in their order.
-/

namespace MessageFlow.Graph

variable {g : Graph} {i j : Nat} {expanded : List Nat}

/-! ### the recursive search -/

theorem length_unexpanded_append_le (g : Graph) (now expanded : List Nat) :
    (g.unexpanded (now ++ expanded)).length ≤ (g.unexpanded expanded).length := by
  have h1 : g.unexpanded (now ++ expanded) = (g.unexpanded expanded).filter (· ∉ now) := by
    simp only [unexpanded, List.filter_filter]
    apply List.filter_congr
    intro j _
    simp [List.mem_append, not_or]
  rw [h1]
  exact List.length_filter_le ..

mutual

/-- the positions that a call at `i` expands, in their order; no edge of a well-formed graph leads out
of the range -/
def expand (g : Graph) (expanded : List Nat) (i : Nat) : List Nat :=
  if i < g.vertices.length ∧ i ∉ expanded then
    i :: expandAll g (i :: expanded) ((g.outbound i).map Edge.target)
  else []
termination_by ((g.unexpanded expanded).length, 0)
decreasing_by
  rename_i h
  exact Prod.Lex.left _ _ (length_unexpanded_cons_lt g h.1 h.2)

/-- the positions that calls one after the other expand -/
def expandAll (g : Graph) (expanded : List Nat) : List Nat → List Nat
  | [] => []
  | i :: is =>
    let now := expand g expanded i
    now ++ expandAll g (now.reverse ++ expanded) is
termination_by is => ((g.unexpanded expanded).length, is.length)
decreasing_by
  · exact Prod.Lex.right _ (Nat.succ_pos _)
  · rcases Nat.lt_or_eq_of_le (length_unexpanded_append_le g now.reverse expanded) with h | h
    · exact Prod.Lex.left _ _ h
    · rw [h]
      exact Prod.Lex.right _ (Nat.lt_succ_self _)

end

/-- the positions that the search from `i` expands, in their order -/
def preorder (g : Graph) (i : Nat) : List Nat := g.expand [] i

theorem expand_of_new (h : i < g.vertices.length ∧ i ∉ expanded) :
    g.expand expanded i = i :: g.expandAll (i :: expanded) ((g.outbound i).map Edge.target) := by
  rw [expand, if_pos h]

theorem expand_of_mem (h : i ∈ expanded) : g.expand expanded i = [] := by
  rw [expand, if_neg fun hn => hn.2 h]

/-- a search expands no position twice, and none that was expanded before -/
theorem nodup_append_expanded :
    (∀ expanded i, expanded.Nodup → ((g.expand expanded i).reverse ++ expanded).Nodup)
    ∧ ∀ expanded is, expanded.Nodup → ((g.expandAll expanded is).reverse ++ expanded).Nodup := by
  refine expand.mutual_induct g
    (fun expanded i => expanded.Nodup → ((g.expand expanded i).reverse ++ expanded).Nodup)
    (fun expanded is => expanded.Nodup → ((g.expandAll expanded is).reverse ++ expanded).Nodup)
    ?_ ?_ ?_ ?_
  · intro expanded i h ih hn
    rw [expand_of_new h, List.reverse_cons, List.append_assoc]
    exact ih (List.nodup_cons.mpr ⟨h.2, hn⟩)
  · intro expanded i h hn
    rw [expand, if_neg h]
    exact hn
  · intro expanded hn
    rw [expandAll]
    exact hn
  · intro expanded i is now ih₁ ih₂ hn
    rw [expandAll, List.reverse_append, List.append_assoc]
    exact ih₂ (ih₁ hn)

theorem nodup_preorder (g : Graph) (i : Nat) : (g.preorder i).Nodup := by
  have h := (nodup_append_expanded (g := g)).1 [] i List.nodup_nil
  rw [List.append_nil, List.nodup_reverse] at h
  exact h

/-! ### the stack -/

theorem expandAll_append (is js : List Nat) : g.expandAll expanded (is ++ js) =
    g.expandAll expanded is
      ++ g.expandAll ((g.expandAll expanded is).reverse ++ expanded) js := by
  induction is generalizing expanded with
  | nil => rw [expandAll]; rfl
  | cons i is ih =>
    rw [List.cons_append, expandAll, ih, expandAll, List.reverse_append, List.append_assoc,
      List.append_assoc]

/-- calls at expanded positions may be left out -/
theorem expandAll_filter {old : List Nat} (h : ∀ j ∈ old, j ∈ expanded) (is : List Nat) :
    g.expandAll expanded (is.filter (· ∉ old)) = g.expandAll expanded is := by
  induction is generalizing expanded with
  | nil => rfl
  | cons i is ih =>
    by_cases hi : i ∈ old
    · rw [List.filter_cons_of_neg (by simpa using hi), ih h, expandAll, expand_of_mem (h i hi)]
      rfl
    · rw [List.filter_cons_of_pos (by simpa using hi), expandAll, expandAll,
        ih fun j hj => List.mem_append_right _ (h j hj)]

/-- the flows that leave a position, the last one first -/
def departures (g : Graph) (i : Nat) : List Flow := (g.outbound i).reverse.filterMap g.flow?

/-- **The stack keeps the calls that wait.**  What it holds from its top are the positions at which
the recursive search has still to call itself. -/
theorem visits_eq_flatMap (g : Graph) (expanded pending : List Nat) :
    g.visits expanded pending = (g.expandAll expanded pending).flatMap g.departures := by
  fun_induction visits g expanded pending with
  | case1 expanded => rw [expandAll]; rfl
  | case2 expanded i pending h out next ih =>
    rw [ih, expandAll, expand_of_new h, expandAll_append, expandAll_filter fun _ hj => hj,
      List.reverse_cons, List.append_assoc, List.cons_append, List.flatMap_cons]
    rfl
  | case3 expanded i pending h ih =>
    rw [ih, expandAll, expand, if_neg h]
    rfl

/-! ### the walk -/

theorem WellFormed.nodup_flatMap_departures (hg : g.WellFormed) {is : List Nat} (h : is.Nodup) :
    (is.flatMap g.departures).Nodup := by
  refine List.nodup_flatMap.mpr ⟨fun i _ => ?_, h.imp fun {i j} hij => ?_⟩
  · rw [departures, List.filterMap_reverse, List.nodup_reverse]
    exact hg.flows_nodup.sublist (List.filter_sublist.filterMap g.flow?)
  · -- a flow leaves the position of its source, and no other
    intro f hfi hfj
    obtain ⟨e, he, rfl, hf⟩ := mem_outbound_flows.mp hfi
    obtain ⟨e', _, rfl, hf'⟩ := mem_outbound_flows.mp hfj
    have hs := (flow?_eq_some_iff.mp hf).1
    have hs' := (flow?_eq_some_iff.mp hf').1
    have h1 := hg.position?_of_getElem? hs
    rw [hg.position?_of_getElem? hs'] at h1
    exact hij (Option.some.inj h1).symm

/-- **A walk keeps the order of the recursive search.**  Its flows are those that leave the positions
of the preorder, the last one first at each of them, and each of them once; its vertices are the
start and then the ends of these flows, in the order in which they first appear there. -/
theorem walkFrom_eq_preorder (hg : g.WellFormed) {v : Handler} (hi : g.vertices[i]? = some v) :
    (g.walkFrom v.name).flows = (g.preorder i).flatMap g.departures
    ∧ (g.walkFrom v.name).flows.length = (g.walkFrom v.name).edges.length
    ∧ (g.walkFrom v.name).vertices
      = (v :: ((g.preorder i).flatMap g.departures).flatMap Flow.ends).eraseDups := by
  have hv : v ∈ g.vertices := List.mem_of_getElem? hi
  have hpart : Part ((∅ : Graph).addVertex v).1 g := (Part.empty g).addVertex hg hv
  have hvisits : g.visits [] [i] = (g.preorder i).flatMap g.departures := by
    rw [visits_eq_flatMap, expandAll, expandAll, List.append_nil, preorder]
  have hsub : ∀ f ∈ (g.preorder i).flatMap g.departures, f ∈ g.flows := fun f hf => by
    obtain ⟨j, _, hf⟩ := List.mem_flatMap.mp hf
    exact outbound_flows_subset f hf
  have hwalk : g.walkFrom v.name
      = ((∅ : Graph).addVertex v).1.addFlows ((g.preorder i).flatMap g.departures) := by
    rw [walkFrom, hg.position?_of_getElem? hi, hg.vertex?_of_mem hv, ← hvisits]
    exact walkPending_eq_addFlows g [] [i] _
  refine ⟨?_, (WellFormed.walkFrom g v.name).length_flows, ?_⟩
  · have h0 : ((∅ : Graph).addVertex v).1.flows = [] := (Part.empty g).flows_addVertex hg hv
    rw [hwalk, hpart.flows_addFlows hg hsub, h0]
    exact foldl_appendNew_of_nodup (hg.nodup_flatMap_departures (nodup_preorder g i))
  · have h0 : ((∅ : Graph).addVertex v).1.vertices = [v] := (Part.empty g).vertices_addVertex hg hv
    rw [hwalk, hpart.vertices_addFlows hg hsub, h0]
    exact foldl_appendNew_eraseDups [v] _

/-- both flows from `a` to `b` are added before `d`, which `b` leads to, and `c` is expanded last -/
theorem walkFrom_knot_order :
    knot.WellFormed ∧ knot.vertices[0]? = some (Handler.ofName 1 "a")
    ∧ knot.preorder 0 = [0, 1, 3, 2]
    ∧ (knot.walkFrom "a").flows.map Flow.key = [("a", "c", "m"), ("a", "b", "n"), ("a", "b", "m"),
        ("b", "d", "m"), ("d", "a", "m"), ("d", "d", "m"), ("c", "d", "m")]
    ∧ (knot.walkFrom "a").vertices = ["a", "c", "b", "d"].map (Handler.ofName 1) := by
  have hg : knot.WellFormed := by decide
  have hp : knot.preorder 0 = [0, 1, 3, 2] := by
    simp [preorder, expand, expandAll, outbound, knot]
  obtain ⟨hf, _, hv⟩ := walkFrom_eq_preorder hg (i := 0) (v := Handler.ofName 1 "a") rfl
  rw [hp] at hf hv
  refine ⟨hg, rfl, hp, ?_, hv.trans (by decide)⟩
  exact (congrArg (List.map Flow.key) hf).trans (by decide)

end MessageFlow.Graph
