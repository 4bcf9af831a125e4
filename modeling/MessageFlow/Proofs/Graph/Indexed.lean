import MessageFlow.Proofs.Graph.Operations

/-!
# Graphs with indexes

To look up names and keys quickly, a graph is kept together with two tables that tell nothing new:
where the vertex of a name stands, and which keys the edges have.  An `Indexed` graph has its own
operations, which read the tables instead of searching and which must keep them up to date.  If the
tables are `Accurate` to begin with,

* `Accurate.addVertex`, `Accurate.addEdge`, `Accurate.addFlow`   the operations keep them so;
* `Accurate.addVertex_eq`, `Accurate.addEdge_eq`, `Accurate.addFlow_eq`   and have the results of the
  operations that search.
-/

namespace MessageFlow

/-- a graph with the position of every name and the set of the keys of the edges -/
structure Indexed where
  graph : Graph
  /-- where the vertex of that name stands -/
  index : Std.HashMap String Nat
  /-- the keys of the edges -/
  keys : Std.HashSet (Nat × Nat × String)

namespace Indexed

/-! ### operations -/

def empty : Indexed := ⟨∅, ∅, ∅⟩

instance : EmptyCollection Indexed := ⟨empty⟩

/-- the vertex at the position of that name -/
def vertex? (x : Indexed) (name : String) : Option Handler :=
  x.index[name]?.bind (x.graph.vertices[·]?)

/-- adds a vertex and its position, or lets the one at the position of its name absorb it -/
def addVertex (x : Indexed) (v : Handler) : Indexed × Nat :=
  match x.index[v.name]? with
  | some i =>
    ({ x with graph := { x.graph with vertices := x.graph.vertices.modify i (·.absorb v) } }, i)
  | none =>
    let i := x.graph.vertices.length
    (⟨{ x.graph with vertices := x.graph.vertices ++ [v] }, x.index.insert v.name i, x.keys⟩, i)

/-- adds an edge and its key, or lets the edge of that key absorb the comment; the positions are
those of vertices -/
def addEdge (x : Indexed) (source target : Nat) (m : Message) : Indexed × Bool :=
  let key := (source, target, m.name)
  if x.keys.contains key then
    match x.graph.edges.findIdx? (·.key = key) with
    | some i =>
      ({ x with graph := { x.graph with
        edges := x.graph.edges.modify i fun e => { e with message := e.message.absorb m } } }, false)
    | none => (x, false)
  else
    (⟨{ x.graph with edges := x.graph.edges ++ [⟨source, target, m⟩] }, x.index,
      x.keys.insert key⟩, true)

/-- adds an edge and, before it, its two ends -/
def addFlow (x : Indexed) (f : Flow) : Indexed × Bool :=
  let (x₁, source) := x.addVertex f.source
  let (x₂, target) := x₁.addVertex f.target
  x₂.addEdge source target f.message

def addFlows (x : Indexed) (fs : List Flow) : Indexed := fs.foldl (fun x f => (x.addFlow f).1) x

/-! ### the tables -/

/-- the tables tell what a search would find -/
structure Accurate (x : Indexed) : Prop where
  wellFormed : x.graph.WellFormed
  index : ∀ name, x.index[name]? = x.graph.position? name
  keys : ∀ key, key ∈ x.keys ↔ key ∈ x.graph.edges.map Edge.key

theorem Accurate.empty : (∅ : Indexed).Accurate where
  wellFormed := Graph.WellFormed.empty
  index := fun _ => Std.HashMap.getElem?_empty
  keys := fun _ => iff_of_false Std.HashSet.not_mem_empty List.not_mem_nil

variable {x : Indexed}

theorem Accurate.vertex?_eq (hx : x.Accurate) (name : String) :
    x.vertex? name = x.graph.vertex? name := by
  rw [vertex?, hx.index]
  cases h : x.graph.position? name with
  | none => exact (Graph.vertex?_eq_none_iff.mpr (Graph.position?_eq_none_iff.mp h)).symm
  | some i =>
    obtain ⟨v, hv, rfl⟩ := Graph.position?_eq_some h
    rw [Option.bind_some, hv, hx.wellFormed.vertex?_of_mem (List.mem_of_getElem? hv)]

/-! ### adding a vertex -/

theorem Accurate.addVertex_eq (hx : x.Accurate) (v : Handler) :
    x.graph.addVertex v = ((x.addVertex v).1.graph, (x.addVertex v).2) := by
  rw [addVertex, Graph.addVertex, hx.index]
  cases x.graph.position? v.name <;> rfl

theorem Accurate.graph_addVertex (hx : x.Accurate) (v : Handler) :
    (x.addVertex v).1.graph = (x.graph.addVertex v).1 := by
  rw [hx.addVertex_eq]

theorem Accurate.addVertex (hx : x.Accurate) (v : Handler) : (x.addVertex v).1.Accurate where
  wellFormed := by
    rw [hx.graph_addVertex]
    exact hx.wellFormed.addVertex v
  index := by
    intro name
    have hi := hx.index v.name
    cases h : x.graph.position? v.name with
    | none =>
      rw [h] at hi
      simp only [Indexed.addVertex, hi]
      rw [Std.HashMap.getElem?_insert, hx.index, Graph.position?_concat]
      by_cases hn : v.name = name
      · subst hn
        simp [h]
      · simp [hn]
    | some i =>
      rw [h] at hi
      simp only [Indexed.addVertex, hi]
      have h1 := map_modify_of_key_eq (f := fun w => w.absorb v) (fun w => Handler.name_absorb w v)
        x.graph.vertices i
      rw [hx.index, Graph.position?_eq_findIdx?, Graph.position?_eq_findIdx?, h1]
  keys := by
    intro key
    have h1 : (x.addVertex v).1.keys = x.keys := by
      unfold Indexed.addVertex
      split <;> rfl
    rw [h1, hx.keys, hx.graph_addVertex, Graph.edges_addVertex]

/-! ### adding an edge -/

section
variable {source target : Nat} {m : Message}

theorem index_addEdge (x : Indexed) (source target : Nat) (m : Message) :
    (x.addEdge source target m).1.index = x.index := by
  rw [addEdge]
  split
  · split <;> rfl
  · rfl

theorem addEdge_of_notMem (hk : (source, target, m.name) ∉ x.keys) :
    x.addEdge source target m = (⟨{ x.graph with edges := x.graph.edges ++ [⟨source, target, m⟩] },
      x.index, x.keys.insert (source, target, m.name)⟩, true) := by
  rw [addEdge]
  exact if_neg fun h => hk (Std.HashSet.contains_iff_mem.mp h)

variable (hx : x.Accurate)
include hx

/-- a key that the table has is the key of an edge, which is found -/
theorem Accurate.exists_findIdx? {key : Nat × Nat × String} (hk : key ∈ x.keys) :
    ∃ i, x.graph.edges.findIdx? (·.key = key) = some i := by
  obtain ⟨e, he, hke⟩ := List.mem_map.mp ((hx.keys key).mp hk)
  rw [← Option.ne_none_iff_exists']
  intro hn
  exact of_decide_eq_false (List.findIdx?_eq_none_iff.mp hn e he) hke

theorem Accurate.addEdge_of_mem (hk : (source, target, m.name) ∈ x.keys) :
    ∃ (i : Nat) (e : Edge), x.graph.edges[i]? = some e ∧ e.key = (source, target, m.name)
      ∧ x.addEdge source target m = ({ x with graph := { x.graph with
        edges := x.graph.edges.modify i fun e => { e with message := e.message.absorb m } } },
        false) := by
  obtain ⟨i, h1⟩ := hx.exists_findIdx? hk
  obtain ⟨hi, hp, _⟩ := List.findIdx?_eq_some_iff_getElem.mp h1
  refine ⟨i, x.graph.edges[i], List.getElem?_eq_getElem hi, of_decide_eq_true hp, ?_⟩
  simp only [addEdge, Std.HashSet.contains_iff_mem.mpr hk, if_true, h1]

variable (hs : source < x.graph.vertices.length) (ht : target < x.graph.vertices.length)
include hs ht

theorem Accurate.addEdge_eq (m : Message) : x.graph.addEdge source target m =
    ((x.addEdge source target m).1.graph, (x.addEdge source target m).2) := by
  by_cases hk : (source, target, m.name) ∈ x.keys
  · obtain ⟨i, h1⟩ := hx.exists_findIdx? hk
    rw [Graph.addEdge, if_pos ⟨hs, ht⟩, h1]
    simp only [Indexed.addEdge, Std.HashSet.contains_iff_mem.mpr hk, if_true, h1]
  · have h1 : (source, target, m.name) ∉ x.graph.edges.map Edge.key :=
      fun h => hk ((hx.keys _).mpr h)
    rw [Graph.addEdge_of_absent hs ht h1, addEdge_of_notMem hk]

theorem Accurate.graph_addEdge (m : Message) :
    (x.addEdge source target m).1.graph = (x.graph.addEdge source target m).1 := by
  rw [hx.addEdge_eq hs ht]

theorem Accurate.addEdge (m : Message) : (x.addEdge source target m).1.Accurate where
  wellFormed := by
    rw [hx.graph_addEdge hs ht]
    exact hx.wellFormed.addEdge source target m
  index := by
    intro name
    rw [index_addEdge, hx.index, Graph.position?, Graph.position?, hx.graph_addEdge hs ht,
      Graph.vertices_addEdge]
  keys := by
    intro key
    rw [hx.graph_addEdge hs ht, Graph.keys_addEdge hs ht]
    by_cases hk : (source, target, m.name) ∈ x.keys
    · obtain ⟨i, e, _, _, h2⟩ := hx.addEdge_of_mem hk
      rw [if_pos ((hx.keys _).mp hk), h2, hx.keys]
    · rw [if_neg (fun h => hk ((hx.keys _).mpr h)), addEdge_of_notMem hk, Std.HashSet.mem_insert,
        hx.keys, List.mem_append, List.mem_singleton, beq_iff_eq, or_comm, eq_comm]

end

/-! ### adding flows -/

theorem addFlows_cons (x : Indexed) (f : Flow) (fs : List Flow) :
    x.addFlows (f :: fs) = (x.addFlow f).1.addFlows fs := rfl

section
variable (hx : x.Accurate)
include hx

/-- a flow is added by adding an edge to a graph that has its ends -/
theorem Accurate.addFlow_ends (f : Flow) : ∃ (y : Indexed) (source target : Nat), y.Accurate
    ∧ source < y.graph.vertices.length ∧ target < y.graph.vertices.length
    ∧ x.addFlow f = y.addEdge source target f.message
    ∧ x.graph.addFlow f = y.graph.addEdge source target f.message := by
  have h1 := hx.addVertex f.source
  have h2 := h1.addVertex f.target
  have hs := Graph.position_addVertex_lt x.graph f.source
  have ht := Graph.position_addVertex_lt (x.addVertex f.source).1.graph f.target
  have hl := Graph.length_le_addVertex (x.addVertex f.source).1.graph f.target
  rw [hx.addVertex_eq] at hs
  rw [h1.addVertex_eq] at ht hl
  refine ⟨((x.addVertex f.source).1.addVertex f.target).1, (x.addVertex f.source).2,
    ((x.addVertex f.source).1.addVertex f.target).2, h2, Nat.lt_of_lt_of_le hs hl, ht, rfl, ?_⟩
  rw [Graph.addFlow, hx.addVertex_eq]
  dsimp only
  rw [h1.addVertex_eq]

theorem Accurate.addFlow (f : Flow) : (x.addFlow f).1.Accurate := by
  obtain ⟨y, source, target, hy, hs, ht, h1, -⟩ := hx.addFlow_ends f
  rw [h1]
  exact hy.addEdge hs ht f.message

theorem Accurate.addFlow_eq (f : Flow) :
    x.graph.addFlow f = ((x.addFlow f).1.graph, (x.addFlow f).2) := by
  obtain ⟨y, source, target, hy, hs, ht, h1, h2⟩ := hx.addFlow_ends f
  rw [h1, h2, hy.addEdge_eq hs ht]

theorem Accurate.graph_addFlow (f : Flow) : (x.addFlow f).1.graph = (x.graph.addFlow f).1 := by
  rw [hx.addFlow_eq]

theorem Accurate.addFlows (fs : List Flow) : (x.addFlows fs).Accurate := by
  induction fs generalizing x with
  | nil => exact hx
  | cons f fs ih =>
    rw [addFlows_cons]
    exact ih (hx.addFlow f)

theorem Accurate.graph_addFlows (fs : List Flow) :
    (x.addFlows fs).graph = x.graph.addFlows fs := by
  induction fs generalizing x with
  | nil => rfl
  | cons f fs ih =>
    rw [addFlows_cons, ih (hx.addFlow f), hx.graph_addFlow]
    rfl

end

end Indexed

end MessageFlow
