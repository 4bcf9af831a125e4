import MessageFlow.Proofs.Graph.Indexed
import MessageFlow.Proofs.Graph.Obtainable

/-!
# Tables stay accurate

Graphs are also narrowed, joined from observations and read from snapshots.  With tables, all this is
done through the operations that keep them accurate, and looks names up in them:

* `Accurate.graph_walkFrom`, `graph_interModule`, `join_eq`, `follows_decode`   the results are those
  of the operations without tables, and the tables of the results are accurate;
* `indexes_of_obtainable`   so tables are accurate, whatever composition of operations gave them.
-/

namespace MessageFlow.Indexed

/-! ### operations -/

def addVertices (x : Indexed) (vs : List Handler) : Indexed :=
  vs.foldl (fun x v => (x.addVertex v).1) x

/-- adds an edge between two vertices given by their names -/
def connect (x : Indexed) (f : String × String × Message) : Indexed :=
  match x.index[f.1]?, x.index[f.2.1]? with
  | some source, some target => (x.addEdge source target f.2.2).1
  | _, _ => x

/-- all observed handlers, and a flow from each producer of a message to each of its consumers -/
def join (producers consumers : ObservationMap) : Indexed :=
  (Graph.joinFlows producers consumers).foldl connect
    ((∅ : Indexed).addVertices (ObservationMap.merge [producers, consumers]).handlers)

/-- the vertex of that name with everything that it leads to -/
def walkFrom (x : Indexed) (start : String) : Indexed :=
  match x.index[start]?, x.vertex? start with
  | some i, some v => ((∅ : Indexed).addVertex v).1.addFlows (x.graph.visits [] [i])
  | _, _ => ∅

/-- the flows between different modules and their ends -/
def interModule (x : Indexed) : Indexed :=
  (∅ : Indexed).addFlows (x.graph.flows.filter Flow.isInterModule)

/-- adds a vertex of a new name -/
def restoreVertex (x : Indexed) (v : Handler) : Except Corruption Indexed :=
  if x.index.contains v.name then .error (.duplicateVertex v.name) else .ok (x.addVertex v).1

/-- adds an edge of a new key between vertices that are there -/
def restoreEdge (x : Indexed) (e : Edge) : Except Corruption Indexed :=
  if e.source < x.graph.vertices.length ∧ e.target < x.graph.vertices.length then
    match x.addEdge e.source e.target e.message with
    | (x, true) => .ok x
    | (_, false) => .error (.duplicateEdge e.message.name)
  else .error (.missingVertex e.source e.target)

def restore (vertices : List Handler) (edges : List Edge) : Except Corruption Indexed := do
  let x ← vertices.foldlM restoreVertex (∅ : Indexed)
  edges.foldlM restoreEdge x

/-- the graph of a payload that is all read -/
def decodePayload (payload : Text.Bytes) : Except SnapshotFault Indexed :=
  match Snapshot.readPayload payload with
  | .error fault => .error (.payload fault)
  | .ok ((vertices, edges), rest) =>
    if rest ≠ [] then .error (.unread rest.length)
    else match restore vertices edges with
      | .error fault => .error (.corrupt fault)
      | .ok x => .ok x

/-- the graph of a snapshot -/
def decode (bytes : Text.Bytes) : Except SnapshotFault Indexed := do
  decodePayload (← Snapshot.openEnvelope bytes)

variable {x : Indexed}

/-! ### graphs made from a graph -/

theorem Accurate.interModule (x : Indexed) : x.interModule.Accurate :=
  Accurate.empty.addFlows _

theorem graph_interModule (x : Indexed) : x.interModule.graph = x.graph.interModule :=
  Accurate.empty.graph_addFlows _

theorem Accurate.walkFrom (x : Indexed) (start : String) : (x.walkFrom start).Accurate := by
  rw [Indexed.walkFrom]
  split
  · exact (Accurate.empty.addVertex _).addFlows _
  · exact Accurate.empty

theorem Accurate.graph_walkFrom (hx : x.Accurate) (start : String) :
    (x.walkFrom start).graph = x.graph.walkFrom start := by
  rw [Indexed.walkFrom, Graph.walkFrom, hx.index, hx.vertex?_eq]
  cases x.graph.position? start with
  | none => rfl
  | some i =>
    cases x.graph.vertex? start with
    | none => rfl
    | some v =>
      dsimp only
      rw [Graph.walkPending_eq_addFlows, (Accurate.empty.addVertex v).graph_addFlows,
        Accurate.empty.graph_addVertex]
      rfl

/-! ### graphs made from observations -/

theorem Accurate.addVertices (hx : x.Accurate) (vs : List Handler) :
    (x.addVertices vs).Accurate := by
  induction vs generalizing x with
  | nil => exact hx
  | cons v vs ih => exact ih (hx.addVertex v)

/-- vertices of new names are appended -/
theorem Accurate.graph_addVertices (hx : x.Accurate) {vs : List Handler}
    (hn : ((x.graph.vertices ++ vs).map Handler.name).Nodup) :
    (x.addVertices vs).graph = { x.graph with vertices := x.graph.vertices ++ vs } := by
  induction vs generalizing x with
  | nil => rw [List.append_nil]; rfl
  | cons v vs ih =>
    have h1 : x.graph.position? v.name = none := by
      rw [Graph.position?_eq_none_iff]
      intro h
      rw [List.map_append, List.map_cons] at hn
      exact (List.nodup_append.mp hn).2.2 _ h _ List.mem_cons_self rfl
    have h2 : (x.addVertex v).1.graph = { x.graph with vertices := x.graph.vertices ++ [v] } := by
      rw [hx.graph_addVertex, Graph.addVertex_of_absent h1]
    rw [List.append_cons] at hn ⊢
    show ((x.addVertex v).1.addVertices vs).graph = _
    rw [ih (hx.addVertex v) (by rw [h2]; exact hn), h2]

theorem Accurate.connect_eq (hx : x.Accurate) (f : String × String × Message) :
    (x.connect f).Accurate ∧ (x.connect f).graph = x.graph.connect f := by
  rw [connect, Graph.connect, hx.index, hx.index]
  cases hs : x.graph.position? f.1 with
  | none => exact ⟨hx, rfl⟩
  | some source =>
    cases ht : x.graph.position? f.2.1 with
    | none => exact ⟨hx, rfl⟩
    | some target =>
      have hs' := Graph.position?_lt hs
      have ht' := Graph.position?_lt ht
      exact ⟨hx.addEdge hs' ht' f.2.2, hx.graph_addEdge hs' ht' f.2.2⟩

theorem Accurate.foldl_connect_eq (hx : x.Accurate) (ls : List (String × String × Message)) :
    (ls.foldl connect x).Accurate ∧ (ls.foldl connect x).graph = ls.foldl Graph.connect x.graph := by
  induction ls generalizing x with
  | nil => exact ⟨hx, rfl⟩
  | cons l ls ih =>
    obtain ⟨h1, h2⟩ := hx.connect_eq l
    rw [List.foldl_cons, List.foldl_cons, ← h2]
    exact ih h1

theorem join_eq (producers consumers : ObservationMap) : (join producers consumers).Accurate
    ∧ (join producers consumers).graph = Graph.join producers consumers := by
  let observed := (ObservationMap.merge [producers, consumers]).handlers
  have h1 : (⟨observed, []⟩ : Graph).WellFormed := Graph.WellFormed.handlers _
  have h2 : ((∅ : Indexed).addVertices observed).graph = ⟨observed, []⟩ :=
    Accurate.empty.graph_addVertices h1.names_nodup
  have h3 := (Accurate.empty.addVertices observed).foldl_connect_eq
    (Graph.joinFlows producers consumers)
  rw [h2] at h3
  exact h3

/-! ### graphs read from snapshots -/

/-- both fail in the same way, or both give the same graph, the one with accurate tables -/
inductive Follows {ε : Type} : Except ε Indexed → Except ε Graph → Prop
  | error (fault : ε) : Follows (.error fault) (.error fault)
  | ok {x : Indexed} (hx : x.Accurate) : Follows (.ok x) (.ok x.graph)

section
variable {ε α : Type}

theorem Follows.bind {r : Except ε Indexed} {s : Except ε Graph} {k : Indexed → Except ε Indexed}
    {l : Graph → Except ε Graph} (h : Follows r s)
    (hk : ∀ x : Indexed, x.Accurate → Follows (k x) (l x.graph)) : Follows (r >>= k) (s >>= l) := by
  cases h with
  | error fault => exact .error fault
  | ok hx => exact hk _ hx

theorem Follows.foldlM {add : Indexed → α → Except ε Indexed} {add' : Graph → α → Except ε Graph}
    (h : ∀ x a, x.Accurate → Follows (add x a) (add' x.graph a)) (hx : x.Accurate) (l : List α) :
    Follows (l.foldlM add x) (l.foldlM add' x.graph) := by
  induction l generalizing x with
  | nil => exact .ok hx
  | cons a l ih =>
    rw [List.foldlM_cons, List.foldlM_cons]
    exact (h x a hx).bind fun _ hy => ih hy

end

theorem Accurate.follows_restoreVertex (hx : x.Accurate) (v : Handler) :
    Follows (restoreVertex x v) (Snapshot.restoreVertex x.graph v) := by
  have h1 : x.index.contains v.name = x.graph.contains v.name := by
    rw [Std.HashMap.contains_eq_isSome_getElem?, hx.index, Bool.eq_iff_iff, Graph.contains_iff,
      Option.isSome_iff_ne_none, ne_eq, Graph.position?_eq_none_iff, not_not]
  rw [restoreVertex, Snapshot.restoreVertex, h1]
  split
  · exact .error _
  · rw [← hx.graph_addVertex]
    exact .ok (hx.addVertex v)

theorem Accurate.follows_restoreEdge (hx : x.Accurate) (e : Edge) :
    Follows (restoreEdge x e) (Snapshot.restoreEdge x.graph e) := by
  by_cases h : e.source < x.graph.vertices.length ∧ e.target < x.graph.vertices.length
  · obtain ⟨hs, ht⟩ := h
    have h1 := hx.addEdge hs ht e.message
    rw [restoreEdge, Snapshot.restoreEdge, if_pos ⟨hs, ht⟩, if_pos ⟨hs, ht⟩, hx.addEdge_eq hs ht]
    revert h1
    cases x.addEdge e.source e.target e.message with
    | mk y isNew =>
      intro h1
      cases isNew with
      | false => exact .error _
      | true => exact .ok h1
  · rw [restoreEdge, Snapshot.restoreEdge, if_neg h, if_neg h]
    exact .error _

theorem follows_restore (vertices : List Handler) (edges : List Edge) :
    Follows (restore vertices edges) (Snapshot.restore vertices edges) := by
  apply Follows.bind
  · exact Follows.foldlM (fun _ v hx => hx.follows_restoreVertex v) Accurate.empty vertices
  · intro x hx
    exact Follows.foldlM (fun _ e hx => hx.follows_restoreEdge e) hx edges

theorem follows_decodePayload (payload : Text.Bytes) :
    Follows (decodePayload payload) (Snapshot.decodePayload payload) := by
  rw [decodePayload, Snapshot.decodePayload]
  cases Snapshot.readPayload payload with
  | error fault => exact .error _
  | ok described =>
    obtain ⟨⟨vertices, edges⟩, rest⟩ := described
    dsimp only
    split
    · exact .error _
    · have h1 := follows_restore vertices edges
      generalize restore vertices edges = r, Snapshot.restore vertices edges = s at h1 ⊢
      cases h1 with
      | error fault => exact .error _
      | ok hx => exact .ok hx

theorem follows_decode (bytes : Text.Bytes) : Follows (decode bytes) (Snapshot.decode bytes) := by
  rw [decode, Snapshot.decode]
  cases Snapshot.openEnvelope bytes with
  | error fault => exact .error fault
  | ok payload => exact follows_decodePayload payload

theorem graph_of_decode {bytes : Text.Bytes} (h : decode bytes = .ok x) :
    x.Accurate ∧ Snapshot.decode bytes = .ok x.graph := by
  have h1 := follows_decode bytes
  rw [h] at h1
  generalize Snapshot.decode bytes = r at h1 ⊢
  cases h1 with
  | ok hx => exact ⟨hx, rfl⟩

/-! ### compositions of operations -/

/-- some composition of the operations gives this graph and these tables -/
inductive Obtainable : Indexed → Prop
  | empty : Obtainable ∅
  | addVertex {x : Indexed} (hx : Obtainable x) (v : Handler) : Obtainable (x.addVertex v).1
  | addEdge {x : Indexed} (hx : Obtainable x) {source target : Nat}
      (hs : source < x.graph.vertices.length) (ht : target < x.graph.vertices.length) (m : Message) :
      Obtainable (x.addEdge source target m).1
  | addFlow {x : Indexed} (hx : Obtainable x) (f : Flow) : Obtainable (x.addFlow f).1
  | join (producers consumers : ObservationMap) : Obtainable (join producers consumers)
  | walkFrom {x : Indexed} (hx : Obtainable x) (start : String) : Obtainable (x.walkFrom start)
  | interModule {x : Indexed} (hx : Obtainable x) : Obtainable x.interModule
  | decode {x : Indexed} {bytes : Text.Bytes} (h : decode bytes = .ok x) : Obtainable x

/-- every operation keeps the tables accurate -/
theorem Obtainable.accurate (hx : x.Obtainable) : x.Accurate := by
  induction hx with
  | empty => exact Accurate.empty
  | addVertex _ v ih => exact ih.addVertex v
  | addEdge _ hs ht m ih => exact ih.addEdge hs ht m
  | addFlow _ f ih => exact ih.addFlow f
  | join producers consumers => exact (join_eq producers consumers).1
  | walkFrom _ start _ => exact Accurate.walkFrom _ start
  | interModule _ _ => exact Accurate.interModule _
  | decode h => exact (graph_of_decode h).1

/-- and gives a graph that the operations without tables give -/
theorem Obtainable.graph (hx : x.Obtainable) : x.graph.Obtainable := by
  induction hx with
  | empty => exact .empty
  | addVertex hx v ih =>
    rw [hx.accurate.graph_addVertex]
    exact .addVertex ih v
  | addEdge hx hs ht m ih =>
    rw [hx.accurate.graph_addEdge hs ht]
    exact .addEdge ih hs ht m
  | addFlow hx f ih =>
    rw [hx.accurate.graph_addFlow]
    exact .addFlow ih f
  | join producers consumers =>
    rw [(join_eq producers consumers).2]
    exact .join producers consumers
  | walkFrom hx start ih =>
    rw [hx.accurate.graph_walkFrom]
    exact .walkFrom ih start
  | @interModule x _ ih =>
    rw [graph_interModule]
    exact .interModule ih
  | decode h => exact .decode (graph_of_decode h).2

/-- **The tables of a graph are accurate.**  Whatever composition of operations gave it, among them
the reading of any bytes: names are distinct, and the index has the position of each of them and
nothing else; edges lie between vertices; the set of keys has the keys of the edges and nothing else,
and no two edges share theirs.  So an edge whose key is there is found and absorbs the comment, and
the vertex that is looked up is the one that a search finds. -/
theorem indexes_of_obtainable (hx : x.Obtainable) :
    x.graph.Obtainable
    ∧ (x.graph.vertices.map Handler.name).Nodup
    ∧ (∀ (name : String) (i : Nat),
      x.index[name]? = some i ↔ ∃ v, x.graph.vertices[i]? = some v ∧ v.name = name)
    ∧ (∀ e ∈ x.graph.edges,
      e.source < x.graph.vertices.length ∧ e.target < x.graph.vertices.length)
    ∧ (∀ key, key ∈ x.keys ↔ ∃ e ∈ x.graph.edges, (e.source, e.target, e.message.name) = key)
    ∧ (x.graph.edges.map Edge.key).Nodup
    ∧ (∀ source target m, (source, target, m.name) ∈ x.keys →
      ∃ (i : Nat) (e : Edge), x.graph.edges[i]? = some e ∧ e.key = (source, target, m.name)
        ∧ x.addEdge source target m = ({ x with graph := { x.graph with
          edges := x.graph.edges.modify i fun e => { e with message := e.message.absorb m } } },
          false))
    ∧ ∀ name, x.vertex? name = x.graph.vertices.find? (·.name = name) := by
  have ha := hx.accurate
  have hg := ha.wellFormed
  refine ⟨hx.graph, hg.names_nodup, ?_, fun e he => ⟨hg.source_lt e he, hg.target_lt e he⟩, ?_,
    hg.keys_nodup, fun _ _ _ => ha.addEdge_of_mem, ha.vertex?_eq⟩
  · intro name i
    rw [ha.index]
    constructor
    · exact Graph.position?_eq_some
    · rintro ⟨v, hv, rfl⟩
      exact hg.position?_of_getElem? hv
  · intro key
    rw [ha.keys, List.mem_map]
    rfl

/-- a flow from `a` to `b`, after which more is told of `a` -/
def retold : Indexed :=
  ((∅ : Indexed).addFlow ⟨.ofName 1 "a", .ofName 1 "b", .ofName "m"⟩).1.addVertex
    ((Handler.ofName 1 "a").withComment "late") |>.1

theorem graph_retold : retold.graph =
    ⟨[(Handler.ofName 1 "a").withComment "late", .ofName 1 "b"], [⟨0, 1, .ofName "m"⟩]⟩ := by
  rw [retold, (Accurate.empty.addFlow _).graph_addVertex, Accurate.empty.graph_addFlow]
  decide

theorem indexes_of_retold :
    retold.Obtainable ∧ retold.index["b"]? = some 1 ∧ (0, 1, "m") ∈ retold.keys
    ∧ (1, 0, "m") ∉ retold.keys ∧ (retold.addEdge 0 1 ⟨"m", some "late"⟩).2 = false := by
  have h : retold.Obtainable := .addVertex (.addFlow .empty _) _
  obtain ⟨_, _, hi, _, hk, _, he, _⟩ := indexes_of_obtainable h
  rw [graph_retold] at hi hk
  have h1 : (0, 1, "m") ∈ retold.keys := (hk _).mpr ⟨⟨0, 1, .ofName "m"⟩, by decide, rfl⟩
  refine ⟨h, (hi "b" 1).mpr ⟨.ofName 1 "b", rfl, rfl⟩, h1, ?_, ?_⟩
  · intro h2
    obtain ⟨e, he, hke⟩ := (hk _).mp h2
    rw [List.mem_singleton.mp he] at hke
    exact absurd hke (by decide)
  · obtain ⟨i, e, _, _, h2⟩ := he 0 1 ⟨"m", some "late"⟩ h1
    rw [h2]

end MessageFlow.Indexed
