import MessageFlow.Proofs.Graph.Growth

/-!
# The history of a graph

A graph is built from the empty one by calls of `addVertex`, `addEdge` and `addFlow`.  A `History`
is a sequence of such calls.  What the calls were given, read as plain lists, tells the graph:

* `History.handlers`, `History.names`   the handlers that were given, and their names in the order of
  their first mention;
* `History.labels`                      the flows that were given;
* `History.getElem?_names_of_told`      the positions that calls tell keep their names;
* `History.graph_of_history`            the graph and the answers of the calls, in these terms.
-/

namespace MessageFlow

/-- the calls that built a graph, the last one outermost -/
inductive History
  | start
  | addVertex (h : History) (v : Handler)
  /-- the ends are given by their positions, which earlier calls have told -/
  | addEdge (h : History) (source target : Nat) (m : Message)
  | addFlow (h : History) (f : Flow)

namespace History

/-- what the calls make of the empty graph -/
def graph : History → Graph
  | start => ∅
  | addVertex h v => (h.graph.addVertex v).1
  | addEdge h source target m => (h.graph.addEdge source target m).1
  | addFlow h f => (h.graph.addFlow f).1

/-- the handlers that the calls were given, in this order; the source of a flow precedes its target -/
def handlers : History → List Handler
  | start => []
  | addVertex h v => h.handlers ++ [v]
  | addEdge h _ _ _ => h.handlers
  | addFlow h f => h.handlers ++ f.ends

/-- every name that was mentioned, in the order of the first mentions -/
def names (h : History) : List String := (h.handlers.map Handler.name).eraseDups

/-- the flows that the calls were given, in this order -/
def labels : History → List (String × String × Message)
  | start => []
  | addVertex h _ => h.labels
  | addEdge h source target m =>
    match h.names[source]?, h.names[target]? with
    | some p, some c => h.labels ++ [(p, c, m)]
    | _, _ => h.labels
  | addFlow h f => h.labels ++ [f.label]

/-! ### vertices -/

theorem wellFormed_graph (h : History) : h.graph.WellFormed := by
  induction h with
  | start => exact Graph.WellFormed.empty
  | addVertex h v ih => exact ih.addVertex v
  | addEdge h source target m ih => exact ih.addEdge source target m
  | addFlow h f ih => exact ih.addFlow f

theorem vertices_graph (h : History) : h.graph.vertices =
    h.handlers.foldl (fun l v => upsert Handler.name Handler.absorb v l) [] := by
  induction h with
  | start => rfl
  | addVertex h v ih =>
    rw [graph, handlers, List.foldl_append, ← ih]
    exact Graph.vertices_addVertex _ _
  | addEdge h source target m ih =>
    rw [graph, handlers, ← ih]
    exact Graph.vertices_addEdge _ _ _ _
  | addFlow h f ih =>
    rw [graph, handlers, List.foldl_append, ← ih]
    exact Graph.vertices_addFlow _ _

theorem names_graph (h : History) : h.graph.vertices.map Handler.name = h.names := by
  rw [vertices_graph]
  exact map_key_foldl_upsert _ _ Handler.name_absorb _

theorem firstOf_of_mem_vertices {h : History} {v : Handler} (hv : v ∈ h.graph.vertices) :
    v.FirstOf (h.handlers.filter (·.name = v.name)) := by
  rw [← combined_handlers_eq_some_iff, ← find?_foldl_upsert _ _ Handler.name_absorb,
    ← vertices_graph]
  exact h.wellFormed_graph.vertex?_of_mem hv

/-- a call tells the position of the name that it was given -/
theorem position_addVertex (h : History) (v : Handler) :
    (h.graph.addVertex v).2 = (h.addVertex v).names.idxOf v.name := by
  have h1 := Graph.position_addVertex h.graph v
  have h2 : (h.graph.addVertex v).1.vertices.map Handler.name = (h.addVertex v).names :=
    (h.addVertex v).names_graph
  have h3 : (h.addVertex v).names.Nodup := by
    rw [← names_graph]
    exact (h.addVertex v).wellFormed_graph.names_nodup
  rw [h2] at h1
  obtain ⟨hlt, h4⟩ := List.getElem?_eq_some_iff.mp h1
  rw [← h4, h3.idxOf_getElem]

/-- a position that a call told has the same name after all later calls -/
theorem getElem?_names_of_told (h : History) (v : Handler) {k : History}
    (hp : (h.addVertex v).handlers <+: k.handlers) :
    k.names[(h.graph.addVertex v).2]? = some v.name := by
  have h1 : ((h.addVertex v).graph.vertices.map Handler.name)[(h.graph.addVertex v).2]? =
      some v.name := Graph.position_addVertex h.graph v
  rw [names_graph] at h1
  obtain ⟨hlt, -⟩ := List.getElem?_eq_some_iff.mp h1
  obtain ⟨later, h2⟩ := hp
  have h3 : (h.addVertex v).names <+: k.names := by
    rw [names, names, ← h2, List.map_append, List.eraseDups_append]
    exact List.prefix_append _ _
  obtain ⟨rest, h4⟩ := h3
  rw [← h4, List.getElem?_append_left hlt, h1]

/-! ### flows -/

theorem addEdge_of_no_vertex {h : History} {source target : Nat}
    (hn : h.names[source]? = none ∨ h.names[target]? = none) (m : Message) :
    h.graph.addEdge source target m = (h.graph, false) := by
  apply Graph.addEdge_of_not_lt
  rw [← names_graph] at hn
  rintro ⟨hs, ht⟩
  rcases hn with hn | hn
  · rw [List.getElem?_eq_none_iff, List.length_map] at hn
    omega
  · rw [List.getElem?_eq_none_iff, List.length_map] at hn
    omega

theorem labels_graph (h : History) : h.graph.flows.map Flow.label =
    h.labels.foldl (fun l x => upsert Graph.labelKey Graph.labelAbsorb x l) [] := by
  induction h with
  | start => rfl
  | addVertex h v ih =>
    rw [labels, ← ih]
    exact h.wellFormed_graph.labels_addVertex v
  | addEdge h source target m ih =>
    rw [graph, labels]
    cases hs : h.names[source]? with
    | none => rw [addEdge_of_no_vertex (.inl hs), ih]
    | some p =>
      cases ht : h.names[target]? with
      | none => rw [addEdge_of_no_vertex (.inr ht), ih]
      | some c =>
        rw [List.foldl_append, ← ih]
        rw [← names_graph] at hs ht
        exact h.wellFormed_graph.labels_addEdge hs ht m
  | addFlow h f ih =>
    rw [labels, List.foldl_append, ← ih]
    exact h.wellFormed_graph.labels_addFlow f

theorem keys_graph (h : History) :
    h.graph.flows.map Flow.key = (h.labels.map Graph.labelKey).eraseDups := by
  rw [← Graph.map_labelKey_labels, labels_graph]
  exact map_key_foldl_upsert _ _ Graph.labelKey_labelAbsorb _

theorem mem_keys_graph {h : History} {k : String × String × String} :
    k ∈ h.graph.flows.map Flow.key ↔ k ∈ h.labels.map Graph.labelKey := by
  rw [keys_graph, List.mem_eraseDups]

theorem firstOf_of_mem_flows {h : History} {f : Flow} (hf : f ∈ h.graph.flows) :
    f.message.FirstOf ((h.labels.filter (Graph.labelKey · = f.key)).map (·.2.2)) := by
  have h0 : ∀ k l, (Graph.labelAbsorb k l).2.2 = k.2.2.absorb l.2.2 := fun _ _ => rfl
  rw [← combined_messages_eq_some_iff, ← map_combined h0,
    ← find?_foldl_upsert _ _ Graph.labelKey_labelAbsorb, ← labels_graph]
  have h1 : ((h.graph.flows.map Flow.label).map Graph.labelKey).Nodup := by
    rw [Graph.map_labelKey_labels]
    exact h.wellFormed_graph.flow_keys_nodup
  have h2 : (h.graph.flows.map Flow.label).find? (Graph.labelKey · = f.key) = some f.label :=
    (find?_eq_some_iff_mem h1).mpr ⟨List.mem_map_of_mem hf, rfl⟩
  rw [h2]
  rfl

/-- an edge is new unless its flow was given before -/
theorem addEdge_eq_true_iff (h : History) (source target : Nat) (m : Message) :
    (h.graph.addEdge source target m).2 = true ↔ ∃ p c, h.names[source]? = some p
      ∧ h.names[target]? = some c ∧ (p, c, m.name) ∉ h.labels.map Graph.labelKey := by
  constructor
  · intro h1
    cases hs : h.names[source]? with
    | none =>
      rw [addEdge_of_no_vertex (.inl hs)] at h1
      exact absurd h1 Bool.false_ne_true
    | some p =>
      cases ht : h.names[target]? with
      | none =>
        rw [addEdge_of_no_vertex (.inr ht)] at h1
        exact absurd h1 Bool.false_ne_true
      | some c =>
        refine ⟨p, c, rfl, rfl, ?_⟩
        rw [← names_graph] at hs ht
        rw [← mem_keys_graph]
        exact (h.wellFormed_graph.addEdge_eq_true_iff hs ht m).mp h1
  · rintro ⟨p, c, hs, ht, hn⟩
    rw [← names_graph] at hs ht
    rw [← mem_keys_graph] at hn
    exact (h.wellFormed_graph.addEdge_eq_true_iff hs ht m).mpr hn

/-! ### the graph -/

/-- **A graph is what its history tells.**  Whatever calls built it, its vertices have the names that
were mentioned, in the order of their first mentions, and tell what the handlers of that name told
first.  Its flows have the keys that were given, in the order in which they were first given, and the
first comment that was given for their key; each lies between vertices, and there is one for every
edge.  The next call tells the position of the name that it is given, or whether its key is new, and
what leaves a vertex is listed as it is among all flows. -/
theorem graph_of_history (h : History) :
    h.graph.WellFormed
    ∧ h.graph.vertices.map Handler.name = h.names
    ∧ (∀ v ∈ h.graph.vertices, v.FirstOf (h.handlers.filter (·.name = v.name)))
    ∧ h.graph.flows.map Flow.key = (h.labels.map Graph.labelKey).eraseDups
    ∧ (∀ f ∈ h.graph.flows, f.source ∈ h.graph.vertices ∧ f.target ∈ h.graph.vertices
      ∧ f.message.FirstOf ((h.labels.filter (Graph.labelKey · = f.key)).map (·.2.2)))
    ∧ h.graph.flows.length = h.graph.edges.length
    ∧ (∀ v, (h.graph.addVertex v).2 = (h.addVertex v).names.idxOf v.name)
    ∧ (∀ source target m, (h.graph.addEdge source target m).2 = true ↔
      ∃ p c, h.names[source]? = some p ∧ h.names[target]? = some c
        ∧ (p, c, m.name) ∉ h.labels.map Graph.labelKey)
    ∧ (∀ f, (h.graph.addFlow f).2 = true ↔ f.key ∉ h.labels.map Graph.labelKey)
    ∧ ∀ name, h.graph.outboundFlows name = h.graph.flows.filter (·.source.name = name) := by
  have hg := h.wellFormed_graph
  refine ⟨hg, h.names_graph, fun v => firstOf_of_mem_vertices, h.keys_graph, ?_, hg.length_flows,
    h.position_addVertex, h.addEdge_eq_true_iff, ?_, hg.outboundFlows_eq⟩
  · intro f hf
    exact ⟨Graph.source_mem_of_mem_flows hf, Graph.target_mem_of_mem_flows hf,
      firstOf_of_mem_flows hf⟩
  · intro f
    rw [hg.addFlow_eq_true_iff, mem_keys_graph]

/-- one call observes a vertex twice, and a comment comes late -/
example : ((start.addFlow ⟨⟨"a", "m", none, none⟩, ⟨"a", "n", some "calls itself", none⟩,
      ⟨"x", none⟩⟩).addEdge 0 0 ⟨"x", some "late"⟩).graph =
    ⟨[⟨"a", "m", some "calls itself", none⟩], [⟨0, 0, ⟨"x", some "late"⟩⟩]⟩ := by decide

end History

end MessageFlow
