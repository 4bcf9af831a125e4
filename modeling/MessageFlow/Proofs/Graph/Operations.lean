import Mathlib.Data.List.Nodup
import MessageFlow.Graph.Derived
import MessageFlow.Proofs.Roster

/-!
# What the graph operations keep

`Graph.WellFormed` says that no name has two vertices, that edges lead from vertices to vertices,
and that no two edges share their key.  It holds of the empty graph and is kept by `addVertex`,
`addEdge`, `addFlow` and `addFlows`.

In a well-formed graph a name or a key leads to one place only, so

* `position?_of_getElem?`, `vertex?_of_mem`   looking a vertex up by its name finds it;
* `exists_flow?`                              every edge has its flow;
* `eq_of_key_eq`                              the three names of a flow determine it.
-/

namespace MessageFlow

namespace Flow

/-- the names of the two ends and of the message -/
def key (f : Flow) : String × String × String := (f.source.name, f.target.name, f.message.name)

/-- the two ends of a flow, the sending one first -/
def ends (f : Flow) : List Handler := [f.source, f.target]

end Flow

/-- a change of one member that keeps `key` leaves the list of the keys as it is -/
theorem map_modify_of_key_eq {α β : Type} {key : α → β} {f : α → α} (hf : ∀ x, key (f x) = key x)
    (l : List α) (i : Nat) : (l.modify i f).map key = l.map key := by
  induction l generalizing i with
  | nil => rw [List.modify_nil]
  | cons x xs ih =>
    cases i with
    | zero => rw [List.modify_zero_cons, List.map_cons, List.map_cons, hf]
    | succ i => rw [List.modify_succ_cons, List.map_cons, List.map_cons, ih]

/-- a member that a change leaves as it is -/
theorem modify_eq_of_fixed {α : Type} {f : α → α} {l : List α} {i : Nat} {x : α}
    (hx : l[i]? = some x) (hf : f x = x) : l.modify i f = l := by
  apply List.ext_getElem?
  intro j
  by_cases hj : i = j
  · rw [← hj, List.getElem?_modify_eq, hx]
    exact congrArg some hf
  · rw [List.getElem?_modify_ne f l hj]

namespace Graph

theorem WellFormed.empty : (∅ : Graph).WellFormed :=
  ⟨List.nodup_nil, fun _ h => (List.not_mem_nil h).elim, fun _ h => (List.not_mem_nil h).elim,
    List.nodup_nil⟩

instance (g : Graph) : Decidable g.WellFormed :=
  decidable_of_iff
    ((g.vertices.map Handler.name).Nodup ∧ (∀ e ∈ g.edges, e.source < g.vertices.length)
      ∧ (∀ e ∈ g.edges, e.target < g.vertices.length) ∧ (g.edges.map Edge.key).Nodup)
    ⟨fun ⟨h1, h2, h3, h4⟩ => ⟨h1, h2, h3, h4⟩, fun ⟨h1, h2, h3, h4⟩ => ⟨h1, h2, h3, h4⟩⟩

variable {g : Graph}

/-! ### looking things up -/

theorem position?_eq_some {name : String} {i : Nat} (h : g.position? name = some i) :
    ∃ v, g.vertices[i]? = some v ∧ v.name = name := by
  obtain ⟨hi, hp, _⟩ := List.findIdx?_eq_some_iff_getElem.mp h
  exact ⟨g.vertices[i], List.getElem?_eq_getElem hi, of_decide_eq_true hp⟩

theorem position?_lt {name : String} {i : Nat} (h : g.position? name = some i) :
    i < g.vertices.length := by
  obtain ⟨hi, _⟩ := List.findIdx?_eq_some_iff_getElem.mp h
  exact hi

theorem position?_eq_none_iff {name : String} :
    g.position? name = none ↔ name ∉ g.vertices.map Handler.name := by
  rw [position?, List.findIdx?_eq_none_iff, List.mem_map]
  constructor
  · rintro h ⟨v, hv, rfl⟩
    exact of_decide_eq_false (h v hv) rfl
  · intro h v hv
    exact decide_eq_false (fun he => h ⟨v, hv, he⟩)

/-- positions are told by the names alone -/
theorem position?_eq_findIdx? (g : Graph) (name : String) :
    g.position? name = (g.vertices.map Handler.name).findIdx? (· = name) := by
  rw [position?, List.findIdx?_map]
  rfl

/-- an appended vertex is found by its name, unless an earlier one has it -/
theorem position?_concat (vs : List Handler) (es : List Edge) (v : Handler) (name : String) :
    position? ⟨vs ++ [v], es⟩ name =
      (position? ⟨vs, es⟩ name).or (if v.name = name then some vs.length else none) := by
  rw [position?, position?, List.findIdx?_append]
  by_cases hn : v.name = name <;> simp [hn]

theorem vertex?_eq_some {name : String} {v : Handler} (h : g.vertex? name = some v) :
    v ∈ g.vertices ∧ v.name = name := by
  rw [vertex?] at h
  exact ⟨List.mem_of_find?_eq_some h, by simpa using List.find?_some h⟩

theorem vertex?_eq_none_iff {name : String} :
    g.vertex? name = none ↔ name ∉ g.vertices.map Handler.name := by
  rw [vertex?, List.find?_eq_none, List.mem_map]
  constructor
  · rintro h ⟨v, hv, rfl⟩
    exact h v hv (decide_eq_true rfl)
  · intro h v hv he
    exact h ⟨v, hv, of_decide_eq_true he⟩

theorem contains_iff {name : String} :
    g.contains name = true ↔ name ∈ g.vertices.map Handler.name := by
  rw [contains, Option.isSome_iff_ne_none, ne_eq, vertex?_eq_none_iff, not_not]

/-- positions are determined by names -/
theorem WellFormed.position_inj (hg : g.WellFormed) {i j : Nat} {v w : Handler}
    (hi : g.vertices[i]? = some v) (hj : g.vertices[j]? = some w) (h : v.name = w.name) : i = j := by
  obtain ⟨hi', _⟩ := List.getElem?_eq_some_iff.mp hi
  apply (List.getElem?_inj (by rw [List.length_map]; exact hi') hg.names_nodup).mp
  rw [List.getElem?_map, List.getElem?_map, hi, hj]
  exact congrArg some h

theorem WellFormed.vertex_inj (hg : g.WellFormed) {v w : Handler} (hv : v ∈ g.vertices)
    (hw : w ∈ g.vertices) (h : v.name = w.name) : v = w :=
  List.inj_on_of_nodup_map hg.names_nodup hv hw h

theorem WellFormed.position?_of_getElem? (hg : g.WellFormed) {i : Nat} {v : Handler}
    (h : g.vertices[i]? = some v) : g.position? v.name = some i := by
  cases hp : g.position? v.name with
  | none =>
    have h1 := List.mem_map_of_mem (f := Handler.name) (List.mem_of_getElem? h)
    exact absurd h1 (position?_eq_none_iff.mp hp)
  | some j =>
    obtain ⟨w, hw, hn⟩ := position?_eq_some hp
    rw [hg.position_inj hw h hn]

theorem WellFormed.vertex?_of_mem (hg : g.WellFormed) {v : Handler} (h : v ∈ g.vertices) :
    g.vertex? v.name = some v :=
  (find?_eq_some_iff_mem hg.names_nodup).mpr ⟨h, rfl⟩

/-! ### flows -/

/-- the key of the flow with that label -/
def labelKey (l : String × String × Message) : String × String × String := (l.1, l.2.1, l.2.2.name)

theorem flow?_eq_some_iff {e : Edge} {f : Flow} :
    g.flow? e = some f ↔ g.vertices[e.source]? = some f.source
      ∧ g.vertices[e.target]? = some f.target ∧ e.message = f.message := by
  obtain ⟨source, target, message⟩ := f
  cases hs : g.vertices[e.source]? <;> cases ht : g.vertices[e.target]? <;>
    simp [flow?, hs, ht]

theorem mem_flows {f : Flow} : f ∈ g.flows ↔ ∃ e ∈ g.edges, g.flow? e = some f :=
  List.mem_filterMap

theorem WellFormed.exists_flow? (hg : g.WellFormed) {e : Edge} (he : e ∈ g.edges) :
    ∃ f, g.flow? e = some f := by
  have hs := List.getElem?_eq_getElem (hg.source_lt e he)
  have ht := List.getElem?_eq_getElem (hg.target_lt e he)
  exact ⟨⟨_, _, e.message⟩, flow?_eq_some_iff.mpr ⟨hs, ht, rfl⟩⟩

/-- edges whose flows have the same names have the same key -/
theorem WellFormed.edge_key_eq (hg : g.WellFormed) {e e' : Edge} {f f' : Flow}
    (h : g.flow? e = some f) (h' : g.flow? e' = some f') (hk : f.key = f'.key) :
    e.key = e'.key := by
  obtain ⟨hs, ht, hm⟩ := flow?_eq_some_iff.mp h
  obtain ⟨hs', ht', hm'⟩ := flow?_eq_some_iff.mp h'
  obtain ⟨k1, k2⟩ := Prod.mk.inj hk
  obtain ⟨k2, k3⟩ := Prod.mk.inj k2
  rw [Edge.key, Edge.key, hg.position_inj hs hs' k1, hg.position_inj ht ht' k2, hm, hm', k3]

theorem WellFormed.flow_keys_nodup (hg : g.WellFormed) : (g.flows.map Flow.key).Nodup := by
  rw [List.Nodup, List.pairwise_map, flows, List.pairwise_filterMap]
  have h1 := List.pairwise_map.mp hg.keys_nodup
  exact h1.imp fun hne f hf f' hf' hk => hne (hg.edge_key_eq hf hf' hk)

theorem WellFormed.flows_nodup (hg : g.WellFormed) : g.flows.Nodup :=
  hg.flow_keys_nodup.of_map _

/-- every edge is a flow -/
theorem WellFormed.map_some_flows (hg : g.WellFormed) :
    g.flows.map some = g.edges.map g.flow? := by
  rw [flows, List.map_filterMap_some_eq_filter_map_isSome, List.filter_eq_self]
  intro x hx
  obtain ⟨e, he, rfl⟩ := List.mem_map.mp hx
  obtain ⟨f, hf⟩ := hg.exists_flow? he
  rw [hf, Option.isSome_some]

theorem WellFormed.length_flows (hg : g.WellFormed) : g.flows.length = g.edges.length := by
  rw [flows, List.filterMap_length_eq_length]
  intro e he
  obtain ⟨f, hf⟩ := hg.exists_flow? he
  rw [hf, Option.isSome_some]

/-- what leaves a vertex is found among all flows by the name of their source -/
theorem WellFormed.outboundFlows_eq (hg : g.WellFormed) (name : String) :
    g.outboundFlows name = g.flows.filter (·.source.name = name) := by
  rw [outboundFlows]
  cases h : g.position? name with
  | none =>
    symm
    rw [List.filter_eq_nil_iff]
    intro f hf hn
    obtain ⟨e, _, he⟩ := mem_flows.mp hf
    have hs := List.mem_of_getElem? (flow?_eq_some_iff.mp he).1
    have h1 := List.mem_map_of_mem (f := Handler.name) hs
    rw [of_decide_eq_true hn] at h1
    exact position?_eq_none_iff.mp h h1
  | some i =>
    obtain ⟨v, hv, hn⟩ := position?_eq_some h
    show (g.edges.filter (·.source = i)).filterMap g.flow? = _
    rw [flows, List.filterMap_filter, List.filter_filterMap]
    apply List.filterMap_congr
    intro e he
    obtain ⟨f, hf⟩ := hg.exists_flow? he
    have hs := (flow?_eq_some_iff.mp hf).1
    have h1 : e.source = i ↔ f.source.name = name := by
      constructor
      · intro hi
        rw [hi, hv, Option.some_inj] at hs
        rw [← hs, hn]
      · intro hi
        exact hg.position_inj hs hv (hi.trans hn.symm)
    rw [hf, Option.filter_some]
    simp only [h1]

theorem WellFormed.eq_of_key_eq (hg : g.WellFormed) {f f' : Flow} (hf : f ∈ g.flows)
    (hf' : f' ∈ g.flows) (h : f.key = f'.key) : f = f' :=
  List.inj_on_of_nodup_map hg.flow_keys_nodup hf hf' h

theorem source_mem_of_mem_flows {f : Flow} (hf : f ∈ g.flows) : f.source ∈ g.vertices := by
  obtain ⟨e, _, he⟩ := mem_flows.mp hf
  exact List.mem_of_getElem? (flow?_eq_some_iff.mp he).1

theorem target_mem_of_mem_flows {f : Flow} (hf : f ∈ g.flows) : f.target ∈ g.vertices := by
  obtain ⟨e, _, he⟩ := mem_flows.mp hf
  exact List.mem_of_getElem? (flow?_eq_some_iff.mp he).2.1

/-! ### adding a vertex -/

theorem addVertex_of_position? {v : Handler} {i : Nat} (h : g.position? v.name = some i) :
    g.addVertex v = ({ g with vertices := g.vertices.modify i (·.absorb v) }, i) := by
  rw [addVertex, h]

theorem addVertex_of_absent {v : Handler} (h : g.position? v.name = none) :
    g.addVertex v = ({ g with vertices := g.vertices ++ [v] }, g.vertices.length) := by
  rw [addVertex, h]

theorem edges_addVertex (g : Graph) (v : Handler) : (g.addVertex v).1.edges = g.edges := by
  unfold addVertex
  split <;> rfl

/-- the names grow at the end, if at all -/
theorem names_addVertex (g : Graph) (v : Handler) :
    (g.addVertex v).1.vertices.map Handler.name =
      if v.name ∈ g.vertices.map Handler.name then g.vertices.map Handler.name
      else g.vertices.map Handler.name ++ [v.name] := by
  cases h : g.position? v.name with
  | none =>
    rw [addVertex_of_absent h, if_neg (position?_eq_none_iff.mp h)]
    exact List.map_append
  | some i =>
    obtain ⟨w, hw, hn⟩ := position?_eq_some h
    have h1 : v.name ∈ g.vertices.map Handler.name :=
      List.mem_map.mpr ⟨w, List.mem_of_getElem? hw, hn⟩
    rw [addVertex_of_position? h, if_pos h1]
    exact map_modify_of_key_eq (fun w => Handler.name_absorb w v) g.vertices i

theorem length_le_addVertex (g : Graph) (v : Handler) :
    g.vertices.length ≤ (g.addVertex v).1.vertices.length := by
  have h1 := congrArg List.length (names_addVertex g v)
  split at h1
  · simp only [List.length_map] at h1
    omega
  · simp only [List.length_map, List.length_append, List.length_singleton] at h1
    omega

theorem position_addVertex_lt (g : Graph) (v : Handler) :
    (g.addVertex v).2 < (g.addVertex v).1.vertices.length := by
  cases h : g.position? v.name with
  | none =>
    rw [addVertex_of_absent h, List.length_append]
    exact Nat.lt_succ_self _
  | some i =>
    rw [addVertex_of_position? h, List.length_modify]
    exact position?_lt h

theorem WellFormed.addVertex (hg : g.WellFormed) (v : Handler) : (g.addVertex v).1.WellFormed where
  names_nodup := by
    rw [names_addVertex]
    split
    · exact hg.names_nodup
    · rename_i h
      rw [← List.concat_eq_append]
      exact hg.names_nodup.concat h
  source_lt := by
    rw [edges_addVertex]
    exact fun e he => Nat.lt_of_lt_of_le (hg.source_lt e he) (length_le_addVertex g v)
  target_lt := by
    rw [edges_addVertex]
    exact fun e he => Nat.lt_of_lt_of_le (hg.target_lt e he) (length_le_addVertex g v)
  keys_nodup := by
    rw [edges_addVertex]
    exact hg.keys_nodup

/-! ### adding an edge -/

section
variable {source target : Nat} {m : Message}

theorem addEdge_of_absent (hs : source < g.vertices.length) (ht : target < g.vertices.length)
    (h : (source, target, m.name) ∉ g.edges.map Edge.key) :
    g.addEdge source target m = ({ g with edges := g.edges ++ [⟨source, target, m⟩] }, true) := by
  have h1 : g.edges.findIdx? (·.key = (source, target, m.name)) = none := by
    rw [List.findIdx?_eq_none_iff]
    intro e he
    exact decide_eq_false (fun hk => h (List.mem_map.mpr ⟨e, he, hk⟩))
  rw [addEdge, if_pos ⟨hs, ht⟩, h1]

/-- the key of an edge that is there leads to it -/
theorem addEdge_of_present (hs : source < g.vertices.length) (ht : target < g.vertices.length)
    (h : (source, target, m.name) ∈ g.edges.map Edge.key) :
    ∃ (i : Nat) (e : Edge), g.edges[i]? = some e ∧ e.key = (source, target, m.name)
      ∧ g.addEdge source target m = ({ g with
        edges := g.edges.modify i fun e => { e with message := e.message.absorb m } }, false) := by
  cases h1 : g.edges.findIdx? (·.key = (source, target, m.name)) with
  | none =>
    obtain ⟨e, he, hk⟩ := List.mem_map.mp h
    exact absurd hk (of_decide_eq_false (List.findIdx?_eq_none_iff.mp h1 e he))
  | some i =>
    obtain ⟨hi, hp, _⟩ := List.findIdx?_eq_some_iff_getElem.mp h1
    refine ⟨i, g.edges[i], List.getElem?_eq_getElem hi, of_decide_eq_true hp, ?_⟩
    rw [addEdge, if_pos ⟨hs, ht⟩, h1]

theorem addEdge_of_not_lt (h : ¬ (source < g.vertices.length ∧ target < g.vertices.length)) :
    g.addEdge source target m = (g, false) := by
  rw [addEdge, if_neg h]

end

theorem vertices_addEdge (g : Graph) (source target : Nat) (m : Message) :
    (g.addEdge source target m).1.vertices = g.vertices := by
  unfold addEdge
  split
  · split <;> rfl
  · rfl

/-- the keys grow at the end, if at all -/
theorem keys_addEdge {source target : Nat} (hs : source < g.vertices.length)
    (ht : target < g.vertices.length) (m : Message) :
    (g.addEdge source target m).1.edges.map Edge.key =
      if (source, target, m.name) ∈ g.edges.map Edge.key then g.edges.map Edge.key
      else g.edges.map Edge.key ++ [(source, target, m.name)] := by
  split
  · rename_i h
    obtain ⟨i, e, _, _, h1⟩ := addEdge_of_present hs ht h
    have h2 : ∀ e : Edge, Edge.key { e with message := e.message.absorb m } = e.key := fun _ => rfl
    rw [h1]
    exact map_modify_of_key_eq h2 g.edges i
  · rename_i h
    rw [addEdge_of_absent hs ht h]
    exact List.map_append

section
variable {f : Flow} {i j : Nat} (hi : g.vertices[i]? = some f.source)
  (hj : g.vertices[j]? = some f.target)
include hi hj

/-- the edge with the key of a flow has a flow of the same names -/
theorem WellFormed.exists_flow?_of_key (hg : g.WellFormed) {e : Edge} (he : e ∈ g.edges)
    (hk : e.key = (i, j, f.message.name)) : ∃ x, g.flow? e = some x ∧ x.key = f.key := by
  obtain ⟨k1, k2⟩ := Prod.mk.inj hk
  obtain ⟨k2, k3⟩ := Prod.mk.inj k2
  obtain ⟨x, hx⟩ := hg.exists_flow? he
  obtain ⟨hs, ht, hm⟩ := flow?_eq_some_iff.mp hx
  rw [k1, hi] at hs
  rw [k2, hj] at ht
  refine ⟨x, hx, ?_⟩
  rw [Flow.key, Flow.key, ← Option.some.inj hs, ← Option.some.inj ht, ← hm, k3]

theorem WellFormed.key_mem_iff (hg : g.WellFormed) :
    (i, j, f.message.name) ∈ g.edges.map Edge.key ↔ f.key ∈ g.flows.map Flow.key := by
  constructor
  · intro h
    obtain ⟨e, he, hk⟩ := List.mem_map.mp h
    obtain ⟨x, hx, h1⟩ := hg.exists_flow?_of_key hi hj he hk
    exact List.mem_map.mpr ⟨x, mem_flows.mpr ⟨e, he, hx⟩, h1⟩
  · intro h
    obtain ⟨x, hx, hk⟩ := List.mem_map.mp h
    obtain ⟨e, he, h1⟩ := mem_flows.mp hx
    have h2 : g.flow? ⟨i, j, f.message⟩ = some f := flow?_eq_some_iff.mpr ⟨hi, hj, rfl⟩
    exact List.mem_map.mpr ⟨e, he, hg.edge_key_eq h1 h2 hk⟩

theorem flows_addEdge_of_absent (h : (i, j, f.message.name) ∉ g.edges.map Edge.key) :
    (g.addEdge i j f.message).1.flows = g.flows ++ [f] := by
  obtain ⟨hilt, _⟩ := List.getElem?_eq_some_iff.mp hi
  obtain ⟨hjlt, _⟩ := List.getElem?_eq_some_iff.mp hj
  have h1 : g.flow? ⟨i, j, f.message⟩ = some f := flow?_eq_some_iff.mpr ⟨hi, hj, rfl⟩
  rw [addEdge_of_absent hilt hjlt h]
  show (g.edges ++ [_]).filterMap g.flow? = g.edges.filterMap g.flow? ++ [f]
  rw [List.filterMap_append, List.filterMap_cons_some h1, List.filterMap_nil]

end

/-- an edge is well placed if its key is -/
theorem WellFormed.of_keys (hn : (g.vertices.map Handler.name).Nodup)
    (hlt : ∀ k ∈ g.edges.map Edge.key, k.1 < g.vertices.length ∧ k.2.1 < g.vertices.length)
    (hk : (g.edges.map Edge.key).Nodup) : g.WellFormed :=
  ⟨hn, fun _ he => (hlt _ (List.mem_map_of_mem he)).1,
    fun _ he => (hlt _ (List.mem_map_of_mem he)).2, hk⟩

theorem WellFormed.key_lt (hg : g.WellFormed) {k : Nat × Nat × String}
    (hk : k ∈ g.edges.map Edge.key) : k.1 < g.vertices.length ∧ k.2.1 < g.vertices.length := by
  obtain ⟨e, he, rfl⟩ := List.mem_map.mp hk
  exact ⟨hg.source_lt e he, hg.target_lt e he⟩

theorem WellFormed.addEdge (hg : g.WellFormed) (source target : Nat) (m : Message) :
    (g.addEdge source target m).1.WellFormed := by
  by_cases hlt : source < g.vertices.length ∧ target < g.vertices.length
  · obtain ⟨hs, ht⟩ := hlt
    have hk := keys_addEdge hs ht m
    have hv := vertices_addEdge g source target m
    apply WellFormed.of_keys
    · rw [hv]
      exact hg.names_nodup
    · rw [hv, hk]
      intro k hmem
      split at hmem
      · exact hg.key_lt hmem
      · rcases List.mem_append.mp hmem with hmem | hmem
        · exact hg.key_lt hmem
        · rw [List.mem_singleton.mp hmem]
          exact ⟨hs, ht⟩
    · rw [hk]
      split
      · exact hg.keys_nodup
      · rename_i h
        rw [← List.concat_eq_append]
        exact hg.keys_nodup.concat h
  · rw [addEdge_of_not_lt hlt]
    exact hg

/-! ### adding flows -/

theorem WellFormed.addFlow (hg : g.WellFormed) (f : Flow) : (g.addFlow f).1.WellFormed :=
  ((hg.addVertex f.source).addVertex f.target).addEdge _ _ _

theorem addFlows_append (g : Graph) (fs fs' : List Flow) :
    g.addFlows (fs ++ fs') = (g.addFlows fs).addFlows fs' := List.foldl_append

theorem WellFormed.addFlows (hg : g.WellFormed) (fs : List Flow) : (g.addFlows fs).WellFormed := by
  induction fs generalizing g with
  | nil => exact hg
  | cons f fs ih => exact ih (hg.addFlow f)

theorem WellFormed.interModule (g : Graph) : g.interModule.WellFormed :=
  WellFormed.empty.addFlows _

end Graph

end MessageFlow
