import Mathlib.Data.List.Induction
import MessageFlow.Proofs.Graph.Operations
import MessageFlow.Proofs.Precedence

/-!
# How a graph grows

A graph holds two lists with keys: its vertices by their names, and its flows by the names of their
ends and of the message.  What is added to one of them joins the first member of its key, or comes
last (`upsert`).

* `map_key_upsert`, `find?_upsert`   the keys of such a list, and what is found under a key;
* `map_key_foldl_upsert`, `find?_foldl_upsert`   the same when several members are added in turn;
* `vertices_addVertex`, `labels_addVertex`, `labels_addEdge`, `vertices_addFlow`, `labels_addFlow`
  what the operations add to the vertices and to the labels of the flows;
* `labels_eq`, `edges_eq`   labels and edges tell each other, given the names;
* `position_addVertex`, `addEdge_eq_true_iff`, `addFlow_eq_true_iff`   and what they answer.
-/

namespace MessageFlow

/-! ### lists with keys -/

theorem eraseDups_concat {α : Type} [BEq α] [LawfulBEq α] (l : List α) (x : α) :
    (l ++ [x]).eraseDups = if x ∈ l then l.eraseDups else l.eraseDups ++ [x] := by
  have h1 : [x].eraseDups = [x] := by simp [List.eraseDups_cons]
  rw [List.eraseDups_append, List.removeAll]
  by_cases hx : x ∈ l <;> simp [hx, h1]

section
variable {α κ : Type} [DecidableEq κ] (key : α → κ) (join : α → α → α)

/-- lets the first member with the key of `x` be joined with it, or puts `x` at the end -/
def upsert (x : α) : List α → List α
  | [] => [x]
  | y :: ys => if key y = key x then join y x :: ys else y :: upsert x ys

/-- the member may as well be looked for by its position -/
theorem upsert_eq (x : α) (l : List α) :
    (match l.findIdx? (key · = key x) with
      | some i => l.modify i (join · x)
      | none => l ++ [x]) = upsert key join x l := by
  induction l with
  | nil => rfl
  | cons y ys ih =>
    rw [upsert, List.findIdx?_cons]
    by_cases hy : key y = key x
    · simp [hy]
    · rw [if_neg hy, ← ih]
      cases ys.findIdx? (key · = key x) <;> simp [hy]

/-- lists that correspond member by member grow in the same way -/
theorem map_upsert {β ι : Type} [DecidableEq ι] {φ : α → β} {key' : β → ι} {join' : β → β → β}
    {x : α} {l : List α} (hk : ∀ y ∈ l, key y = key x ↔ key' (φ y) = key' (φ x))
    (hj : ∀ y ∈ l, key y = key x → φ (join y x) = join' (φ y) (φ x)) :
    (upsert key join x l).map φ = upsert key' join' (φ x) (l.map φ) := by
  induction l with
  | nil => rfl
  | cons y ys ih =>
    obtain ⟨hky, hk⟩ := List.forall_mem_cons.mp hk
    obtain ⟨hjy, hj⟩ := List.forall_mem_cons.mp hj
    rw [upsert, List.map_cons, upsert]
    by_cases hy : key y = key x
    · rw [if_pos hy, if_pos (hky.mp hy), List.map_cons, hjy hy]
    · rw [if_neg hy, if_neg (fun h => hy (hky.mpr h)), List.map_cons, ih hk hj]

variable (hj : ∀ y x, key (join y x) = key y)
include hj

/-- keys grow at the end, if at all -/
theorem map_key_upsert (x : α) (l : List α) : (upsert key join x l).map key =
    if key x ∈ l.map key then l.map key else l.map key ++ [key x] := by
  induction l with
  | nil => rfl
  | cons y ys ih =>
    rw [upsert]
    by_cases hy : key y = key x
    · simp [hy, hj]
    · rw [if_neg hy, List.map_cons, ih]
      have h1 : key x ∈ (y :: ys).map key ↔ key x ∈ ys.map key := by
        simp [List.mem_cons, Ne.symm hy]
      simp only [h1]
      split <;> rfl

theorem nodup_upsert {l : List α} (hl : (l.map key).Nodup) (x : α) :
    ((upsert key join x l).map key).Nodup := by
  rw [map_key_upsert key join hj]
  split
  · exact hl
  · rename_i h
    rw [← List.concat_eq_append]
    exact hl.concat h

theorem find?_upsert (x : α) (l : List α) (k : κ) : (upsert key join x l).find? (key · = k) =
    (l.find? (key · = k)).merge join (if key x = k then some x else none) := by
  induction l with
  | nil => by_cases hk : key x = k <;> simp [upsert, hk]
  | cons y ys ih =>
    rw [upsert]
    by_cases hy : key y = key x
    · by_cases hk : key x = k <;> simp [hy, hj, hk]
    · rw [if_neg hy]
      by_cases hk : key y = k
      · have h1 : key x ≠ k := fun h => hy (hk.trans h.symm)
        rw [find?_cons_of_eq hk, find?_cons_of_eq hk, if_neg h1, Option.merge_none_right]
      · rw [find?_cons_of_ne hk, find?_cons_of_ne hk, ih]

/-- the keys come in the order of their first appearance -/
theorem map_key_foldl_upsert [BEq κ] [LawfulBEq κ] (xs : List α) :
    (xs.foldl (fun l x => upsert key join x l) []).map key = (xs.map key).eraseDups := by
  induction xs using List.reverseRecOn with
  | nil => rfl
  | append_singleton xs x ih =>
    rw [List.foldl_append, List.foldl_cons, List.foldl_nil, map_key_upsert key join hj, ih,
      List.map_append, List.map_singleton, eraseDups_concat]
    simp only [List.mem_eraseDups]

/-- the members of one key are joined in their order -/
theorem find?_foldl_upsert [Std.Associative join] (xs : List α) (k : κ) :
    (xs.foldl (fun l x => upsert key join x l) []).find? (key · = k) =
      combined join (xs.filter (key · = k)) := by
  have h1 : ∀ l, (xs.foldl (fun l x => upsert key join x l) l).find? (key · = k) =
      (xs.map fun x => if key x = k then some x else none).foldl (Option.merge join)
        (l.find? (key · = k)) := by
    induction xs with
    | nil => intro l; rfl
    | cons x xs ih => intro l; rw [List.foldl_cons, ih, find?_upsert key join hj]; rfl
  rw [h1, List.find?_nil, foldl_merge_filter]

end

/-- keeps its comment, or takes that of an edge of the same key -/
def Edge.absorb (e e' : Edge) : Edge := { e with message := e.message.absorb e'.message }

namespace Graph

variable {g : Graph}

/-! ### vertices -/

theorem vertices_addVertex (g : Graph) (v : Handler) :
    (g.addVertex v).1.vertices = upsert Handler.name Handler.absorb v g.vertices := by
  rw [← upsert_eq]
  show _ = match g.position? v.name with
    | some i => g.vertices.modify i (Handler.absorb · v)
    | none => g.vertices ++ [v]
  cases h : g.position? v.name with
  | none => rw [addVertex_of_absent h]
  | some i => rw [addVertex_of_position? h]

theorem position_addVertex (g : Graph) (v : Handler) :
    ((g.addVertex v).1.vertices.map Handler.name)[(g.addVertex v).2]? = some v.name := by
  cases h : g.position? v.name with
  | none => rw [addVertex_of_absent h, List.map_append, List.getElem?_append_right] <;> simp
  | some i =>
    obtain ⟨w, hw, hn⟩ := position?_eq_some h
    have h1 := map_modify_of_key_eq (f := fun w => w.absorb v) (fun w => Handler.name_absorb w v)
      g.vertices i
    rw [addVertex_of_position? h, h1, List.getElem?_map, hw, Option.map_some, hn]

/-- names keep their positions -/
theorem names_prefix_addVertex (g : Graph) (v : Handler) :
    g.vertices.map Handler.name <+: (g.addVertex v).1.vertices.map Handler.name := by
  rw [names_addVertex]
  split
  · exact List.prefix_refl _
  · exact List.prefix_append _ _

/-! ### labels of flows -/

theorem map_labelKey_labels (g : Graph) :
    (g.flows.map Flow.label).map labelKey = g.flows.map Flow.key := by
  rw [List.map_map]
  rfl

/-- keeps its comment, or takes that of a label of the same key -/
def labelAbsorb (k l : String × String × Message) : String × String × Message :=
  (k.1, k.2.1, k.2.2.absorb l.2.2)

theorem labelKey_labelAbsorb (k l : String × String × Message) :
    labelKey (labelAbsorb k l) = labelKey k := rfl

instance : Std.Associative labelAbsorb := ⟨fun k l m => by
  rw [labelAbsorb, labelAbsorb, labelAbsorb, labelAbsorb, Message.absorb_assoc]⟩

/-- the label of an edge between vertices of these names -/
def labelOf (names : List String) (e : Edge) : String × String × Message :=
  (names.getD e.source "", names.getD e.target "", e.message)

theorem labelOf_of_prefix {names names' : List String} (h : names <+: names') {e : Edge}
    (hs : e.source < names.length) (ht : e.target < names.length) :
    labelOf names' e = labelOf names e := by
  obtain ⟨rest, rfl⟩ := h
  simp only [labelOf, List.getD_eq_getElem?_getD, List.getElem?_append_left hs,
    List.getElem?_append_left ht]

theorem labelOf_of_getElem? {names : List String} {s t : Nat} {p c : String}
    (hs : names[s]? = some p) (ht : names[t]? = some c) (m : Message) :
    labelOf names ⟨s, t, m⟩ = (p, c, m) := by
  simp only [labelOf, List.getD_eq_getElem?_getD, hs, ht, Option.getD_some]

/-- the labels of the flows are those of the edges -/
theorem WellFormed.labels_eq (hg : g.WellFormed) :
    g.flows.map Flow.label = g.edges.map (labelOf (g.vertices.map Handler.name)) := by
  apply List.map_injective_iff.mpr fun _ _ => Option.some.inj
  rw [List.map_map]
  show g.flows.map (Option.map Flow.label ∘ some) = _
  rw [← List.map_map, hg.map_some_flows, List.map_map, List.map_map]
  apply List.map_congr_left
  intro e he
  obtain ⟨f, hf⟩ := hg.exists_flow? he
  obtain ⟨hs, ht, hm⟩ := flow?_eq_some_iff.mp hf
  have h1 : labelOf (g.vertices.map Handler.name) e = f.label := by
    rw [Flow.label, ← hm]
    apply labelOf_of_getElem? <;> simp [hs, ht]
  rw [Function.comp_apply, Function.comp_apply, hf, h1, Option.map_some]

/-- the edge with that label between vertices of these names -/
def edgeOf (names : List String) (l : String × String × Message) : Edge :=
  ⟨names.idxOf l.1, names.idxOf l.2.1, l.2.2⟩

/-- names and labels tell the edges -/
theorem WellFormed.edges_eq (hg : g.WellFormed) :
    g.edges = (g.flows.map Flow.label).map (edgeOf (g.vertices.map Handler.name)) := by
  have h1 : ∀ e ∈ g.edges, edgeOf (g.vertices.map Handler.name)
      (labelOf (g.vertices.map Handler.name) e) = e := by
    intro e he
    have hs : e.source < (g.vertices.map Handler.name).length := by
      rw [List.length_map]
      exact hg.source_lt e he
    have ht : e.target < (g.vertices.map Handler.name).length := by
      rw [List.length_map]
      exact hg.target_lt e he
    rw [labelOf_of_getElem? (List.getElem?_eq_getElem hs) (List.getElem?_eq_getElem ht), edgeOf,
      hg.names_nodup.idxOf_getElem, hg.names_nodup.idxOf_getElem]
  rw [hg.labels_eq, List.map_map]
  exact ((List.map_congr_left h1).trans (List.map_id _)).symm

theorem WellFormed.labels_addVertex (hg : g.WellFormed) (v : Handler) :
    (g.addVertex v).1.flows.map Flow.label = g.flows.map Flow.label := by
  rw [(hg.addVertex v).labels_eq, hg.labels_eq, edges_addVertex]
  apply List.map_congr_left
  intro e he
  apply labelOf_of_prefix (names_prefix_addVertex g v)
  · rw [List.length_map]
    exact hg.source_lt e he
  · rw [List.length_map]
    exact hg.target_lt e he

theorem edges_addEdge {s t : Nat} (hs : s < g.vertices.length) (ht : t < g.vertices.length)
    (m : Message) :
    (g.addEdge s t m).1.edges = upsert Edge.key Edge.absorb ⟨s, t, m⟩ g.edges := by
  rw [← upsert_eq, addEdge, if_pos ⟨hs, ht⟩]
  show _ = match g.edges.findIdx? (·.key = (s, t, m.name)) with
    | some i => g.edges.modify i (Edge.absorb · ⟨s, t, m⟩)
    | none => g.edges ++ [(⟨s, t, m⟩ : Edge)]
  cases g.edges.findIdx? (·.key = (s, t, m.name)) <;> rfl

/-- distinct names tell positions apart, so labels tell edges apart -/
theorem labelKey_labelOf_eq_iff {names : List String} (hn : names.Nodup) {e e' : Edge}
    (he : e.source < names.length ∧ e.target < names.length)
    (he' : e'.source < names.length ∧ e'.target < names.length) :
    labelKey (labelOf names e) = labelKey (labelOf names e') ↔ e.key = e'.key := by
  obtain ⟨hs, ht⟩ := he
  obtain ⟨hs', ht'⟩ := he'
  simp only [labelKey, labelOf, Edge.key, Prod.mk.injEq, List.getD_eq_getElem?_getD,
    List.getElem?_eq_getElem hs, List.getElem?_eq_getElem ht, List.getElem?_eq_getElem hs',
    List.getElem?_eq_getElem ht', Option.getD_some, hn.getElem_inj_iff]

section
variable {s t : Nat} {p c : String} (hs : (g.vertices.map Handler.name)[s]? = some p)
  (ht : (g.vertices.map Handler.name)[t]? = some c)
include hs ht

theorem WellFormed.labels_addEdge (hg : g.WellFormed) (m : Message) :
    (g.addEdge s t m).1.flows.map Flow.label =
      upsert labelKey labelAbsorb (p, c, m) (g.flows.map Flow.label) := by
  obtain ⟨hs', -⟩ := List.getElem?_eq_some_iff.mp hs
  obtain ⟨ht', -⟩ := List.getElem?_eq_some_iff.mp ht
  have hlt : ∀ e ∈ g.edges, e.source < (g.vertices.map Handler.name).length
      ∧ e.target < (g.vertices.map Handler.name).length := by
    intro e he
    rw [List.length_map]
    exact ⟨hg.source_lt e he, hg.target_lt e he⟩
  rw [(hg.addEdge s t m).labels_eq, hg.labels_eq, vertices_addEdge, ← labelOf_of_getElem? hs ht m]
  rw [List.length_map] at hs' ht'
  rw [edges_addEdge hs' ht']
  apply map_upsert
  · intro e he
    exact (labelKey_labelOf_eq_iff hg.names_nodup (hlt e he) (by simpa using ⟨hs', ht'⟩)).symm
  · exact fun _ _ _ => rfl

theorem WellFormed.addEdge_eq_true_iff (hg : g.WellFormed) (m : Message) :
    (g.addEdge s t m).2 = true ↔ (p, c, m.name) ∉ g.flows.map Flow.key := by
  rw [List.getElem?_map, Option.map_eq_some_iff] at hs ht
  obtain ⟨v, hv, rfl⟩ := hs
  obtain ⟨w, hw, rfl⟩ := ht
  obtain ⟨hs', -⟩ := List.getElem?_eq_some_iff.mp hv
  obtain ⟨ht', -⟩ := List.getElem?_eq_some_iff.mp hw
  have h1 := hg.key_mem_iff (f := ⟨v, w, m⟩) hv hw
  rw [show (v.name, w.name, m.name) = Flow.key ⟨v, w, m⟩ from rfl, ← h1]
  by_cases hk : (s, t, m.name) ∈ g.edges.map Edge.key
  · obtain ⟨_, _, _, _, h2⟩ := addEdge_of_present hs' ht' hk
    simp [h2, hk]
  · simp [addEdge_of_absent hs' ht' hk, hk]

end

/-! ### adding a flow -/

theorem vertices_addFlow (g : Graph) (f : Flow) : (g.addFlow f).1.vertices =
    upsert Handler.name Handler.absorb f.target
      (upsert Handler.name Handler.absorb f.source g.vertices) := by
  rw [← vertices_addVertex, ← vertices_addVertex]
  exact vertices_addEdge _ _ _ _

section
variable (hg : g.WellFormed) (f : Flow)
include hg

/-- the ends of a flow are vertices by the time that its edge is added -/
theorem WellFormed.addFlow_ends : ∃ (w : Graph) (s t : Nat), w.WellFormed
    ∧ (w.vertices.map Handler.name)[s]? = some f.source.name
    ∧ (w.vertices.map Handler.name)[t]? = some f.target.name
    ∧ w.flows.map Flow.label = g.flows.map Flow.label
    ∧ g.addFlow f = w.addEdge s t f.message := by
  have h1 := hg.addVertex f.source
  refine ⟨((g.addVertex f.source).1.addVertex f.target).1, (g.addVertex f.source).2,
    ((g.addVertex f.source).1.addVertex f.target).2, h1.addVertex f.target, ?_,
    position_addVertex _ _, ?_, rfl⟩
  · obtain ⟨rest, h2⟩ := names_prefix_addVertex (g.addVertex f.source).1 f.target
    have h3 := position_addVertex g f.source
    obtain ⟨hlt, -⟩ := List.getElem?_eq_some_iff.mp h3
    rw [← h2, List.getElem?_append_left hlt, h3]
  · rw [h1.labels_addVertex, hg.labels_addVertex]

theorem WellFormed.labels_addFlow : (g.addFlow f).1.flows.map Flow.label =
    upsert labelKey labelAbsorb f.label (g.flows.map Flow.label) := by
  obtain ⟨w, s, t, hw, hs, ht, hl, h1⟩ := hg.addFlow_ends f
  rw [h1, hw.labels_addEdge hs ht, hl]
  rfl

theorem WellFormed.addFlow_eq_true_iff :
    (g.addFlow f).2 = true ↔ f.key ∉ g.flows.map Flow.key := by
  obtain ⟨w, s, t, hw, hs, ht, hl, h1⟩ := hg.addFlow_ends f
  rw [h1, hw.addEdge_eq_true_iff hs ht, ← map_labelKey_labels, ← map_labelKey_labels, hl]
  rfl

end

end Graph

end MessageFlow
