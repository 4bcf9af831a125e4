import Mathlib.Data.Prod.Lex
import MessageFlow.Proofs.Graph.Operations
import MessageFlow.Proofs.Observation.Map

/-!
# The join of two observation maps

`Graph.join` is the relational join of what is produced with what is consumed.

* `mem_joinFlows`, `joinFlows_ascending`   the flows to be added, in strict order;
* `labels_foldl_connect`   flows with new keys between known names are all added, in their order;
* `vertices_join`, `labels_join`   so the join has exactly these flows;
* `vertices_and_flows_join`        what it has in terms of the two maps.
-/

namespace MessageFlow

/-- by source, then by message, then by target -/
def Flow.Before (f g : Flow) : Prop :=
  f.source.name < g.source.name
    ∨ (f.source.name = g.source.name ∧ (f.message.name < g.message.name
      ∨ (f.message.name = g.message.name ∧ f.target.name < g.target.name)))

namespace Graph

/-- `Flow.Before` on the labels of flows -/
def LabelLt (k l : String × String × Message) : Prop :=
  k.1 < l.1 ∨ (k.1 = l.1 ∧ (k.2.2.name < l.2.2.name
    ∨ (k.2.2.name = l.2.2.name ∧ k.2.1 < l.2.1)))

theorem LabelLt.key_ne {k l : String × String × Message} (h : LabelLt k l) :
    labelKey k ≠ labelKey l := by
  intro he
  obtain ⟨h1, h2⟩ := Prod.mk.inj he
  obtain ⟨h2, h3⟩ := Prod.mk.inj h2
  rcases h with h | ⟨_, h | ⟨_, h⟩⟩
  · exact absurd h1 (ne_of_lt h)
  · exact absurd h3 (ne_of_lt h)
  · exact absurd h2 (ne_of_lt h)

theorem labelLt_iff {k l : String × String × Message} : LabelLt k l ↔
    toLex (k.1, toLex (k.2.2.name, k.2.1)) < toLex (l.1, toLex (l.2.2.name, l.2.1)) := by
  simp only [LabelLt, Prod.Lex.toLex_lt_toLex]

instance : Std.Irrefl LabelLt := ⟨fun _ h => h.key_ne rfl⟩

instance : Std.Antisymm LabelLt :=
  ⟨fun _ _ h h' => absurd (labelLt_iff.mp h') (labelLt_iff.mp h).asymm⟩

/-! ### the flows to be added -/

section
variable (producers consumers : ObservationMap)

theorem mem_joinFlows {l : String × String × Message} :
    l ∈ joinFlows producers consumers ↔
      ∃ x y, producers.message? l.1 l.2.2.name = some x
        ∧ consumers.message? l.2.1 l.2.2.name = some y ∧ l.2.2 = x.absorb y := by
  rw [joinFlows, List.mem_flatMap]
  constructor
  · rintro ⟨⟨p, x⟩, hp, hl⟩
    obtain ⟨⟨c, y⟩, hc, rfl⟩ := List.mem_map.mp hl
    obtain ⟨hc, hn⟩ := ObservationMap.mem_handling.mp hc
    exact ⟨x, y, ObservationMap.message?_eq_some_iff.mpr ⟨p, hp, rfl, rfl⟩,
      ObservationMap.message?_eq_some_iff.mpr ⟨c, hc, rfl, hn⟩, rfl⟩
  · obtain ⟨s, t, m⟩ := l
    rintro ⟨x, y, hx, hy, he⟩
    obtain ⟨p, hp, hs, hxn⟩ := ObservationMap.message?_eq_some_iff.mp hx
    obtain ⟨c, hc, ht, hyn⟩ := ObservationMap.message?_eq_some_iff.mp hy
    refine ⟨(p, x), hp, List.mem_map.mpr ⟨(c, y), ?_, ?_⟩⟩
    · exact ObservationMap.mem_handling.mpr ⟨hc, hyn.trans hxn.symm⟩
    · exact Prod.ext hs (Prod.ext ht he.symm)

theorem joinFlows_ascending : (joinFlows producers consumers).Pairwise LabelLt := by
  rw [joinFlows, List.pairwise_flatMap]
  constructor
  · rintro ⟨p, x⟩ _
    rw [List.pairwise_map]
    exact (consumers.handling_ascending x.name).imp fun h => .inr ⟨rfl, .inr ⟨rfl, h⟩⟩
  · apply producers.pairs_ascending.imp
    rintro ⟨p, x⟩ ⟨q, y⟩ hlt k hk l hl
    obtain ⟨⟨c, _⟩, _, rfl⟩ := List.mem_map.mp hk
    obtain ⟨⟨d, _⟩, _, rfl⟩ := List.mem_map.mp hl
    rcases hlt with hlt | ⟨he, hlt⟩
    · exact .inl hlt
    · exact .inr ⟨he, .inl hlt⟩

theorem joinFlows_keys_nodup : ((joinFlows producers consumers).map labelKey).Nodup :=
  List.pairwise_map.mpr ((joinFlows_ascending producers consumers).imp LabelLt.key_ne)

/-- a handler that was seen with a message was seen -/
theorem contains_of_message? {m : ObservationMap} {h k : String} {x : Message}
    (hx : m.message? h k = some x) : m.contains h = true := by
  obtain ⟨o, ho, _⟩ := Option.bind_eq_some_iff.mp hx
  rw [Roster.contains, ho, Option.isSome_some]

end

/-! ### connecting vertices by name -/

section
variable {g : Graph}

theorem vertices_connect (g : Graph) (l : String × String × Message) :
    (g.connect l).vertices = g.vertices := by
  unfold connect
  split
  · exact vertices_addEdge g _ _ _
  · rfl

theorem WellFormed.connect (hg : g.WellFormed) (l : String × String × Message) :
    (g.connect l).WellFormed := by
  unfold Graph.connect
  split
  · exact hg.addEdge _ _ _
  · exact hg

theorem vertices_foldl_connect (g : Graph) (ls : List (String × String × Message)) :
    (ls.foldl connect g).vertices = g.vertices := by
  induction ls generalizing g with
  | nil => rfl
  | cons l ls ih => rw [List.foldl_cons, ih, vertices_connect]

theorem WellFormed.foldl_connect (hg : g.WellFormed) (ls : List (String × String × Message)) :
    (ls.foldl Graph.connect g).WellFormed := by
  induction ls generalizing g with
  | nil => exact hg
  | cons l ls ih => exact ih (hg.connect l)

/-- a flow with a new key is added at the end -/
theorem WellFormed.flows_connect (hg : g.WellFormed) {f : Flow} (hs : f.source ∈ g.vertices)
    (ht : f.target ∈ g.vertices) (hn : f.key ∉ g.flows.map Flow.key) :
    (g.connect f.label).flows = g.flows ++ [f] := by
  obtain ⟨i, hi⟩ := List.mem_iff_getElem?.mp hs
  obtain ⟨j, hj⟩ := List.mem_iff_getElem?.mp ht
  have h1 : g.connect f.label = (g.addEdge i j f.message).1 := by
    simp only [Graph.connect, Flow.label, hg.position?_of_getElem? hi, hg.position?_of_getElem? hj]
  rw [h1]
  exact flows_addEdge_of_absent hi hj fun h => hn ((hg.key_mem_iff hi hj).mp h)

/-- names of vertices and a message label a flow between these vertices -/
theorem exists_flow_of_label {l : String × String × Message}
    (hs : l.1 ∈ g.vertices.map Handler.name) (ht : l.2.1 ∈ g.vertices.map Handler.name) :
    ∃ f : Flow, f.source ∈ g.vertices ∧ f.target ∈ g.vertices ∧ f.label = l := by
  obtain ⟨s, t, m⟩ := l
  obtain ⟨v, hv, h1⟩ := List.mem_map.mp hs
  obtain ⟨w, hw, h2⟩ := List.mem_map.mp ht
  exact ⟨⟨v, w, m⟩, hv, hw, Prod.ext h1 (Prod.ext h2 rfl)⟩

/-- flows with new keys, each another one, are all added in their order -/
theorem WellFormed.labels_foldl_connect (hg : g.WellFormed) {ls : List (String × String × Message)}
    (hends : ∀ l ∈ ls, l.1 ∈ g.vertices.map Handler.name ∧ l.2.1 ∈ g.vertices.map Handler.name)
    (hn : ((g.flows.map Flow.label ++ ls).map labelKey).Nodup) :
    (ls.foldl Graph.connect g).flows.map Flow.label = g.flows.map Flow.label ++ ls := by
  induction ls generalizing g with
  | nil => rw [List.foldl_nil, List.append_nil]
  | cons l ls ih =>
    obtain ⟨⟨hs, ht⟩, hrest⟩ := List.forall_mem_cons.mp hends
    obtain ⟨f, hfs, hft, rfl⟩ := exists_flow_of_label hs ht
    have hnew : f.key ∉ g.flows.map Flow.key := by
      rw [List.map_append, List.map_map, List.nodup_append] at hn
      exact fun h => hn.2.2 _ h _ (List.mem_map_of_mem List.mem_cons_self) rfl
    have h1 : (g.connect f.label).flows.map Flow.label = g.flows.map Flow.label ++ [f.label] := by
      rw [hg.flows_connect hfs hft hnew, List.map_append, List.map_singleton]
    rw [List.foldl_cons, ih (hg.connect f.label), h1, List.append_assoc, List.singleton_append]
    · rw [vertices_connect]
      exact hrest
    · rw [h1, List.append_assoc, List.singleton_append]
      exact hn

end

/-! ### the join -/

section
variable (producers consumers : ObservationMap)

theorem vertices_join : (join producers consumers).vertices =
    (ObservationMap.merge [producers, consumers]).handlers :=
  vertices_foldl_connect _ _

theorem names_join : (join producers consumers).vertices.map Handler.name =
    (ObservationMap.merge [producers, consumers]).names := by
  rw [vertices_join, ObservationMap.names_handlers]

/-- handlers with distinct names and no edges -/
theorem WellFormed.handlers (m : ObservationMap) : WellFormed ⟨m.handlers, []⟩ :=
  ⟨by rw [ObservationMap.names_handlers]; exact m.names_nodup,
    fun _ h => (List.not_mem_nil h).elim, fun _ h => (List.not_mem_nil h).elim, List.nodup_nil⟩

theorem WellFormed.join : (join producers consumers).WellFormed :=
  (WellFormed.handlers _).foldl_connect _

theorem labels_join :
    (join producers consumers).flows.map Flow.label = joinFlows producers consumers := by
  have hends : ∀ l ∈ joinFlows producers consumers,
      l.1 ∈ (ObservationMap.merge [producers, consumers]).names
      ∧ l.2.1 ∈ (ObservationMap.merge [producers, consumers]).names := by
    intro l hl
    obtain ⟨x, y, hx, hy, _⟩ := (mem_joinFlows producers consumers).mp hl
    rw [ObservationMap.mem_names_merge_iff, ObservationMap.mem_names_merge_iff]
    exact ⟨.inl (contains_of_message? hx), .inr (contains_of_message? hy)⟩
  rw [← ObservationMap.names_handlers] at hends
  exact (WellFormed.handlers _).labels_foldl_connect hends
    (joinFlows_keys_nodup producers consumers)

theorem mem_keys_join {p c m : String} :
    (p, c, m) ∈ (join producers consumers).flows.map Flow.key ↔
      (∃ x, producers.message? p m = some x) ∧ ∃ y, consumers.message? c m = some y := by
  have h1 : (join producers consumers).flows.map Flow.key =
      (joinFlows producers consumers).map labelKey := by
    rw [← labels_join, List.map_map]
    rfl
  rw [h1, List.mem_map]
  constructor
  · rintro ⟨⟨s, t, n⟩, hl, he⟩
    obtain ⟨rfl, h2⟩ := Prod.mk.inj he
    obtain ⟨rfl, rfl⟩ := Prod.mk.inj h2
    obtain ⟨x, y, hx, hy, _⟩ := (mem_joinFlows producers consumers).mp hl
    exact ⟨⟨x, hx⟩, ⟨y, hy⟩⟩
  · rintro ⟨⟨x, hx⟩, ⟨y, hy⟩⟩
    obtain ⟨_, _, _, hxn⟩ := ObservationMap.message?_eq_some_iff.mp hx
    have hl : (p, c, x.absorb y) ∈ joinFlows producers consumers := by
      rw [mem_joinFlows]
      subst hxn
      exact ⟨x, y, hx, hy, rfl⟩
    exact ⟨_, hl, Prod.ext rfl (Prod.ext rfl hxn)⟩

theorem message_of_mem_flows_join {f : Flow} (hf : f ∈ (join producers consumers).flows)
    {x y : Message} (hx : producers.message? f.source.name f.message.name = some x)
    (hy : consumers.message? f.target.name f.message.name = some y) : f.message = x.absorb y := by
  have hl : f.label ∈ joinFlows producers consumers := by
    rw [← labels_join]
    exact List.mem_map_of_mem hf
  obtain ⟨x', y', hx', hy', he⟩ := (mem_joinFlows producers consumers).mp hl
  have h1 : x' = x := Option.some.inj (hx'.symm.trans hx)
  have h2 : y' = y := Option.some.inj (hy'.symm.trans hy)
  rw [← h1, ← h2]
  exact he

theorem flows_join_ascending : (join producers consumers).flows.Pairwise Flow.Before := by
  have h1 := joinFlows_ascending producers consumers
  rw [← labels_join, List.pairwise_map] at h1
  exact h1

/-- **The join is the relational join of the two maps.**  It has one vertex per handler of either
map, in ascending order, as the two maps know it together, and one flow from `p` to `c` for each
message that `p` produces and `c` consumes.  The flows come in the order of producer, message and
consumer, and the producer's comment on the message has precedence. -/
theorem vertices_and_flows_join :
    ((join producers consumers).vertices.map Handler.name).Pairwise (· < ·)
    ∧ (∀ n, n ∈ (join producers consumers).vertices.map Handler.name ↔
        producers.contains n = true ∨ consumers.contains n = true)
    ∧ (∀ v, v ∈ (join producers consumers).vertices ↔
        producers.known? consumers v.name = some v)
    ∧ (∀ p c m, (p, c, m) ∈ (join producers consumers).flows.map Flow.key ↔
        (∃ x, producers.message? p m = some x) ∧ ∃ y, consumers.message? c m = some y)
    ∧ (∀ f ∈ (join producers consumers).flows, ∀ x y,
        producers.message? f.source.name f.message.name = some x →
        consumers.message? f.target.name f.message.name = some y →
        f.message.comment = x.comment.or y.comment)
    ∧ (join producers consumers).flows.Pairwise Flow.Before
    ∧ (join producers consumers).flows.length = (join producers consumers).edges.length := by
  refine ⟨?_, ?_, ?_, ?_, ?_, flows_join_ascending producers consumers,
    (WellFormed.join producers consumers).length_flows⟩
  · rw [names_join]
    exact Roster.names_ascending _
  · intro n
    rw [names_join, ObservationMap.mem_names_merge_iff]
  · intro v
    rw [vertices_join, ObservationMap.mem_handlers_merge_iff]
  · exact fun p c m => mem_keys_join producers consumers
  · intro f hf x y hx hy
    rw [message_of_mem_flows_join producers consumers hf hx hy]
    rfl

end

/-- the handler `a` is known to both maps and answers itself; what was seen of it when it produced
has precedence -/
example :
    let produced : ObservationMap :=
      .insert ∅ ⟨"a", "a", none, some "start"⟩ [⟨"n", some "sent"⟩, ⟨"m", none⟩]
    let consumed : ObservationMap := .insert
      (.insert ∅ ⟨"b", "b", none, none⟩ [⟨"m", some "received"⟩])
      ⟨"a", "x", some "answers", some "other"⟩ [⟨"n", some "received"⟩]
    (join produced consumed).vertices =
        [⟨"a", "a", some "answers", some "start"⟩, ⟨"b", "b", none, none⟩]
      ∧ (join produced consumed).edges =
        [⟨0, 1, ⟨"m", some "received"⟩⟩, ⟨0, 0, ⟨"n", some "sent"⟩⟩] := by
  decide

end Graph

end MessageFlow
