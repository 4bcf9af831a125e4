import MessageFlow.Analysis
import MessageFlow.Proofs.Graph.Join
import MessageFlow.Proofs.Observation.Set

/-!
# The order in which sightings count

What an analysis makes of a list of sightings can be told without its maps: the sightings are put
into the order of their kinds, and of all that they show of a handler, or of a message of a handler,
the first remark counts.

* `handler_ofSightings`, `message?_ofSightings`   what the sightings of some kinds tell together;
* `known?_ofSightings`   what both sides tell of a handler;
* `graph_of_sightings`   the vertices and the flows of the graph.
-/

namespace MessageFlow

namespace Sighting

/-- the sightings of some kinds, kind by kind, those of one kind in their order -/
def inOrder (ks : List Kind) (xs : List Sighting) : List Sighting :=
  ks.flatMap fun k => xs.filter (·.kind = k)

/-- all that sightings show of the handler of that name -/
def showing (xs : List Sighting) (h : String) : List Handler :=
  (xs.map Sighting.handler).filter (·.name = h)

/-- all that sightings of the handler of that name show of the message of that name -/
def exchanging (xs : List Sighting) (h k : String) : List Message :=
  ((xs.filter (·.handler.name = h)).flatMap Sighting.messages).filter (·.name = k)

theorem mem_inOrder {ks : List Kind} {xs : List Sighting} {x : Sighting} :
    x ∈ inOrder ks xs ↔ x ∈ xs ∧ x.kind ∈ ks := by
  simp only [inOrder, List.mem_flatMap, List.mem_filter, decide_eq_true_eq]
  constructor
  · rintro ⟨k, hk, hx, rfl⟩
    exact ⟨hx, hk⟩
  · exact fun ⟨hx, hk⟩ => ⟨x.kind, hk, hx, rfl⟩

theorem inOrder_append (ks ls : List Kind) (xs : List Sighting) :
    inOrder (ks ++ ls) xs = inOrder ks xs ++ inOrder ls xs :=
  List.flatMap_append

theorem showing_append (xs ys : List Sighting) (h : String) :
    showing (xs ++ ys) h = showing xs h ++ showing ys h := by
  rw [showing, List.map_append, List.filter_append]
  rfl

theorem mem_showing {xs : List Sighting} {h : String} {v : Handler} :
    v ∈ showing xs h ↔ (∃ x ∈ xs, x.handler = v) ∧ v.name = h := by
  rw [showing, List.mem_filter, List.mem_map, decide_eq_true_eq]

theorem showing_ne_nil_iff {xs : List Sighting} {h : String} :
    showing xs h ≠ [] ↔ ∃ x ∈ xs, x.handler.name = h := by
  constructor
  · intro h1
    obtain ⟨v, hv⟩ := List.exists_mem_of_ne_nil _ h1
    obtain ⟨⟨x, hx, rfl⟩, hn⟩ := mem_showing.mp hv
    exact ⟨x, hx, hn⟩
  · rintro ⟨x, hx, hn⟩
    exact List.ne_nil_of_mem (mem_showing.mpr ⟨⟨x, hx, rfl⟩, hn⟩)

/-- what is shown of a name has that name -/
theorem name_of_combined_showing {xs : List Sighting} {h : String} {v : Handler}
    (hv : combined Handler.absorb (showing xs h) = some v) : v.name = h := by
  have h1 := (combined_handlers_eq_some_iff.mp hv).name
  obtain ⟨w, hw, hn⟩ := Option.map_eq_some_iff.mp h1
  rw [← hn]
  exact (mem_showing.mp (List.mem_of_head? hw)).2

/-- what is shown of a message, sighting by sighting -/
theorem flatten_exchanging (xs : List Sighting) (h k : String) :
    (xs.map fun x => if x.handler.name = h then x.messages.filter (·.name = k) else []).flatten =
      exchanging xs h k := by
  induction xs with
  | nil => rfl
  | cons x xs ih =>
    rw [List.map_cons, List.flatten_cons, ih]
    by_cases hn : x.handler.name = h <;> simp [exchanging, hn]

end Sighting

open Sighting

theorem MessageSet.find?_ofList (ms : List Message) (k : String) :
    (MessageSet.ofList ms).find? k = combined Message.absorb (ms.filter (·.name = k)) := by
  rw [← foldl_merge_filter]
  exact Roster.find?_foldl_put_each _ ∅ ms k

namespace ObservationSet

/-! ### what the sightings of some kinds tell -/

theorem observedAs_eq (ks : List Kind) (xs : List Sighting) :
    observedAs ks xs = (inOrder ks xs).map Sighting.observed :=
  (List.map_flatMap ..).symm

section
variable (ks : List Kind) (xs : List Sighting) (h k : String)

theorem handler_ofSightings :
    ((ObservationMap.ofList (observedAs ks xs)).find? h).map Observed.handler =
      combined Handler.absorb (showing (inOrder ks xs) h) := by
  have h1 : (fun x : Sighting =>
        (if x.observed.name = h then some x.observed else none).map Observed.handler) =
      (fun v : Handler => if v.name = h then some v else none) ∘ Sighting.handler := by
    funext x
    show (if x.handler.name = h then some x.observed else none).map Observed.handler = _
    by_cases hn : x.handler.name = h <;> simp [hn, observed]
  rw [ObservationMap.find?_ofList_hom (φ := Option.map Observed.handler) rfl
    ObservationMap.handler_merge, observedAs_eq, List.map_map, showing, ← foldl_merge_filter,
    List.map_map, ← h1]
  rfl

theorem message?_ofSightings :
    (ObservationMap.ofList (observedAs ks xs)).message? h k =
      combined Message.absorb (exchanging (inOrder ks xs) h k) := by
  have h1 : (fun x : Sighting =>
        (if x.observed.name = h then some x.observed else none).bind (·.messages.find? k)) =
      combined Message.absorb ∘
        fun x => if x.handler.name = h then x.messages.filter (·.name = k) else [] := by
    funext x
    show (if x.handler.name = h then some x.observed else none).bind (·.messages.find? k) = _
    by_cases hn : x.handler.name = h
    · simp only [if_pos hn, Function.comp_apply]
      exact MessageSet.find?_ofList x.messages k
    · simp [hn, combined]
  rw [ObservationMap.message?, ObservationMap.find?_ofList_hom
    (φ := fun o => o.bind (·.messages.find? k)) rfl (fun o p => ObservationMap.message_merge o p k),
    observedAs_eq, List.map_map, ← flatten_exchanging, ← foldl_merge_combined, List.map_map, ← h1]
  rfl

/-- both sides together tell what all sightings show, those of the producing kinds first -/
theorem known?_ofSightings :
    (ofSightings xs).producers.known? (ofSightings xs).consumers h =
      combined Handler.absorb (showing (inOrder Kind.all xs) h) := by
  rw [ObservationMap.known?_eq, producers_ofSightings, consumers_ofSightings, handler_ofSightings,
    handler_ofSightings, ← combined_append, ← showing_append, ← inOrder_append]
  rfl

end

end ObservationSet

namespace Analysis

/-- **The first remark counts, through all maps.**  Let sightings be recorded in any order, of any
kinds, and whatever they show.  The vertices of the graph are the handlers that were seen, each of
them one fold over all that was seen of it in the order of the kinds: with the module of the first
sighting, the first comment and the first entry point.  A flow of `k` leads from `p` to `c` if `p`
was seen with `k` under a producing kind and `c` under a consuming one; its comment is the first one
that `p` was seen to send `k` with, or else the first one that `c` was seen to handle it with. -/
theorem graph_of_sightings (xs : List Sighting) :
    let g := (ofObservations (ObservationSet.ofSightings xs)).graph
    let shown := fun h => showing (inOrder Kind.all xs) h
    let sent := fun p k => exchanging (inOrder Kind.producers xs) p k
    let handled := fun c k => exchanging (inOrder Kind.consumers xs) c k
    g.WellFormed
    ∧ (∀ h, h ∈ g.vertices.map Handler.name ↔ ∃ x ∈ xs, x.handler.name = h)
    ∧ (∀ v, v ∈ g.vertices ↔ combined Handler.absorb (shown v.name) = some v)
    ∧ (∀ v ∈ g.vertices, v.FirstOf (shown v.name))
    ∧ (∀ p c k, (p, c, k) ∈ g.flows.map Flow.key ↔ sent p k ≠ [] ∧ handled c k ≠ [])
    ∧ (∀ f ∈ g.flows, combined Message.absorb
        (sent f.source.name f.message.name ++ handled f.target.name f.message.name) =
          some f.message)
    ∧ (∀ f ∈ g.flows, f.message.comment =
        ((sent f.source.name f.message.name).findSome? Message.comment).or
          ((handled f.target.name f.message.name).findSome? Message.comment)) := by
  intro g shown sent handled
  have hv : ∀ v, v ∈ g.vertices ↔ combined Handler.absorb (shown v.name) = some v := by
    intro v
    show v ∈ (Graph.join _ _).vertices ↔ _
    rw [Graph.vertices_join, ObservationMap.mem_handlers_merge_iff,
      ObservationSet.known?_ofSightings]
  have hp : ∀ p k, (ObservationSet.ofSightings xs).producers.message? p k =
      combined Message.absorb (sent p k) := by
    intro p k
    rw [ObservationSet.producers_ofSightings, ObservationSet.message?_ofSightings]
  have hc : ∀ c k, (ObservationSet.ofSightings xs).consumers.message? c k =
      combined Message.absorb (handled c k) := by
    intro c k
    rw [ObservationSet.consumers_ofSightings, ObservationSet.message?_ofSightings]
  have hk : ∀ p c k, (p, c, k) ∈ g.flows.map Flow.key ↔
      (∃ x, combined Message.absorb (sent p k) = some x)
        ∧ ∃ y, combined Message.absorb (handled c k) = some y := by
    intro p c k
    rw [← hp, ← hc]
    exact Graph.mem_keys_join _ _
  have hm : ∀ f ∈ g.flows, combined Message.absorb
      (sent f.source.name f.message.name ++ handled f.target.name f.message.name) =
        some f.message := by
    intro f hf
    obtain ⟨⟨x, hx⟩, ⟨y, hy⟩⟩ := (hk _ _ _).mp (List.mem_map_of_mem hf)
    have h1 : f.message = x.absorb y :=
      Graph.message_of_mem_flows_join _ _ hf ((hp _ _).trans hx) ((hc _ _).trans hy)
    rw [combined_append, hx, hy, h1, Option.merge_some_some]
  refine ⟨Graph.WellFormed.join _ _, ?_, hv, ?_, ?_, hm, ?_⟩
  · intro h
    have h1 : (∃ x ∈ xs, x.handler.name = h) ↔ ∃ v, combined Handler.absorb (shown h) = some v := by
      rw [exists_combined_iff, showing_ne_nil_iff]
      simp only [mem_inOrder, Kind.mem_all, and_true]
    rw [h1, List.mem_map]
    constructor
    · rintro ⟨v, hmem, rfl⟩
      exact ⟨v, (hv v).mp hmem⟩
    · rintro ⟨v, hmem⟩
      obtain rfl := name_of_combined_showing hmem
      exact ⟨v, (hv v).mpr hmem, rfl⟩
  · exact fun v hmem => combined_handlers_eq_some_iff.mp ((hv v).mp hmem)
  · intro p c k
    rw [hk, exists_combined_iff, exists_combined_iff]
  · intro f hf
    rw [(combined_messages_eq_some_iff.mp (hm f hf)).comment, List.findSome?_append]

/-- what a sender tells counts before what a consumer told earlier -/
example : (ofObservations (ObservationSet.ofSightings
    [⟨.consumer, ⟨"a", "m", some "consumes", some "start"⟩, []⟩,
      ⟨.sender, ⟨"a", "n", some "sends", none⟩, []⟩])).graph.vertices =
    [⟨"a", "n", some "sends", some "start"⟩] := by decide

end Analysis

end MessageFlow
