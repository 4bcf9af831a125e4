import MessageFlow.Proofs.Graph.Join

/-!
# Flows and messages that nobody consumes

The join of two maps and the list of what is not consumed are made in two passes over the same maps.
Together they account for every produced message: it has as many flows as there are consumers of it,
and where these are none, it is listed.

* `length_handling`   the consumers of a message, counted handler by handler;
* `countP_flows_join`   the flows of one message that a producer sends;
* `mem_unconsumed_iff`   what is listed;
* `flows_and_unconsumed`   every produced message has its flows or is listed.
-/

namespace MessageFlow

-- sums of numbers, as the core library has them
attribute [local instance (high)] Zero.ofOfNat0

theorem Roster.countP_name {α : Type} {name : α → String} (r : Roster name) (n : String) :
    r.members.countP (name · = n) = if r.contains n then 1 else 0 := by
  have h1 : r.members.countP (name · = n) = r.names.count n := by
    rw [names, List.count, List.countP_map]
    rfl
  rw [h1, r.names_nodup.count]
  exact if_congr contains_iff.symm rfl rfl

/-- where one member of a list has all that is counted, that one decides -/
theorem countP_flatMap_of_key {α β κ : Type} {key : α → κ} {p : β → Bool} {f : α → List β}
    {l : List α} (hl : (l.map key).Nodup) {x : α} (hx : x ∈ l)
    (hf : ∀ y ∈ l, key y ≠ key x → ∀ b ∈ f y, ¬ p b) :
    (l.flatMap f).countP p = (f x).countP p := by
  have h0 : ∀ k : List α, (∀ y ∈ k, y ∈ l ∧ key y ≠ key x) → (k.flatMap f).countP p = 0 := by
    intro k hk
    rw [List.countP_eq_zero]
    intro b hb
    obtain ⟨y, hy, hb⟩ := List.mem_flatMap.mp hb
    exact hf y (hk y hy).1 (hk y hy).2 b hb
  -- nothing counts before `x` or after it
  obtain ⟨before, after, rfl⟩ := List.append_of_mem hx
  rw [List.map_append, List.map_cons, List.nodup_append, List.nodup_cons] at hl
  obtain ⟨_, ⟨hafter, _⟩, hbefore⟩ := hl
  have h1 : (before.flatMap f).countP p = 0 := h0 before fun y hy =>
    ⟨List.mem_append_left _ hy, hbefore _ (List.mem_map_of_mem hy) _ List.mem_cons_self⟩
  have h2 : (after.flatMap f).countP p = 0 := h0 after fun y hy =>
    ⟨List.mem_append_right _ (List.mem_cons_of_mem _ hy),
      fun he => hafter (he ▸ List.mem_map_of_mem hy)⟩
  rw [List.flatMap_append, List.flatMap_cons, List.countP_append, List.countP_append, h1, h2]
  omega

namespace ObservationMap

/-- how many handlers were seen with the message of that name -/
def audience (m : ObservationMap) (message : String) : Nat :=
  m.members.countP (·.messages.contains message)

theorem length_handling (m : ObservationMap) (k : String) :
    (m.handling k).length = m.audience k := by
  rw [handling, pairs, audience, ← List.countP_eq_length_filter, List.countP_flatMap]
  induction m.members with
  | nil => rfl
  | cons o os ih =>
    have h1 : (o.messages.members.map fun x => (o.handler, x)).countP (·.2.name = k) =
        if o.messages.contains k then 1 else 0 := by
      rw [List.countP_map]
      exact o.messages.countP_name k
    rw [List.map_cons, List.sum_cons, ih, List.countP_cons, Function.comp_apply, h1]
    omega

theorem pairs_keys_nodup (m : ObservationMap) :
    (m.pairs.map fun q => (q.1.name, q.2.name)).Nodup := by
  refine List.pairwise_map.mpr (m.pairs_ascending.imp ?_)
  intro q r hlt he
  obtain ⟨h1, h2⟩ := Prod.mk.inj he
  rcases hlt with hlt | ⟨_, hlt⟩
  · exact absurd h1 (ne_of_lt hlt)
  · exact absurd h2 (ne_of_lt hlt)

end ObservationMap

namespace Graph

variable (producers consumers : ObservationMap)

theorem countP_flows_join {p : Handler} {x : Message} (hp : (p, x) ∈ producers.pairs) :
    (join producers consumers).flows.countP
        (fun f => f.source.name = p.name ∧ f.message.name = x.name) =
      consumers.audience x.name := by
  have h1 : (join producers consumers).flows.countP
        (fun f => f.source.name = p.name ∧ f.message.name = x.name) =
      (joinFlows producers consumers).countP (fun l => l.1 = p.name ∧ l.2.2.name = x.name) := by
    rw [← labels_join, List.countP_map]
    rfl
  rw [h1, joinFlows, countP_flatMap_of_key producers.pairs_keys_nodup hp]
  · rw [List.countP_map, ← ObservationMap.length_handling, List.countP_eq_length]
    intro q _
    simp [Message.absorb]
  · rintro ⟨q, y⟩ _ hne l hl h
    obtain ⟨r, _, rfl⟩ := List.mem_map.mp hl
    rw [decide_eq_true_eq] at h
    exact hne (Prod.ext h.1 h.2)

theorem mem_unconsumed_iff {q : Handler × Message} :
    q ∈ unconsumed producers consumers ↔
      q ∈ producers.pairs ∧ consumers.audience q.2.name = 0 := by
  rw [unconsumed, List.mem_filter, ← ObservationMap.length_handling, List.isEmpty_iff,
    List.length_eq_zero_iff]

theorem length_edges_join : (join producers consumers).edges.length =
    (producers.pairs.map fun q => consumers.audience q.2.name).sum := by
  have h1 : (join producers consumers).flows.length = (joinFlows producers consumers).length := by
    rw [← labels_join, List.length_map]
  rw [← (WellFormed.join producers consumers).length_flows, h1, joinFlows, List.length_flatMap]
  congr 1
  apply List.map_congr_left
  rintro ⟨p, x⟩ _
  rw [List.length_map, ObservationMap.length_handling]

/-- **Every produced message has its flows or is listed.**  A message that a handler produces has as
many flows from that handler as there are handlers that consume it, and it is listed as unconsumed
exactly if these are none.  Nothing else is listed, and the list is in strict order, so that nothing
is listed twice.  Together the flows are as many as the produced messages have consumers. -/
theorem flows_and_unconsumed :
    (∀ p x, (p, x) ∈ producers.pairs →
      (join producers consumers).flows.countP
          (fun f => f.source.name = p.name ∧ f.message.name = x.name) =
        consumers.audience x.name
      ∧ ((p, x) ∈ unconsumed producers consumers ↔ consumers.audience x.name = 0))
    ∧ (∀ q ∈ unconsumed producers consumers, q ∈ producers.pairs)
    ∧ (unconsumed producers consumers).Pairwise ObservationMap.PairLt
    ∧ (join producers consumers).flows.length = (join producers consumers).edges.length
    ∧ (join producers consumers).edges.length =
        (producers.pairs.map fun q => consumers.audience q.2.name).sum := by
  refine ⟨?_, ?_, ?_, (WellFormed.join producers consumers).length_flows,
    length_edges_join producers consumers⟩
  · intro p x hp
    refine ⟨countP_flows_join producers consumers hp, ?_⟩
    rw [mem_unconsumed_iff]
    exact and_iff_right hp
  · exact fun q hq => ((mem_unconsumed_iff producers consumers).mp hq).1
  · exact producers.pairs_ascending.filter _

/-- a handler that produces two messages -/
def outbox : ObservationMap := .insert ∅ ⟨"a", "a", none, none⟩ [⟨"n", none⟩, ⟨"m", none⟩]

/-- two handlers that consume one of them -/
def inbox : ObservationMap :=
  .insert (.insert ∅ ⟨"b", "b", none, none⟩ [⟨"m", none⟩]) ⟨"a", "a", none, none⟩ [⟨"m", none⟩]

/-- `m` has two consumers, one of them its producer, and `n` has none -/
theorem flows_and_unconsumed_outbox :
    (join outbox inbox).flows.countP (fun f => f.source.name = "a" ∧ f.message.name = "m") = 2
    ∧ (⟨"a", "a", none, none⟩, ⟨"m", none⟩) ∉ unconsumed outbox inbox
    ∧ (⟨"a", "a", none, none⟩, ⟨"n", none⟩) ∈ unconsumed outbox inbox
    ∧ (join outbox inbox).edges.length = 2 := by
  have hm : (⟨"a", "a", none, none⟩, ⟨"m", none⟩) ∈ outbox.pairs := by decide
  have hn : (⟨"a", "a", none, none⟩, ⟨"n", none⟩) ∈ outbox.pairs := by decide
  obtain ⟨h1, -, -, -, h2⟩ := flows_and_unconsumed outbox inbox
  refine ⟨?_, ?_, ?_, ?_⟩
  · rw [(h1 _ _ hm).1]
    decide
  · rw [(h1 _ _ hm).2]
    decide
  · rw [(h1 _ _ hn).2]
    decide
  · rw [h2]
    decide

end Graph

end MessageFlow
