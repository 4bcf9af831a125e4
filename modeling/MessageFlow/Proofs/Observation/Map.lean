import MessageFlow.Graph.Join
import MessageFlow.Proofs.Roster

/-!
# What observation maps know

An observation map is asked for a handler, or for a message of a handler.

* `message?`           the message of that name that a handler was seen with;
* `known?`             the handler as two maps know it, the first one having precedence;
* `find?_union`        uniting maps unites what they know of each handler;
* `mem_handlers_merge_iff`   the handlers of two merged maps;
* `mem_pairs`, `pairs_ascending`   the pairs of a map, in strict order.
-/

namespace MessageFlow.ObservationMap

/-- the message of that name that the handler of that name was seen with -/
def message? (m : ObservationMap) (handler message : String) : Option Message :=
  (m.find? handler).bind fun o => o.messages.find? message

/-- the handler of that name as two maps know it: what the first one leaves open is taken from the
second -/
def known? (m n : ObservationMap) (handler : String) : Option Handler :=
  match m.find? handler, n.find? handler with
  | some o, some p => some {
      name := o.handler.name
      moduleKey := o.handler.moduleKey
      comment := o.handler.comment.or p.handler.comment
      entryPoint := o.handler.entryPoint.or p.handler.entryPoint }
  | some o, none => some o.handler
  | none, some p => some p.handler
  | none, none => none

variable {m n : ObservationMap}

/-! ### handlers -/

theorem find?_add (m : ObservationMap) (o : Observed) (h : String) :
    (m.add o).find? h = (m.find? h).merge Observed.absorb (if o.name = h then some o else none) :=
  Roster.find?_put _ m o h

theorem find?_union (m n : ObservationMap) (h : String) :
    (m.union n).find? h = (m.find? h).merge Observed.absorb (n.find? h) :=
  Roster.find?_foldl_put _ m n h

theorem find?_merge_pair (m n : ObservationMap) (h : String) :
    (merge [m, n]).find? h = (m.find? h).merge Observed.absorb (n.find? h) := by
  show ((union ∅ m).union n).find? h = _
  rw [find?_union, find?_union, Roster.find?_empty, Option.merge_none_left]

theorem names_handlers (m : ObservationMap) : m.handlers.map Handler.name = m.names :=
  List.map_map

theorem mem_handlers {v : Handler} :
    v ∈ m.handlers ↔ (m.find? v.name).map Observed.handler = some v := by
  rw [handlers, List.mem_map, Option.map_eq_some_iff]
  constructor
  · rintro ⟨o, ho, rfl⟩
    exact ⟨o, Roster.find?_eq_some_iff.mpr ⟨ho, rfl⟩, rfl⟩
  · rintro ⟨o, ho, h1⟩
    exact ⟨o, (Roster.find?_eq_some_iff.mp ho).1, h1⟩

theorem handler_merge (o p : Option Observed) :
    (o.merge Observed.absorb p).map Observed.handler =
      (o.map Observed.handler).merge Handler.absorb (p.map Observed.handler) := by
  cases o <;> cases p <;> rfl

theorem known?_eq (m n : ObservationMap) (h : String) :
    m.known? n h = ((m.find? h).map Observed.handler).merge Handler.absorb
      ((n.find? h).map Observed.handler) := by
  rw [known?]
  cases m.find? h <;> cases n.find? h <;> rfl

theorem mem_handlers_merge_iff {v : Handler} :
    v ∈ (merge [m, n]).handlers ↔ m.known? n v.name = some v := by
  rw [mem_handlers, find?_merge_pair, handler_merge, known?_eq]

theorem mem_names_merge_iff {h : String} :
    h ∈ (merge [m, n]).names ↔ m.contains h = true ∨ n.contains h = true := by
  rw [← Roster.contains_iff, Roster.contains, Roster.contains, Roster.contains, find?_merge_pair]
  cases m.find? h <;> cases n.find? h <;> simp

/-! ### pairs of a handler and a message -/

/-- by handler, and then by message -/
def PairLt (a b : Handler × Message) : Prop :=
  a.1.name < b.1.name ∨ (a.1.name = b.1.name ∧ a.2.name < b.2.name)

theorem mem_pairs {h : Handler} {x : Message} :
    (h, x) ∈ m.pairs ↔ ∃ o ∈ m.members, o.handler = h ∧ x ∈ o.messages.members := by
  rw [pairs, List.mem_flatMap]
  constructor
  · rintro ⟨o, ho, hx⟩
    obtain ⟨y, hy, he⟩ := List.mem_map.mp hx
    obtain ⟨rfl, rfl⟩ := Prod.mk.inj he
    exact ⟨o, ho, rfl, hy⟩
  · rintro ⟨o, ho, rfl, hx⟩
    exact ⟨o, ho, List.mem_map.mpr ⟨x, hx, rfl⟩⟩

/-- a handler was seen with a message if the map has that pair -/
theorem message?_eq_some_iff {h : String} {x : Message} {k : String} :
    m.message? h k = some x ↔ ∃ v, (v, x) ∈ m.pairs ∧ v.name = h ∧ x.name = k := by
  rw [message?, Option.bind_eq_some_iff]
  constructor
  · rintro ⟨o, ho, hx⟩
    obtain ⟨h1, h2⟩ := Roster.find?_eq_some_iff.mp ho
    obtain ⟨h3, h4⟩ := Roster.find?_eq_some_iff.mp hx
    exact ⟨o.handler, mem_pairs.mpr ⟨o, h1, rfl, h3⟩, h2, h4⟩
  · rintro ⟨v, hv, h2, h4⟩
    obtain ⟨o, h1, rfl, h3⟩ := mem_pairs.mp hv
    exact ⟨o, Roster.find?_eq_some_iff.mpr ⟨h1, h2⟩, Roster.find?_eq_some_iff.mpr ⟨h3, h4⟩⟩

theorem pairs_ascending (m : ObservationMap) : m.pairs.Pairwise PairLt := by
  rw [pairs, List.pairwise_flatMap]
  constructor
  · intro o _
    rw [List.pairwise_map]
    exact o.messages.ascending.imp fun h => .inr ⟨rfl, h⟩
  · apply m.ascending.imp
    intro o p hlt x hx y hy
    obtain ⟨_, _, rfl⟩ := List.mem_map.mp hx
    obtain ⟨_, _, rfl⟩ := List.mem_map.mp hy
    exact .inl hlt

theorem mem_handling {h : Handler} {x : Message} {k : String} :
    (h, x) ∈ m.handling k ↔ (h, x) ∈ m.pairs ∧ x.name = k := by
  rw [handling, List.mem_filter, decide_eq_true_iff]

/-- the handlers that were seen with one message come in the order of their names -/
theorem handling_ascending (m : ObservationMap) (k : String) :
    (m.handling k).Pairwise (fun a b => a.1.name < b.1.name) := by
  have h1 : (m.handling k).Pairwise PairLt := m.pairs_ascending.filter _
  apply h1.imp_of_mem
  rintro ⟨a, x⟩ ⟨b, y⟩ ha hb (hlt | ⟨_, hlt⟩)
  · exact hlt
  · have h2 : x.name = y.name := (mem_handling.mp ha).2.trans (mem_handling.mp hb).2.symm
    exact absurd h2 (ne_of_lt hlt)

end MessageFlow.ObservationMap
