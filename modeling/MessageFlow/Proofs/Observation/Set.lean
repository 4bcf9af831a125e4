import MessageFlow.Observation.Set
import MessageFlow.Proofs.Observation.Map
import MessageFlow.Proofs.Precedence

/-!
# Sets of observations as lists

A set of observations keeps one map for each kind and merges the maps of a side in the order of the
kinds.  What comes out is the one map to which all observations of the side are added, kind by kind.

* `union_add`, `merge_map_ofList`   merging the maps of several lists;
* `producers_ofSightings`, `consumers_ofSightings`   each side of a set as one list;
* `handler_ofList`, `message?_ofList`   what is known if all observations of a handler or a message
  show the same remarks;
* `ext_message?`   a map is what it knows of handlers and of their messages.
-/

namespace MessageFlow

namespace MessageSet

theorem find?_union (s t : MessageSet) (k : String) :
    (s.union t).find? k = (s.find? k).merge Message.absorb (t.find? k) :=
  Roster.find?_foldl_put _ s t k

theorem union_assoc (s t u : MessageSet) : (s.union t).union u = s.union (t.union u) := by
  apply Roster.ext_find?
  intro k
  rw [find?_union, find?_union, find?_union, find?_union]
  exact Std.Associative.assoc _ _ _

end MessageSet

namespace Observed

theorem absorb_assoc (o p q : Observed) : (o.absorb p).absorb q = o.absorb (p.absorb q) := by
  rw [absorb, absorb, absorb, absorb, Handler.absorb_assoc, MessageSet.union_assoc]

instance : Std.Associative Observed.absorb := ⟨absorb_assoc⟩

/-- the handler and the messages show the remarks that `H` and `M` tell by their names -/
structure Shows (H : String → Handler) (M : String → Message) (o : Observed) : Prop where
  handler : o.handler = H o.name
  messages : ∀ x ∈ o.messages.members, x = M x.name

end Observed

namespace ObservationMap

/-- the map of some observations -/
def ofList (os : List Observed) : ObservationMap := os.foldl add ∅

/-! ### merging the maps of lists -/

theorem union_add (m n : ObservationMap) (o : Observed) : m.union (n.add o) = (m.union n).add o := by
  apply Roster.ext_find?
  intro h
  rw [find?_union, find?_add, find?_add, find?_union]
  exact (Std.Associative.assoc _ _ _).symm

theorem union_ofList (m : ObservationMap) (os : List Observed) :
    m.union (ofList os) = os.foldl add m := by
  have h1 : ∀ n, m.union (os.foldl add n) = os.foldl add (m.union n) := by
    induction os with
    | nil => intro n; rfl
    | cons o os ih => intro n; rw [List.foldl_cons, ih, union_add, List.foldl_cons]
  exact h1 ∅

theorem merge_map_ofList (ls : List (List Observed)) :
    merge (ls.map ofList) = ofList ls.flatten := by
  have h1 : ∀ m, (ls.map ofList).foldl union m = ls.flatten.foldl add m := by
    induction ls with
    | nil => intro m; rfl
    | cons l ls ih =>
      intro m
      rw [List.map_cons, List.foldl_cons, union_ofList, ih, List.flatten_cons, List.foldl_append]
  exact h1 ∅

/-- a map that is not there counts as an empty one -/
theorem merge_filterMap {ι : Type} (f : ι → Option ObservationMap) (ks : List ι) :
    merge (ks.filterMap f) = merge (ks.map fun k => (f k).getD ∅) := by
  have h1 : ∀ m, (ks.filterMap f).foldl union m = (ks.map fun k => (f k).getD ∅).foldl union m := by
    induction ks with
    | nil => intro m; rfl
    | cons k ks ih =>
      intro m
      cases hk : f k with
      | none =>
        rw [List.filterMap_cons_none hk, List.map_cons, List.foldl_cons, hk, ih]
        rfl
      | some n =>
        rw [List.filterMap_cons_some hk, List.map_cons, List.foldl_cons, List.foldl_cons, hk, ih]
        rfl
  exact h1 ∅

/-! ### what the map of a list knows -/

theorem message_merge (o p : Option Observed) (k : String) :
    (o.merge Observed.absorb p).bind (·.messages.find? k) =
      (o.bind (·.messages.find? k)).merge Message.absorb (p.bind (·.messages.find? k)) := by
  cases o <;> cases p <;> simp [Observed.absorb, MessageSet.find?_union]

/-- whatever a map tells of a handler is combined from what the observations tell, provided that
uniting two observations combines what they tell -/
theorem find?_ofList_hom {β : Type} {join : β → β → β} {φ : Option Observed → Option β}
    (h0 : φ none = none)
    (hφ : ∀ o p, φ (o.merge Observed.absorb p) = (φ o).merge join (φ p)) (os : List Observed)
    (h : String) :
    φ ((ofList os).find? h) =
      (os.map fun o => φ (if o.name = h then some o else none)).foldl (Option.merge join) none := by
  have h1 : (ofList os).find? h =
      (os.map fun o => if o.name = h then some o else none).foldl (Option.merge Observed.absorb) none :=
    Roster.find?_foldl_put_each _ _ os h
  rw [h1, ← h0, List.foldl_map, List.foldl_map]
  exact (List.foldl_hom φ fun o x => (hφ o _).symm).symm

section
variable {H : String → Handler} {M : String → Message} {os : List Observed}
  (hos : ∀ o ∈ os, o.Shows H M) {h k : String}
include hos

/-- if the observations tell of a handler either nothing or `c`, the map tells the same -/
theorem find?_ofList_same {β : Type} {join : β → β → β} {φ : Option Observed → Option β} {c : β}
    (h0 : φ none = none)
    (hφ : ∀ o p, φ (o.merge Observed.absorb p) = (φ o).merge join (φ p)) (hc : join c c = c)
    (hs : ∀ o : Observed, o.Shows H M → o.name = h → φ (some o) = none ∨ φ (some o) = some c)
    {x : β} :
    φ ((ofList os).find? h) = some x ↔ x = c ∧ ∃ o ∈ os, o.name = h ∧ φ (some o) = some c := by
  have h1 : ∀ y ∈ os.map (fun o => φ (if o.name = h then some o else none)),
      y = none ∨ y = some c := by
    intro y hy
    obtain ⟨o, ho, rfl⟩ := List.mem_map.mp hy
    by_cases hn : o.name = h
    · rw [if_pos hn]
      exact hs o (hos o ho) hn
    · rw [if_neg hn]
      exact .inl h0
  rw [find?_ofList_hom h0 hφ, Roster.foldl_merge_eq_some_iff hc h1, List.mem_map]
  refine and_congr_right fun _ => exists_congr fun o => and_congr_right fun _ => ?_
  by_cases hn : o.name = h
  · rw [if_pos hn]
    exact ⟨fun ho => ⟨hn, ho⟩, fun ho => ho.2⟩
  · rw [if_neg hn, h0]
    exact ⟨fun ho => absurd ho nofun, fun ho => absurd ho.1 hn⟩

theorem handler_ofList {v : Handler} :
    ((ofList os).find? h).map Observed.handler = some v ↔ v = H h ∧ ∃ o ∈ os, o.name = h := by
  have h1 : ∀ o : Observed, o.Shows H M → o.name = h → o.handler = H h := by
    rintro o ho rfl
    exact ho.handler
  rw [find?_ofList_same hos (φ := Option.map Observed.handler) rfl handler_merge
    (Handler.absorb_self _) fun o ho hn => .inr (congrArg some (h1 o ho hn))]
  refine and_congr_right fun _ => exists_congr fun o => and_congr_right fun ho => ?_
  exact ⟨fun hn => hn.1, fun hn => ⟨hn, congrArg some (h1 o (hos o ho) hn)⟩⟩

theorem message?_ofList {x : Message} :
    (ofList os).message? h k = some x ↔ x = M k ∧ ∃ o ∈ os, o.name = h ∧ k ∈ o.messages.names := by
  have h1 : ∀ o : Observed, o.Shows H M → ∀ y, o.messages.find? k = some y → y = M k := by
    intro o ho y hy
    obtain ⟨hm, hn⟩ := Roster.find?_eq_some_iff.mp hy
    rw [← hn]
    exact ho.messages y hm
  have h2 : ∀ o : Observed, o.Shows H M →
      (o.messages.find? k = some (M k) ↔ k ∈ o.messages.names) := by
    intro o ho
    rw [← Roster.contains_iff, Roster.contains, Option.isSome_iff_exists]
    constructor
    · exact fun hy => ⟨_, hy⟩
    · rintro ⟨y, hy⟩
      rw [hy, h1 o ho y hy]
  rw [message?, find?_ofList_same hos (φ := fun o => o.bind (·.messages.find? k)) (c := M k) rfl
    (fun o p => message_merge o p k) (Message.absorb_self _)]
  · refine and_congr_right fun _ => exists_congr fun o => and_congr_right fun ho => ?_
    exact and_congr_right fun _ => h2 o (hos o ho)
  · intro o ho _
    show o.messages.find? k = none ∨ o.messages.find? k = some (M k)
    cases hy : o.messages.find? k with
    | none => exact .inl rfl
    | some y => exact .inr (by rw [h1 o ho y hy])

end

/-- a map is what it knows of the handlers and of their messages -/
theorem ext_message? {m n : ObservationMap}
    (hh : ∀ h, (m.find? h).map Observed.handler = (n.find? h).map Observed.handler)
    (hm : ∀ h k, m.message? h k = n.message? h k) : m = n := by
  apply Roster.ext_find?
  intro h
  have h1 := hh h
  have h2 := hm h
  unfold message? at h2
  cases ho : m.find? h with
  | none =>
    rw [ho, Option.map_none, eq_comm, Option.map_eq_none_iff] at h1
    rw [h1]
  | some o =>
    rw [ho, Option.map_some, eq_comm, Option.map_eq_some_iff] at h1
    obtain ⟨p, hp, he⟩ := h1
    rw [hp]
    rw [ho, hp] at h2
    have h3 : o.messages = p.messages := Roster.ext_find? h2
    rw [show o = ⟨o.handler, o.messages⟩ from rfl, ← he, h3]

end ObservationMap

/-! ### sets -/

/-- a handler is seen with some messages -/
structure Sighting where
  kind : Kind
  handler : Handler
  messages : List Message

def Sighting.observed (x : Sighting) : Observed := ⟨x.handler, MessageSet.ofList x.messages⟩

namespace ObservationSet

/-- the set in which these sightings are recorded in turn -/
def ofSightings (xs : List Sighting) : ObservationSet :=
  xs.foldl (fun s x => s.record x.kind x.handler x.messages) ∅

theorem source_record (s : ObservationSet) (x : Sighting) (k : Kind) :
    ((s.record x.kind x.handler x.messages).source k).getD ∅ =
      if x.kind = k then ((s.source k).getD ∅).add x.observed else (s.source k).getD ∅ := by
  by_cases hk : x.kind = k
  · subst hk
    rw [if_pos rfl]
    simp only [record, if_pos, Option.getD_some]
    rfl
  · have h1 : (s.record x.kind x.handler x.messages).source k = s.source k :=
      if_neg (Ne.symm hk)
    rw [if_neg hk, h1]

/-- what is known of a kind comes from the sightings of that kind -/
theorem source_ofSightings (xs : List Sighting) (k : Kind) :
    ((ofSightings xs).source k).getD ∅ =
      ObservationMap.ofList ((xs.filter (·.kind = k)).map Sighting.observed) := by
  have h1 : ∀ s : ObservationSet,
      ((xs.foldl (fun s x => s.record x.kind x.handler x.messages) s).source k).getD ∅ =
        ((xs.filter (·.kind = k)).map Sighting.observed).foldl ObservationMap.add
          ((s.source k).getD ∅) := by
    induction xs with
    | nil => intro s; rfl
    | cons x xs ih =>
      intro s
      rw [List.foldl_cons, ih, source_record]
      by_cases hk : x.kind = k
      · rw [if_pos hk, List.filter_cons_of_pos (by simpa using hk), List.map_cons, List.foldl_cons]
      · rw [if_neg hk, List.filter_cons_of_neg (by simpa using hk)]
  exact h1 ∅

/-- the observations of some kinds, kind by kind -/
def observedAs (ks : List Kind) (xs : List Sighting) : List Observed :=
  ks.flatMap fun k => (xs.filter (·.kind = k)).map Sighting.observed

theorem mem_observedAs {ks : List Kind} {xs : List Sighting} {o : Observed} :
    o ∈ observedAs ks xs ↔ ∃ x ∈ xs, x.kind ∈ ks ∧ x.observed = o := by
  simp only [observedAs, List.mem_flatMap, List.mem_map, List.mem_filter, decide_eq_true_eq]
  constructor
  · rintro ⟨k, hk, x, ⟨hx, rfl⟩, rfl⟩
    exact ⟨x, hx, hk, rfl⟩
  · rintro ⟨x, hx, hk, rfl⟩
    exact ⟨x.kind, hk, x, ⟨hx, rfl⟩, rfl⟩

/-- merging the kinds of a side is adding their sightings to one map -/
theorem merge_sources (ks : List Kind) (xs : List Sighting) :
    ObservationMap.merge (ks.filterMap (ofSightings xs).source) =
      ObservationMap.ofList (observedAs ks xs) := by
  have h1 : (ks.map fun k => ((ofSightings xs).source k).getD ∅) =
      (ks.map fun k => (xs.filter (·.kind = k)).map Sighting.observed).map ObservationMap.ofList := by
    rw [List.map_map]
    exact List.map_congr_left fun k _ => source_ofSightings xs k
  rw [ObservationMap.merge_filterMap, h1, ObservationMap.merge_map_ofList]
  rfl

theorem producers_ofSightings (xs : List Sighting) :
    (ofSightings xs).producers = ObservationMap.ofList (observedAs Kind.producers xs) :=
  merge_sources _ _

theorem consumers_ofSightings (xs : List Sighting) :
    (ofSightings xs).consumers = ObservationMap.ofList (observedAs Kind.consumers xs) :=
  merge_sources _ _

end ObservationSet

end MessageFlow
