import MessageFlow.Analysis.Source
import MessageFlow.Diagram.Dot
import MessageFlow.Proofs.Manifest.Tables
import MessageFlow.Proofs.Observation.Set
import MessageFlow.Snapshot.Envelope

/-!
# What the records of a manifest tell

Every kind of observation belongs to one of two sides.  Of its records, an analysis keeps which
handler was seen on which side (`Record.sides`) and with which message (`Record.exchanges`).

* `observations_eq`   the records as sightings, all of one handler or message with the same remarks;
* `handler_onSide`, `message?_onSide`   what is known on a side;
* `ofManifest_eq_of_facts`   manifests that tell the same have the same analysis;
* `analysis_of_rearranged`   it does not matter how the records are arranged.
-/

namespace MessageFlow

inductive Side where
  | producing
  | consuming
  deriving DecidableEq

/-- the kinds of that side, in merge order -/
def Side.kinds : Side → List Kind
  | producing => Kind.producers
  | consuming => Kind.consumers

def Kind.side (k : Kind) : Side := if k ∈ Kind.producers then .producing else .consuming

theorem Side.mem_kinds {s : Side} {k : Kind} : k ∈ s.kinds ↔ k.side = s := by
  cases s <;> cases k <;> decide

/-- what is known on a side -/
def ObservationSet.onSide (s : ObservationSet) : Side → ObservationMap
  | .producing => s.producers
  | .consuming => s.consumers

namespace Record

/-- who was seen on which side -/
def sides (rs : List Record) : List (Side × String) := rs.map fun r => (r.kind.side, r.handler)

/-- who was seen on which side with which message -/
def exchanges (rs : List Record) : List (Side × String × String) :=
  rs.flatMap fun r => r.messages.map fun k => (r.kind.side, r.handler, k)

theorem mem_sides {rs : List Record} {s : Side} {h : String} :
    (s, h) ∈ sides rs ↔ ∃ r ∈ rs, r.kind.side = s ∧ r.handler = h := by
  simp only [sides, List.mem_map, Prod.mk.injEq]

theorem mem_exchanges {rs : List Record} {s : Side} {h k : String} :
    (s, h, k) ∈ exchanges rs ↔ ∃ r ∈ rs, r.kind.side = s ∧ r.handler = h ∧ k ∈ r.messages := by
  simp only [exchanges, List.mem_flatMap, List.mem_map, Prod.mk.injEq]
  constructor
  · rintro ⟨r, hr, k, hk, h1, h2, rfl⟩
    exact ⟨r, hr, h1, h2, hk⟩
  · rintro ⟨r, hr, h1, h2, hk⟩
    exact ⟨r, hr, k, hk, h1, h2, rfl⟩

end Record

namespace Manifest

variable (m : Manifest) (depth : Nat)

/-- a record as it is recorded, with the remarks of the tables -/
def sighting (r : Record) : Sighting :=
  ⟨r.kind, m.handler depth r.handler, r.messages.map m.message⟩

theorem observations_eq :
    m.observations depth = ObservationSet.ofSightings (m.records.map (m.sighting depth)) := by
  rw [ObservationSet.ofSightings, List.foldl_map]
  rfl

theorem name_handler (h : String) : (m.handler depth h).name = h := by
  rw [handler_eq]

theorem name_message (k : String) : (m.message k).name = k := by
  rw [message_eq]

theorem find?_ofList_message (ks : List String) (k : String) (x : Message) :
    (MessageSet.ofList (ks.map m.message)).find? k = some x ↔ x = m.message k ∧ k ∈ ks := by
  have h1 : ∀ x ∈ ks.map m.message, x.name = k → x = m.message k := by
    intro x hx hn
    obtain ⟨y, _, rfl⟩ := List.mem_map.mp hx
    rw [← hn, name_message]
  have h2 : (∃ y ∈ ks.map m.message, y.name = k) ↔ k ∈ ks := by
    simp only [List.mem_map, exists_exists_and_eq_and, name_message, exists_eq_right]
  rw [← h2]
  exact Roster.find?_foldl_put_same _ (Message.absorb_self _) h1

theorem shows_sighting (r : Record) :
    (m.sighting depth r).observed.Shows (m.handler depth) m.message where
  handler := by
    show m.handler depth r.handler = m.handler depth (m.handler depth r.handler).name
    rw [name_handler]
  messages := by
    intro x hx
    have h1 := Roster.find?_eq_some_iff.mpr ⟨hx, rfl⟩
    exact ((m.find?_ofList_message r.messages x.name x).mp h1).1

theorem mem_names_sighting (r : Record) (k : String) :
    k ∈ (m.sighting depth r).observed.messages.names ↔ k ∈ r.messages := by
  rw [← Roster.contains_iff, Roster.contains, Option.isSome_iff_exists]
  constructor
  · rintro ⟨x, hx⟩
    exact ((m.find?_ofList_message r.messages k x).mp hx).2
  · exact fun hk => ⟨_, (m.find?_ofList_message r.messages k _).mpr ⟨rfl, hk⟩⟩

/-! ### what is known on a side -/

/-- the records of a side as observations -/
def observedOn (s : Side) : List Observed :=
  ObservationSet.observedAs s.kinds (m.records.map (m.sighting depth))

theorem onSide_observations (s : Side) :
    (m.observations depth).onSide s = ObservationMap.ofList (m.observedOn depth s) := by
  rw [observations_eq]
  cases s with
  | producing => exact ObservationSet.producers_ofSightings _
  | consuming => exact ObservationSet.consumers_ofSightings _

theorem mem_observedOn {s : Side} {o : Observed} :
    o ∈ m.observedOn depth s ↔
      ∃ r ∈ m.records, r.kind.side = s ∧ (m.sighting depth r).observed = o := by
  simp only [observedOn, ObservationSet.mem_observedAs, List.mem_map, exists_exists_and_eq_and]
  exact exists_congr fun r => and_congr_right fun _ => and_congr_left fun _ => Side.mem_kinds

theorem shows_observedOn (s : Side) :
    ∀ o ∈ m.observedOn depth s, o.Shows (m.handler depth) m.message := by
  intro o ho
  obtain ⟨r, _, _, rfl⟩ := (m.mem_observedOn depth).mp ho
  exact m.shows_sighting depth r

/-- the handlers of a side are those of its records -/
theorem handler_onSide {s : Side} {h : String} {v : Handler} :
    (((m.observations depth).onSide s).find? h).map Observed.handler = some v ↔
      v = m.handler depth h ∧ (s, h) ∈ Record.sides m.records := by
  rw [onSide_observations, ObservationMap.handler_ofList (m.shows_observedOn depth s),
    Record.mem_sides]
  refine and_congr_right fun _ => ?_
  constructor
  · rintro ⟨o, ho, hn⟩
    obtain ⟨r, hr, hs, rfl⟩ := (m.mem_observedOn depth).mp ho
    exact ⟨r, hr, hs, (m.name_handler depth r.handler).symm.trans hn⟩
  · rintro ⟨r, hr, hs, rfl⟩
    exact ⟨_, (m.mem_observedOn depth).mpr ⟨r, hr, hs, rfl⟩, m.name_handler depth r.handler⟩

/-- the messages of a handler on a side are those of its records -/
theorem message?_onSide {s : Side} {h k : String} {x : Message} :
    ((m.observations depth).onSide s).message? h k = some x ↔
      x = m.message k ∧ (s, h, k) ∈ Record.exchanges m.records := by
  rw [onSide_observations, ObservationMap.message?_ofList (m.shows_observedOn depth s),
    Record.mem_exchanges]
  refine and_congr_right fun _ => ?_
  constructor
  · rintro ⟨o, ho, hn, hk⟩
    obtain ⟨r, hr, hs, rfl⟩ := (m.mem_observedOn depth).mp ho
    exact ⟨r, hr, hs, (m.name_handler depth r.handler).symm.trans hn,
      (m.mem_names_sighting depth r k).mp hk⟩
  · rintro ⟨r, hr, hs, rfl, hk⟩
    exact ⟨_, (m.mem_observedOn depth).mpr ⟨r, hr, hs, rfl⟩, m.name_handler depth r.handler,
      (m.mem_names_sighting depth r k).mpr hk⟩

end Manifest

/-! ### manifests that tell the same -/

namespace Analysis

variable {m n : Manifest} {depth : Nat}

theorem onSide_eq_of_facts (hh : ∀ h, m.handler depth h = n.handler depth h)
    (hk : ∀ k, m.message k = n.message k)
    (hs : ∀ p, p ∈ Record.sides m.records ↔ p ∈ Record.sides n.records)
    (hx : ∀ t, t ∈ Record.exchanges m.records ↔ t ∈ Record.exchanges n.records) (s : Side) :
    (m.observations depth).onSide s = (n.observations depth).onSide s := by
  apply ObservationMap.ext_message?
  · intro h
    apply Option.ext
    intro v
    rw [Manifest.handler_onSide, Manifest.handler_onSide, hh, hs]
  · intro h k
    apply Option.ext
    intro x
    rw [Manifest.message?_onSide, Manifest.message?_onSide, hk, hx]

/-- manifests that tell the same of handlers and messages, and who was seen with what, have the same
analysis -/
theorem ofManifest_eq_of_facts (hh : ∀ h, m.handler depth h = n.handler depth h)
    (hk : ∀ k, m.message k = n.message k)
    (hs : ∀ p, p ∈ Record.sides m.records ↔ p ∈ Record.sides n.records)
    (hx : ∀ t, t ∈ Record.exchanges m.records ↔ t ∈ Record.exchanges n.records) :
    ofManifest depth m = ofManifest depth n := by
  have h1 : (m.observations depth).producers = (n.observations depth).producers :=
    onSide_eq_of_facts hh hk hs hx .producing
  have h2 : (m.observations depth).consumers = (n.observations depth).consumers :=
    onSide_eq_of_facts hh hk hs hx .consuming
  rw [ofManifest, ofManifest, ofObservations, ofObservations, h1, h2]

/-- **It does not matter how the records are arranged.**  Two lists of records under the same tables
that tell the same of who was seen on which side, and with which messages, have the same analysis:
permuting records, repeating them, spreading the messages of one over several, and changing a kind
within its side all leave every map, the graph, what is unconsumed, the stored bytes and the drawing
as they are. -/
theorem analysis_of_rearranged (handlers : HandlerTable) (messages : MessageTable)
    {rs ts : List Record} (hs : ∀ p, p ∈ Record.sides rs ↔ p ∈ Record.sides ts)
    (hx : ∀ t, t ∈ Record.exchanges rs ↔ t ∈ Record.exchanges ts) (depth : Nat) :
    let a := ofManifest depth ⟨handlers, messages, rs⟩
    let b := ofManifest depth ⟨handlers, messages, ts⟩
    a.producers = b.producers ∧ a.consumers = b.consumers ∧ a.unconsumed = b.unconsumed
      ∧ a.graph = b.graph ∧ Snapshot.encode a.graph = Snapshot.encode b.graph
      ∧ ∀ settings highlight, a.graph.dot settings highlight = b.graph.dot settings highlight := by
  have h1 : ofManifest depth ⟨handlers, messages, rs⟩ = ofManifest depth ⟨handlers, messages, ts⟩ :=
    ofManifest_eq_of_facts (fun _ => rfl) (fun _ => rfl) hs hx
  simp only [h1, implies_true, and_self]

/-- three records -/
def gathered : List Record :=
  [⟨.publisher, "shop.a", ["m", "n"]⟩, ⟨.consumer, "shop.b", ["m"]⟩, ⟨.sender, "shop.b", []⟩]

/-- the same in another order, in parts, with repetitions and with other kinds -/
def scattered : List Record :=
  [⟨.responder, "shop.b", []⟩, ⟨.responseReceiver, "shop.b", ["m", "m"]⟩, ⟨.sender, "shop.a", ["n"]⟩,
    ⟨.publisher, "shop.a", []⟩, ⟨.responseSender, "shop.a", ["m"]⟩, ⟨.consumer, "shop.b", []⟩]

theorem analysis_of_scattered :
    let handlers : HandlerTable := HandlerTable.set ∅ ⟨"shop.a", some "first", some " "⟩
    let messages : MessageTable := MessageTable.set ∅ ⟨"n", some "never handled"⟩
    let a := ofManifest 1 ⟨handlers, messages, gathered⟩
    let b := ofManifest 1 ⟨handlers, messages, scattered⟩
    (∀ p, p ∈ Record.sides gathered ↔ p ∈ Record.sides scattered)
    ∧ (∀ t, t ∈ Record.exchanges gathered ↔ t ∈ Record.exchanges scattered)
    ∧ a.producers = b.producers ∧ a.consumers = b.consumers ∧ a.unconsumed = b.unconsumed
    ∧ a.graph = b.graph ∧ Snapshot.encode a.graph = Snapshot.encode b.graph
    ∧ ∀ settings highlight, a.graph.dot settings highlight = b.graph.dot settings highlight := by
  intro handlers messages a b
  have h1 : Record.sides gathered ⊆ Record.sides scattered
      ∧ Record.sides scattered ⊆ Record.sides gathered := by decide
  have h2 : Record.exchanges gathered ⊆ Record.exchanges scattered
      ∧ Record.exchanges scattered ⊆ Record.exchanges gathered := by decide
  have hs : ∀ p, p ∈ Record.sides gathered ↔ p ∈ Record.sides scattered :=
    fun _ => ⟨fun h => h1.1 h, fun h => h1.2 h⟩
  have hx : ∀ t, t ∈ Record.exchanges gathered ↔ t ∈ Record.exchanges scattered :=
    fun _ => ⟨fun h => h2.1 h, fun h => h2.2 h⟩
  exact ⟨hs, hx, analysis_of_rearranged handlers messages hs hx 1⟩

end Analysis

end MessageFlow
