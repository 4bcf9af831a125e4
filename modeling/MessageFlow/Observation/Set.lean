import MessageFlow.Observation.Kind
import MessageFlow.Observation.Map

/-!
# Observation sets

The observations of one analysis, kept apart by kind.  `ObservationSet.producers` merges the
producing kinds in their order, `ObservationSet.consumers` the consuming ones.
-/

namespace MessageFlow

structure ObservationSet where
  /-- what was recorded as that kind, if anything was -/
  source : Kind → Option ObservationMap

namespace ObservationSet

def empty : ObservationSet := ⟨fun _ => none⟩

instance : EmptyCollection ObservationSet := ⟨empty⟩

/-- records that a handler produces or consumes some messages -/
def record (s : ObservationSet) (kind : Kind) (h : Handler) (ms : List Message) : ObservationSet :=
  ⟨fun k => if k = kind then some (((s.source kind).getD ∅).insert h ms) else s.source k⟩

/-- what the producing handlers send -/
def producers (s : ObservationSet) : ObservationMap :=
  ObservationMap.merge (Kind.producers.filterMap s.source)

/-- what the consuming handlers handle -/
def consumers (s : ObservationSet) : ObservationMap :=
  ObservationMap.merge (Kind.consumers.filterMap s.source)

def isEmpty (s : ObservationSet) : Bool :=
  Kind.all.all fun k => ((s.source k).map Roster.isEmpty).getD true

end ObservationSet

end MessageFlow
