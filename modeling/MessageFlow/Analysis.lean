import MessageFlow.Graph.Join
import MessageFlow.Observation.Set

/-!
# Analyses

The outcome of analysing a set of observations: what is produced, what is consumed, and the graph of
the message flows between the handlers.
-/

namespace MessageFlow

structure Analysis where
  producers : ObservationMap
  consumers : ObservationMap
  graph : Graph

namespace Analysis

def ofObservations (s : ObservationSet) : Analysis :=
  ⟨s.producers, s.consumers, Graph.join s.producers s.consumers⟩

/-- produced messages without a consumer -/
def unconsumed (a : Analysis) : List (Handler × Message) :=
  MessageFlow.unconsumed a.producers a.consumers

end Analysis

end MessageFlow
