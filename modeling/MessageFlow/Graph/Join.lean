import MessageFlow.Graph.Basic
import MessageFlow.Observation.Map

/-!
# The graph of two observation maps

`Graph.join` is the relational join of what is produced with what is consumed: a flow leads from
each producer of a message to each of its consumers.  Every observed handler is a vertex, with or
without flows.  `unconsumed` lists what is produced and has no consumer.
-/

namespace MessageFlow

/-- a producer together with a message that it sends -/
def ObservationMap.pairs (m : ObservationMap) : List (Handler × Message) :=
  m.members.flatMap fun o => o.messages.members.map fun x => (o.handler, x)

/-- the handlers that were seen with a message, and the message as they know it -/
def ObservationMap.handling (m : ObservationMap) (message : String) : List (Handler × Message) :=
  m.pairs.filter (·.2.name = message)

namespace Graph

/-- the flows by producer, message and consumer; the producer's comment on a message has precedence -/
def joinFlows (producers consumers : ObservationMap) : List (String × String × Message) :=
  producers.pairs.flatMap fun (p, m) =>
    (consumers.handling m.name).map fun (c, n) => (p.name, c.name, m.absorb n)

/-- adds an edge between two vertices given by their names -/
def connect (g : Graph) (f : String × String × Message) : Graph :=
  match g.position? f.1, g.position? f.2.1 with
  | some source, some target => (g.addEdge source target f.2.2).1
  | _, _ => g

/-- all observed handlers in ascending order, and a flow from each producer of a message to each of
its consumers -/
def join (producers consumers : ObservationMap) : Graph :=
  (joinFlows producers consumers).foldl connect
    ⟨(ObservationMap.merge [producers, consumers]).handlers, []⟩

end Graph

/-- what is produced although nobody consumes it, by producer and message -/
def unconsumed (producers consumers : ObservationMap) : List (Handler × Message) :=
  producers.pairs.filter fun (_, m) => (consumers.handling m.name).isEmpty

end MessageFlow
