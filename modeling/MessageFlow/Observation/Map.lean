import MessageFlow.Message

/-!
# Observation maps

An `ObservationMap` tells for every observed handler which messages it was seen with.  Handlers and
messages are identified by name; observing one again fills in what its first observations leave
open.  `ObservationMap.merge` unites several maps, the earlier ones having precedence.
-/

namespace MessageFlow

/-- a handler and the messages it was seen with -/
structure Observed where
  handler : Handler
  messages : MessageSet
  deriving DecidableEq

namespace Observed

def name (o : Observed) : String := o.handler.name

/-- unites two observations of one handler -/
def absorb (o p : Observed) : Observed :=
  ⟨o.handler.absorb p.handler, o.messages.union p.messages⟩

end Observed

/-- handlers in ascending order of their names, each with its messages -/
abbrev ObservationMap := Roster Observed.name

namespace ObservationMap

/-- unites an observation with what is known of its handler -/
def add (m : ObservationMap) (o : Observed) : ObservationMap :=
  m.put Observed.absorb (fun _ _ h => h) o

/-- records that a handler was seen with some messages -/
def insert (m : ObservationMap) (h : Handler) (ms : List Message) : ObservationMap :=
  m.add ⟨h, MessageSet.ofList ms⟩

def handlers (m : ObservationMap) : List Handler := m.members.map Observed.handler

/-- unites the second map into the first -/
def union (m n : ObservationMap) : ObservationMap := n.members.foldl add m

/-- unites the maps in their order -/
def merge (ms : List ObservationMap) : ObservationMap := ms.foldl union ∅

/-- the same names, whatever the remarks -/
def sameNames (m n : ObservationMap) : Bool :=
  m.members.map (fun o => (o.name, o.messages.names))
    == n.members.map (fun o => (o.name, o.messages.names))

end ObservationMap

end MessageFlow
