import MessageFlow.Observation.Set

/-!
# Manifests

A `Manifest` holds what one file tells: remarks on handlers, remarks on messages, and records of who
was seen with which messages.  `Manifest.absorb` appends the records of a later manifest and takes
from its tables what the first one leaves open, so that several manifests share their remarks.
`Manifest.observations` attaches the remarks to the handlers and messages of the records.
-/

namespace MessageFlow

/-- what a manifest tells of a handler -/
structure HandlerEntry where
  name : String
  comment : Option String
  entryPoint : Option String
  deriving DecidableEq

/-- what a manifest tells of a message -/
structure MessageEntry where
  name : String
  comment : Option String
  deriving DecidableEq

/-- a handler was seen with some messages -/
structure Record where
  kind : Kind
  handler : String
  messages : List String
  deriving DecidableEq

/-- the second remark if it is not blank and the first one is, else the first one as it stands -/
def firstRemark (a b : Option String) : Option String :=
  if a.bind remark = none ∧ b.bind remark ≠ none then b else a

namespace HandlerEntry

/-- fills in what `e` leaves open from `f` -/
def fill (e f : HandlerEntry) : HandlerEntry :=
  { e with
    comment := firstRemark e.comment f.comment
    entryPoint := firstRemark e.entryPoint f.entryPoint }

/-- the entry without blank remarks -/
def tidy (e : HandlerEntry) : HandlerEntry :=
  ⟨e.name, e.comment.bind remark, e.entryPoint.bind remark⟩

end HandlerEntry

namespace MessageEntry

/-- fills in what `e` leaves open from `f` -/
def fill (e f : MessageEntry) : MessageEntry :=
  { e with comment := firstRemark e.comment f.comment }

/-- the entry without blank remarks -/
def tidy (e : MessageEntry) : MessageEntry := ⟨e.name, e.comment.bind remark⟩

end MessageEntry

abbrev HandlerTable := Roster HandlerEntry.name

abbrev MessageTable := Roster MessageEntry.name

/-- sets the entry of a handler; of several the last one holds -/
def HandlerTable.set (t : HandlerTable) (e : HandlerEntry) : HandlerTable :=
  t.put (fun _ f => f) (fun _ _ _ => rfl) e

/-- sets the entry of a message; of several the last one holds -/
def MessageTable.set (t : MessageTable) (e : MessageEntry) : MessageTable :=
  t.put (fun _ f => f) (fun _ _ _ => rfl) e

/-- fills in what the first table leaves open -/
def HandlerTable.fill (t u : HandlerTable) : HandlerTable :=
  u.members.foldl (fun t e => t.put HandlerEntry.fill (fun _ _ h => h) e.tidy) t

/-- fills in what the first table leaves open -/
def MessageTable.fill (t u : MessageTable) : MessageTable :=
  u.members.foldl (fun t e => t.put MessageEntry.fill (fun _ _ h => h) e.tidy) t

structure Manifest where
  handlers : HandlerTable
  messages : MessageTable
  records : List Record
  deriving DecidableEq

namespace Manifest

def empty : Manifest := ⟨∅, ∅, []⟩

instance : EmptyCollection Manifest := ⟨empty⟩

/-- adds a later manifest: its records, and the remarks that are still missing -/
def absorb (m n : Manifest) : Manifest :=
  ⟨m.handlers.fill n.handlers, m.messages.fill n.messages, m.records ++ n.records⟩

/-- several manifests as one, the earlier ones having precedence -/
def combine (ms : List Manifest) : Manifest := ms.foldl absorb ∅

/-- the handler of that name with its remarks -/
def handler (m : Manifest) (depth : Nat) (name : String) : Handler :=
  match m.handlers.find? name with
  | none => Handler.ofName depth name
  | some e =>
    { Handler.ofName depth name with
      comment := e.comment.bind remark
      entryPoint := e.entryPoint.bind remark }

/-- the message of that name with its remark -/
def message (m : Manifest) (name : String) : Message :=
  match m.messages.find? name with
  | none => Message.ofName name
  | some e => ⟨name, e.comment.bind remark⟩

/-- the observations of the records, with module keys of `depth` segments -/
def observations (m : Manifest) (depth : Nat) : ObservationSet :=
  m.records.foldl
    (fun s r => s.record r.kind (m.handler depth r.handler) (r.messages.map m.message)) ∅

end Manifest

end MessageFlow
