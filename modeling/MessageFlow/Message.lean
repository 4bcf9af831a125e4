import MessageFlow.Handler
import MessageFlow.Roster

/-!
# Messages

A message type that handlers exchange, identified by its qualified name.  A `MessageSet` holds every
name once; of several observations of a message the first comment counts.
-/

namespace MessageFlow

structure Message where
  name : String
  comment : Option String
  deriving DecidableEq

namespace Message

/-- the message of that name, without a comment -/
def ofName (name : String) : Message := ⟨name, none⟩

def withComment (m : Message) (text : String) : Message := { m with comment := remark text }

/-- the last segment of the name, which labels the flows of the message -/
def short (m : Message) : String := Name.short m.name

/-- keeps the comment that is present, and takes a missing one from `n` -/
def absorb (m n : Message) : Message := { m with comment := m.comment.or n.comment }

/-- `n` has the comment that `m` lacks -/
def gains (m n : Message) : Bool := m.absorb n ≠ m

theorem name_absorb (m n : Message) : (m.absorb n).name = m.name := rfl

theorem absorb_self (m : Message) : m.absorb m = m := by
  cases m; simp [absorb]

theorem absorb_assoc (m n o : Message) : (m.absorb n).absorb o = m.absorb (n.absorb o) := by
  simp [absorb, Option.or_assoc]

end Message

/-- messages in ascending order of their names, every name once -/
abbrev MessageSet := Roster Message.name

namespace MessageSet

/-- adds a message; one that is there keeps its comment and takes a missing one -/
def insert (s : MessageSet) (m : Message) : MessageSet :=
  s.put Message.absorb (fun _ _ h => h) m

def ofList (ms : List Message) : MessageSet := ms.foldl insert ∅

def union (s t : MessageSet) : MessageSet := t.members.foldl insert s

end MessageSet

end MessageFlow
