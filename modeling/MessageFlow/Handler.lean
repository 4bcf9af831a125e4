import MessageFlow.Name
import MessageFlow.Text.Blank

/-!
# Handlers

A handler produces messages, consumes messages, or both.  Its qualified name is its identity; the
module key, the comment and the entry point go along with it.  Two observations of one handler are
reconciled by `Handler.absorb`: what the first one leaves open is taken from the second.
-/

namespace MessageFlow

/-- a remark as it is attached to a handler or message: blank text is no remark -/
def remark (text : String) : Option String := if Text.blank text then none else some text

structure Handler where
  name : String
  moduleKey : String
  comment : Option String
  /-- what business process starts here, if one does -/
  entryPoint : Option String
  deriving DecidableEq

namespace Handler

/-- the bare handler of that name, with a module key of `depth` segments -/
def ofName (depth : Nat) (name : String) : Handler :=
  ⟨name, Name.moduleKey depth name, none, none⟩

def withComment (h : Handler) (text : String) : Handler := { h with comment := remark text }

def withEntryPoint (h : Handler) (text : String) : Handler := { h with entryPoint := remark text }

def isEntryPoint (h : Handler) : Bool := h.entryPoint.isSome

/-- the part of the name before the last dot -/
def namespaceOf (h : Handler) : String := Name.namespaceOf h.name

/-- the last segment of the name -/
def className (h : Handler) : String := Name.short h.name

/-- keeps the comment and the entry point that are present, and takes the missing ones from `k` -/
def absorb (h k : Handler) : Handler :=
  { h with comment := h.comment.or k.comment, entryPoint := h.entryPoint.or k.entryPoint }

/-- `k` knows something that `h` lacks -/
def gains (h k : Handler) : Bool := h.absorb k ≠ h

theorem name_absorb (h k : Handler) : (h.absorb k).name = h.name := rfl
theorem moduleKey_absorb (h k : Handler) : (h.absorb k).moduleKey = h.moduleKey := rfl

theorem absorb_self (h : Handler) : h.absorb h = h := by
  cases h; simp [absorb]

theorem absorb_assoc (h k l : Handler) : (h.absorb k).absorb l = h.absorb (k.absorb l) := by
  simp [absorb, Option.or_assoc]

end Handler

end MessageFlow
