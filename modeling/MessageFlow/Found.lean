import MessageFlow.Text.Literal

/-!
# Values in the wrong place

Manifests and settings are read with certain kinds of values in mind.  `Found` is what stands there
instead, as far as a message tells it.
-/

namespace MessageFlow

inductive Found where
  | null
  | boolean (value : Bool)
  | integer (value : Int)
  /-- a number with a fraction, as its format spells it -/
  | floating (spelling : String)
  | text (value : String)
  | list
  | table
  deriving DecidableEq

namespace Found

/-- a text between grave accents -/
def ticked (text : String) : String := "\x60" ++ text ++ "\x60"

def label : Found → String
  | null => "null"
  | boolean value => "boolean " ++ ticked (if value then "true" else "false")
  | integer value => "integer " ++ ticked (toString value)
  | floating spelling => "floating point " ++ ticked spelling
  | text value => "string " ++ Text.literal value
  | list => "sequence"
  | table => "map"

/-- the choices of a message that lists them -/
def choices (texts : List String) : String := ", ".intercalate (texts.map ticked)

/-- the value is of another kind than expected -/
def invalidType (found : Found) (expected : String) : String :=
  "invalid type: " ++ found.label ++ ", expected " ++ expected

/-- the value is out of range -/
def invalidValue (found : Found) (expected : String) : String :=
  "invalid value: " ++ found.label ++ ", expected " ++ expected

def unknownVariant (name : String) (expected : List String) : String :=
  "unknown variant " ++ ticked name ++ ", expected one of " ++ choices expected

end Found

end MessageFlow
