import MessageFlow.Found

/-!
# Why a text is refused as JSON

A text is read from its start to its end, and the first fault that shows counts.  There are three
classes of faults: the text breaks off, it is not JSON, or it is JSON of another shape than
expected.
-/

namespace MessageFlow.Json

/-- what a text breaks off in -/
inductive Part where
  | value
  | list
  | object
  | text
  deriving DecidableEq

namespace Part

def label : Part → String
  | value => "a value"
  | list => "a list"
  | object => "an object"
  | text => "a string"

end Part

inductive FaultClass where
  /-- the text ends too early -/
  | unfinished
  /-- the text is not JSON -/
  | malformed
  /-- the value has another shape than expected -/
  | misshapen
  deriving DecidableEq

inductive Fault where
  | endsIn (part : Part)
  | expectedColon
  | expectedListEnd
  | expectedObjectEnd
  | expectedIdent
  | expectedValue
  | invalidEscape
  | invalidNumber
  | numberOutOfRange
  /-- half of a surrogate pair without the other half -/
  | loneSurrogate
  /-- the first half of a surrogate pair is followed by something else than an escape -/
  | brokenSurrogatePair
  | controlCharacter
  | keyNotText
  | trailingComma
  | trailingCharacters
  | wrongType (found : Found) (expected : String)
  | unknownVariant (name : String) (expected : List String)
  | unknownField (name : String) (expected : List String)
  | missingField (name : String)
  | duplicateField (name : String)
  | wrongLength (length : Nat) (expected : String)
  deriving DecidableEq

namespace Fault

def faultClass : Fault → FaultClass
  | endsIn _ => .unfinished
  | wrongType .. | unknownVariant .. | unknownField .. | missingField _ | duplicateField _
  | wrongLength .. => .misshapen
  | _ => .malformed

def message : Fault → String
  | endsIn part => "EOF while parsing " ++ part.label
  | expectedColon => "expected " ++ Found.ticked ":"
  | expectedListEnd => "expected " ++ Found.ticked "," ++ " or " ++ Found.ticked "]"
  | expectedObjectEnd => "expected " ++ Found.ticked "," ++ " or " ++ Found.ticked "\x7d"
  | expectedIdent => "expected ident"
  | expectedValue => "expected value"
  | invalidEscape => "invalid escape"
  | invalidNumber => "invalid number"
  | numberOutOfRange => "number out of range"
  | loneSurrogate => "lone leading surrogate in hex escape"
  | brokenSurrogatePair => "unexpected end of hex escape"
  | controlCharacter => "control character (\\u0000-\\u001F) found while parsing a string"
  | keyNotText => "key must be a string"
  | trailingComma => "trailing comma"
  | trailingCharacters => "trailing characters"
  | wrongType found expected => found.invalidType expected
  | unknownVariant name expected => Found.unknownVariant name expected
  | unknownField name expected =>
    "unknown field " ++ Found.ticked name ++ ", expected one of " ++ Found.choices expected
  | missingField name => "missing field " ++ Found.ticked name
  | duplicateField name => "duplicate field " ++ Found.ticked name
  | wrongLength length expected =>
    "invalid length " ++ toString length ++ ", expected " ++ expected

end Fault

/-- reads an item off the front of a text and returns what follows it -/
abbrev Reader (α : Type) := List Char → Except Fault (α × List Char)

/-- the white space of JSON -/
def isSpace (c : Char) : Bool := c == ' ' || c == '\n' || c == '\t' || c == '\r'

def skipSpace (cs : List Char) : List Char := cs.dropWhile isSpace

/-- what follows a given word -/
def word : List Char → List Char → Except Fault (List Char)
  | [], cs => .ok cs
  | _ :: _, [] => .error (.endsIn .value)
  | w :: ws, c :: cs => if c = w then word ws cs else .error .expectedIdent

end MessageFlow.Json
