import MessageFlow.Json.Number
import MessageFlow.Json.Text

/-!
# Values that are passed over

Members without a meaning may hold any value, nested to any depth.  `skipValue` finds the end of
such a value; it keeps the lists and objects that are open on a stack.
-/

namespace MessageFlow.Json

/-- a list or an object that is open -/
inductive Frame where
  | list
  | object
  deriving DecidableEq

namespace Frame

def close : Frame → Char
  | list => ']'
  | object => '\x7d'

def part : Frame → Part
  | list => .list
  | object => .object

/-- neither a comma nor the closing bracket follows a value -/
def unclosed : Frame → Fault
  | list => .expectedListEnd
  | object => .expectedObjectEnd

end Frame

/-- the colon behind the key of a member -/
def colon (cs : List Char) : Except Fault (List Char) :=
  match skipSpace cs with
  | [] => .error (.endsIn .object)
  | c :: rest => if c = ':' then .ok rest else .error .expectedColon

/-- the key of a member of an object with its colon; an item of a list has none -/
def skipKey (frame : Frame) (cs : List Char) : Except Fault (List Char) :=
  match frame with
  | .list => .ok cs
  | .object =>
    match skipSpace cs with
    | [] => .error (.endsIn .object)
    | c :: rest => do
      if c = '"' then colon (← skipText rest) else .error .keyNotText

/-- a value that is neither a list nor an object, of which `c` is the first character -/
def skipScalar (c : Char) (cs : List Char) : Except Fault (List Char) :=
  match c with
  | 'n' => word ['u', 'l', 'l'] cs
  | 't' => word ['r', 'u', 'e'] cs
  | 'f' => word ['a', 'l', 's', 'e'] cs
  | '"' => skipText cs
  | '-' => do
    let (_, rest) ← readNumeral .invalidNumber true cs
    pure rest
  | c => do
    if isDigit c then
      let (_, rest) ← readNumeral .invalidNumber false (c :: cs)
      pure rest
    else .error .expectedValue

/-- what is due next while values are passed over -/
inductive Due where
  | value
  /-- what may follow the opening bracket of the innermost frame -/
  | first
  /-- what may follow a value -/
  | next

/-- passes over what is due, and then over the rest of the open frames; every step takes at least one
character or turns to what follows it, so twice the number of characters is `fuel` enough -/
def skipFrom : Nat → Due → List Frame → List Char → Except Fault (List Char)
  | 0, _, _, _ => .error (.endsIn .value)
  | fuel + 1, .value, frames, cs =>
    match skipSpace cs with
    | [] => .error (.endsIn .value)
    | '[' :: rest => skipFrom fuel .first (.list :: frames) rest
    | '\x7b' :: rest => skipFrom fuel .first (.object :: frames) rest
    | c :: rest => do skipFrom fuel .next frames (← skipScalar c rest)
  | fuel + 1, .first, frames, cs =>
    match frames with
    | [] => .ok cs
    | frame :: outer =>
      match skipSpace cs with
      | [] => .error (.endsIn frame.part)
      | c :: rest => do
        if c = frame.close then skipFrom fuel .next outer rest
        else skipFrom fuel .value frames (← skipKey frame (c :: rest))
  | fuel + 1, .next, frames, cs =>
    match frames with
    | [] => .ok cs
    | frame :: outer =>
      match skipSpace cs with
      | [] => .error (.endsIn frame.part)
      | c :: rest => do
        if c = ',' then skipFrom fuel .value frames (← skipKey frame rest)
        else if c = frame.close then skipFrom fuel .next outer rest
        else .error frame.unclosed

/-- what follows a value -/
def skipValue (cs : List Char) : Except Fault (List Char) :=
  skipFrom (2 * cs.length + 2) .value [] cs

end MessageFlow.Json
