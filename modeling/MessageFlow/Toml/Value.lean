/-!
# Values of a settings file

A settings file is a table of values, which stand in the order in which they first came up.  How a
table came about decides what may be added to it later (`Origin`).  `descend` goes down into tables
by the keys of a path, makes the ones that are missing, and changes the last one.
-/

namespace MessageFlow.Toml

/-- how a table came about -/
inductive Origin where
  /-- by a header, or it is the whole document -/
  | header
  /-- by the header of a table inside it -/
  | implied
  /-- by a dotted key -/
  | dotted
  /-- by a dotted key between braces -/
  | dottedInBraces
  /-- between braces -/
  | braces
  deriving DecidableEq

namespace Origin

/-- the table exists because of a dotted key -/
def isDotted : Origin → Bool
  | dotted | dottedInBraces => true
  | _ => false

/-- dotted keys may add to the table -/
def isOpen : Origin → Bool
  | implied | dotted | dottedInBraces => true
  | _ => false

/-- the table ends with its braces -/
def isInline : Origin → Bool
  | braces | dottedInBraces => true
  | _ => false

/-- the table may be entered to add something: by a dotted key, which would make tables of the origin
`made`, or by a header -/
def admits (origin made : Origin) : Bool :=
  if made.isDotted then origin.isOpen else !origin.isInline

end Origin

inductive Value where
  | text (value : String)
  | integer (value : Int)
  | floating (value : Float)
  | boolean (value : Bool)
  /-- a date, a time of day, or both -/
  | moment
  | list (items : List Value)
  | table (origin : Origin) (entries : List (String × Value))
  /-- the tables that share a header in double brackets -/
  | tables (items : List (List (String × Value)))

abbrev Entries := List (String × Value)

namespace Entries

def find? (es : Entries) (key : String) : Option Value := List.lookup key es

/-- sets the value of a key that is there -/
def replace (es : Entries) (key : String) (v : Value) : Entries :=
  es.map fun e => if e.1 = key then (key, v) else e

/-- adds an entry under a new key -/
def add (es : Entries) (key : String) (v : Value) : Option Entries :=
  if (es.find? key).isSome then none else some (es ++ [(key, v)])

end Entries

/-- changes the table at the end of a path.  Tables that are missing are made as `made` says; of the
tables under one header the last one counts; what is no table ends the path, and so does a table that
a dotted key may not add to. -/
def descend (made : Origin) (change : Origin → Entries → Option Entries) :
    List String → Origin → Entries → Option Entries
  | [], origin, es => change origin es
  | key :: path, _, es =>
    match es.find? key with
    | none => do
      let inner ← descend made change path made []
      pure (es ++ [(key, .table made inner)])
    | some (.table origin inner) =>
      if origin.admits made then do
        let inner ← descend made change path origin inner
        pure (es.replace key (.table origin inner))
      else none
    | some (.tables items) =>
      match items.getLast? with
      | none => none
      | some last => do
        let last ← descend made change path .header last
        pure (es.replace key (.tables (items.dropLast ++ [last])))
    | some _ => none

/-- the value under a dotted key, where `path` is the key without its last part.  A table that did not
come from a dotted key cannot be reached by one. -/
def addKey (made : Origin) (path : List String) (key : String) (v : Value) (origin : Origin)
    (es : Entries) : Option Entries :=
  descend made (fun origin es =>
    if origin.isDotted == path.isEmpty then none else es.add key v) path origin es

end MessageFlow.Toml
