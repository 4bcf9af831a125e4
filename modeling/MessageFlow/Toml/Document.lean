import MessageFlow.Toml.Number
import MessageFlow.Toml.Text

/-!
# Settings files

A settings file has lines of three sorts: a key with its value, the header of a table, and the
header of one of several tables of a name.  `Entries.ofText?` reads a file; what is no settings file
has no entries.  Keys may be dotted, and nothing may be defined twice.
-/

namespace MessageFlow.Toml

/-- how deep values may be nested, and how many parts a key may have -/
def depthLimit : Nat := 79

/-! ### keys -/

def isKeyChar (c : Char) : Bool :=
  isDigit c || ('a' ≤ c && c ≤ 'z') || ('A' ≤ c && c ≤ 'Z') || c == '-' || c == '_'

/-- one part of a key, bare or between quotes -/
def readPart : Reader String := fun cs =>
  match cs with
  | [] => none
  | c :: _ =>
    if c = '"' ∨ c = '\'' then readLine cs
    else if isKeyChar c then some (.ofList (cs.takeWhile isKeyChar), cs.dropWhile isKeyChar)
    else none

/-- the parts of a key with dots between them, at most `fuel` -/
def readParts : Nat → Reader (List String)
  | 0, _ => none
  | fuel + 1, cs => do
    let (part, rest) ← readPart (skipSpace cs)
    match skipSpace rest with
    | '.' :: rest =>
      let (more, rest) ← readParts fuel rest
      pure (part :: more, rest)
    | rest => pure ([part], rest)

/-- a key as the path to its last part, and that part -/
def readKey : Reader (List String × String) := fun cs => do
  let (parts, rest) ← readParts depthLimit cs
  let last ← parts.getLast?
  pure ((parts.dropLast, last), rest)

/-! ### values -/

/-- the items of a list up to its closing bracket; every item has a character, so `fuel` may be their
number -/
def readItems (read : Reader Value) : Nat → Reader (List Value)
  | 0, _ => none
  | fuel + 1, cs => do
    match ← skipGap false cs with
    | ']' :: rest => pure ([], rest)
    | start =>
      let (item, rest) ← read start
      match ← skipGap false rest with
      | ',' :: rest =>
        let (more, rest) ← readItems read fuel rest
        pure (item :: more, rest)
      | ']' :: rest => pure ([item], rest)
      | _ => none

/-- the entries of a table up to its closing brace; a comma needs an entry behind it -/
def readEntries (read : Reader Value) : Nat → Entries → Reader Entries
  | 0, _, _ => none
  | fuel + 1, es, cs => do
    let ((path, key), rest) ← readKey cs
    let rest ← mark '=' rest
    let (v, rest) ← read (skipSpace rest)
    let es ← addKey .dottedInBraces path key v .braces es
    match skipSpace rest with
    | ',' :: rest => readEntries read fuel es rest
    | '\x7d' :: rest => pure (es, rest)
    | _ => none

/-- a value in which at most `depth` lists and tables are nested -/
def readValue (depth : Nat) : Reader Value := fun cs =>
  match cs with
  | [] => none
  | c :: rest =>
    if c = '"' ∨ c = '\'' then do
      let (t, rest) ← readText cs
      pure (.text t, rest)
    else if c = '[' then
      match depth with
      | 0 => none
      | depth + 1 => do
        let (items, rest) ← readItems (readValue depth) (rest.length + 1) rest
        pure (.list items, rest)
    else if c = '\x7b' then
      match depth with
      | 0 => none
      | depth + 1 =>
        match skipSpace rest with
        | '\x7d' :: rest => some (.table .braces [], rest)
        | rest => do
          let (es, rest) ← readEntries (readValue depth) (rest.length + 1) [] rest
          pure (.table .braces es, rest)
    else
      match cs with
      | 't' :: 'r' :: 'u' :: 'e' :: rest => some (.boolean true, rest)
      | 'f' :: 'a' :: 'l' :: 's' :: 'e' :: rest => some (.boolean false, rest)
      | _ => readNumber cs

/-! ### lines -/

/-- what is read so far, and the path of the header that the next keys are under -/
structure Draft where
  root : Entries
  header : List String

namespace Draft

def addEntry (d : Draft) (path : List String) (key : String) (v : Value) : Option Draft := do
  let root ← descend .implied (addKey .dotted path key v) d.header .header d.root
  pure { d with root := root }

/-- the table under a header; one that was only implied moves to the end -/
def openTable (d : Draft) (path : List String) (key : String) : Option Draft := do
  let root ← descend .implied (fun _ es =>
    match es.find? key with
    | none => some (es ++ [(key, .table .header [])])
    | some (.table .implied inner) =>
      some (es.filter (fun e => e.1 != key) ++ [(key, .table .header inner)])
    | some _ => none) path .header d.root
  pure ⟨root, path ++ [key]⟩

/-- one more of the tables under a header in double brackets -/
def openItem (d : Draft) (path : List String) (key : String) : Option Draft := do
  let root ← descend .implied (fun _ es =>
    match es.find? key with
    | none => some (es ++ [(key, .tables [[]])])
    | some (.tables items) => some (es.replace key (.tables (items ++ [[]])))
    | some _ => none) path .header d.root
  pure ⟨root, path ++ [key]⟩

/-- a line that is neither blank nor a comment alone -/
def readLine (d : Draft) : Reader Draft
  | '[' :: '[' :: cs => do
    let ((path, key), rest) ← readKey cs
    let rest ← mark ']' (← mark ']' rest)
    pure (← d.openItem path key, ← lineEnd rest)
  | '[' :: cs => do
    let ((path, key), rest) ← readKey cs
    let rest ← mark ']' rest
    pure (← d.openTable path key, ← lineEnd rest)
  | cs => do
    let ((path, key), rest) ← readKey cs
    let (v, rest) ← readValue depthLimit (skipSpace (← mark '=' rest))
    pure (← d.addEntry path key v, ← lineEnd rest)

/-- all lines; every line has a character, so `fuel` may be their number -/
def readLines : Nat → Draft → List Char → Option Draft
  | 0, _, _ => none
  | fuel + 1, d, cs => do
    match ← skipGap false cs with
    | [] => pure d
    | rest =>
      let (d, rest) ← readLine d rest
      readLines fuel d rest

end Draft

/-- the entries of a settings file, which may begin with a byte order mark -/
def Entries.ofText? (text : String) : Option Entries := do
  let cs := match text.toList with
    | '\uFEFF' :: cs => cs
    | cs => cs
  let d ← Draft.readLines (cs.length + 1) ⟨[], []⟩ cs
  pure d.root

end MessageFlow.Toml
