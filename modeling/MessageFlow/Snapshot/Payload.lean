import MessageFlow.Graph.Basic
import MessageFlow.Snapshot.Varint

/-!
# Payloads

A payload describes a graph: the list of its vertices, then the list of its edges.  A list is its
number of items and then the items, a text is its number of bytes and then the bytes, an optional
text is a byte that says whether it is there and then the text.  Texts are kept as they are: blank
remarks stay, and module keys are not computed anew.
-/

namespace MessageFlow.Snapshot

open Text (Bytes)

/-! ### writing -/

def writeText (text : String) : Bytes :=
  let bytes := Text.utf8 text
  writeVarint bytes.length ++ bytes

def writeOption : Option String → Bytes
  | none => [0]
  | some text => 1 :: writeText text

def writeVertex (h : Handler) : Bytes :=
  writeText h.name ++ writeText h.moduleKey ++ writeOption h.comment ++ writeOption h.entryPoint

/-- positions are four bytes wide, so a larger one is cut -/
def writeEdge (e : Edge) : Bytes :=
  writeVarint (e.source % 2 ^ 32) ++ writeVarint (e.target % 2 ^ 32)
    ++ writeText e.message.name ++ writeOption e.message.comment

def writeList {α : Type} (write : α → Bytes) (items : List α) : Bytes :=
  writeVarint items.length ++ items.flatMap write

def writePayload (g : Graph) : Bytes :=
  writeList writeVertex g.vertices ++ writeList writeEdge g.edges

/-! ### reading -/

def readText : Reader String := fun bytes => do
  let (n, rest) ← readVarint .textLength bytes
  let (spelled, rest) ← take n rest
  match Text.ofUtf8 spelled with
  | .ok text => pure (text, rest)
  | .error fault => .error (.malformedText fault)

def readOption : Reader (Option String)
  | [] => .error (.unexpectedEnd 1)
  | b :: rest =>
    if b = 0 then .ok (none, rest)
    else if b = 1 then do
      let (text, rest) ← readText rest
      pure (some text, rest)
    else .error (.unknownOption b.toNat)

def readVertex : Reader Handler := fun bytes => do
  let (name, bytes) ← readText bytes
  let (moduleKey, bytes) ← readText bytes
  let (comment, bytes) ← readOption bytes
  let (entryPoint, bytes) ← readOption bytes
  pure (⟨name, moduleKey, comment, entryPoint⟩, bytes)

def readEdge : Reader Edge := fun bytes => do
  let (source, bytes) ← readVarint .position bytes
  let (target, bytes) ← readVarint .position bytes
  let (name, bytes) ← readText bytes
  let (comment, bytes) ← readOption bytes
  pure (⟨source, target, ⟨name, comment⟩⟩, bytes)

/-- `n` items -/
def readItems {α : Type} (read : Reader α) : Nat → Reader (List α)
  | 0, bytes => .ok ([], bytes)
  | n + 1, bytes => do
    let (item, bytes) ← read bytes
    let (items, bytes) ← readItems read n bytes
    pure (item :: items, bytes)

def readList {α : Type} (read : Reader α) : Reader (List α) := fun bytes => do
  let (n, bytes) ← readVarint .count bytes
  readItems read n bytes

/-- the vertices and edges that the bytes describe -/
def readPayload : Reader (List Handler × List Edge) := fun bytes => do
  let (vertices, bytes) ← readList readVertex bytes
  let (edges, bytes) ← readList readEdge bytes
  pure ((vertices, edges), bytes)

/-! ### from the description to the graph -/

/-- adds a vertex of a new name -/
def restoreVertex (g : Graph) (h : Handler) : Except Corruption Graph :=
  if g.contains h.name then .error (.duplicateVertex h.name) else .ok (g.addVertex h).1

/-- adds an edge of a new key between vertices that are there -/
def restoreEdge (g : Graph) (e : Edge) : Except Corruption Graph :=
  if e.source < g.vertices.length ∧ e.target < g.vertices.length then
    match g.addEdge e.source e.target e.message with
    | (g, true) => .ok g
    | (_, false) => .error (.duplicateEdge e.message.name)
  else .error (.missingVertex e.source e.target)

def restore (vertices : List Handler) (edges : List Edge) : Except Corruption Graph := do
  let g ← vertices.foldlM restoreVertex (∅ : Graph)
  edges.foldlM restoreEdge g

end MessageFlow.Snapshot
