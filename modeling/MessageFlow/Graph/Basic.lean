import MessageFlow.Message

/-!
# Message flow graphs

A `Graph` is a directed multigraph: its vertices are handlers, and an edge says that its source
sends a message which its target handles.  Both stand in the order in which they were first added,
and an edge refers to its ends by their positions.  `Graph.addVertex`, `Graph.addEdge` and
`Graph.addFlow` keep one vertex per name and one edge per source, target and message name: what is
already there absorbs the new comment instead (`Graph.WellFormed`).
-/

namespace MessageFlow

structure Edge where
  /-- position of the sending vertex -/
  source : Nat
  /-- position of the handling vertex -/
  target : Nat
  message : Message
  deriving DecidableEq

namespace Edge

/-- what no two edges of a graph share -/
def key (e : Edge) : Nat × Nat × String := (e.source, e.target, e.message.name)

end Edge

structure Graph where
  vertices : List Handler
  edges : List Edge
  deriving DecidableEq

/-- an edge together with its two ends -/
structure Flow where
  source : Handler
  target : Handler
  message : Message
  deriving DecidableEq

namespace Graph

def empty : Graph := ⟨[], []⟩

instance : EmptyCollection Graph := ⟨empty⟩

/-- distinct names, edges between vertices, distinct edge keys -/
structure WellFormed (g : Graph) : Prop where
  names_nodup : (g.vertices.map Handler.name).Nodup
  source_lt : ∀ e ∈ g.edges, e.source < g.vertices.length
  target_lt : ∀ e ∈ g.edges, e.target < g.vertices.length
  keys_nodup : (g.edges.map Edge.key).Nodup

/-! ### looking things up -/

/-- position of the vertex of that name -/
def position? (g : Graph) (name : String) : Option Nat := g.vertices.findIdx? (·.name = name)

/-- the vertex of that name -/
def vertex? (g : Graph) (name : String) : Option Handler := g.vertices.find? (·.name = name)

def contains (g : Graph) (name : String) : Bool := (g.vertex? name).isSome

def vertexCount (g : Graph) : Nat := g.vertices.length

def edgeCount (g : Graph) : Nat := g.edges.length

def isEmpty (g : Graph) : Bool := g.vertices.isEmpty

/-- an edge with its ends looked up -/
def flow? (g : Graph) (e : Edge) : Option Flow := do
  let source ← g.vertices[e.source]?
  let target ← g.vertices[e.target]?
  pure ⟨source, target, e.message⟩

/-- all flows, in the order of the edges -/
def flows (g : Graph) : List Flow := g.edges.filterMap g.flow?

/-- the edges that leave a position, in their order -/
def outbound (g : Graph) (i : Nat) : List Edge := g.edges.filter (·.source = i)

/-- the flows that leave the vertex of that name, in the order of the edges -/
def outboundFlows (g : Graph) (name : String) : List Flow :=
  match g.position? name with
  | none => []
  | some i => (g.outbound i).filterMap g.flow?

/-! ### adding vertices and edges -/

/-- adds a vertex, or lets the one of the same name absorb it; also tells its position -/
def addVertex (g : Graph) (h : Handler) : Graph × Nat :=
  match g.position? h.name with
  | some i => ({ g with vertices := g.vertices.modify i (·.absorb h) }, i)
  | none => ({ g with vertices := g.vertices ++ [h] }, g.vertices.length)

/-- adds an edge between two positions, or lets the one of the same key absorb the comment; also
tells whether the edge is new.  Without both vertices nothing is added. -/
def addEdge (g : Graph) (source target : Nat) (m : Message) : Graph × Bool :=
  if source < g.vertices.length ∧ target < g.vertices.length then
    match g.edges.findIdx? (·.key = (source, target, m.name)) with
    | some i =>
      ({ g with edges := g.edges.modify i fun e => { e with message := e.message.absorb m } }, false)
    | none => ({ g with edges := g.edges ++ [⟨source, target, m⟩] }, true)
  else (g, false)

/-- adds an edge and, before it, its two ends -/
def addFlow (g : Graph) (f : Flow) : Graph × Bool :=
  let (g₁, source) := g.addVertex f.source
  let (g₂, target) := g₁.addVertex f.target
  g₂.addEdge source target f.message

/-- the graph with these flows added in turn -/
def addFlows (g : Graph) (fs : List Flow) : Graph := fs.foldl (fun g f => (g.addFlow f).1) g

end Graph

end MessageFlow
