import MessageFlow.Graph.Basic

/-!
# What a graph tells

Sorted views of a graph (`Graph.sortedFlows`, `Graph.entryPoints`, `Graph.modules`), its statistics,
and the graph of the flows that cross a module boundary (`Graph.interModule`).  `g == h` compares
two graphs by content: it does not matter in which order they were built.
-/

namespace MessageFlow

namespace Flow

/-- the ends lie in different modules -/
def isInterModule (f : Flow) : Bool := f.source.moduleKey ≠ f.target.moduleKey

/-- flows are ordered by the names of source, target and message -/
def le (f g : Flow) : Bool :=
  decide (f.source.name < g.source.name)
    || (f.source.name == g.source.name
      && (decide (f.target.name < g.target.name)
        || (f.target.name == g.target.name && decide (f.message.name ≤ g.message.name))))

/-- what two flows share if they count as the same: the names of the ends, and the message -/
def label (f : Flow) : String × String × Message := (f.source.name, f.target.name, f.message)

end Flow

namespace Graph

/-- the flows by the names of source, target and message -/
def sortedFlows (g : Graph) : List Flow := g.flows.mergeSort Flow.le

/-- the vertices by name -/
def sortedVertices (g : Graph) : List Handler :=
  g.vertices.mergeSort (fun h k => decide (h.name ≤ k.name))

/-- the entry points by name -/
def entryPoints (g : Graph) : List Handler := g.sortedVertices.filter Handler.isEntryPoint

/-- the distinct module keys in ascending order -/
def modules (g : Graph) : List String := distinct (g.vertices.map Handler.moduleKey)

/-- the graph of the flows between different modules and of their ends -/
def interModule (g : Graph) : Graph := (∅ : Graph).addFlows (g.flows.filter Flow.isInterModule)

structure Stats where
  vertices : Nat
  edges : Nat
  modules : Nat
  entryPoints : Nat

def stats (g : Graph) : Stats :=
  ⟨g.vertexCount, g.edgeCount, g.modules.length, g.entryPoints.length⟩

/-- the same vertices with the same remarks, and the same flows, in whatever order -/
def agrees (g h : Graph) : Bool :=
  g.vertexCount == h.vertexCount && g.edgeCount == h.edgeCount
    && g.vertices.all (fun v => h.vertex? v.name == some v)
    && g.sortedFlows.map Flow.label == h.sortedFlows.map Flow.label

instance : BEq Graph := ⟨agrees⟩

end Graph

end MessageFlow
