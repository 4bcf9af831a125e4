import MessageFlow.Diagram.Dot
import MessageFlow.Graph.Walk

/-!
# What is drawn

A diagram shows a whole graph or what can be reached from one handler, and all flows or only those
between different modules.  The reachable part is taken first, so that flows inside a module still
lead on.
-/

namespace MessageFlow

structure Selection where
  graph : Graph
  /-- the handler that is highlighted -/
  highlight : Option String

namespace Graph

/-- whether a start is asked for that the graph does not have -/
def lacks (g : Graph) (start : Option String) : Bool := start.any fun name => !g.contains name

/-- the part of a graph that is reached from a handler, or all of it if the graph does not have it -/
def reached (g : Graph) (start : Option String) : Selection :=
  match start.filter g.contains with
  | some name => ⟨g.walkFrom name, some name⟩
  | none => ⟨g, none⟩

/-- the part of a graph that is drawn -/
def select (g : Graph) (start : Option String) (interModuleOnly : Bool) : Selection :=
  let r := g.reached start
  if interModuleOnly then ⟨r.graph.interModule, r.highlight⟩ else r

end Graph

/-- the DOT text of a selection -/
def Selection.dot (s : DiagramSettings) (x : Selection) : String := x.graph.dot s x.highlight

end MessageFlow
