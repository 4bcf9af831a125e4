import MessageFlow.Diagram.Settings
import MessageFlow.Diagram.Palette

/-!
# Diagrams

A `Diagram` is what a drawing shows, before it is spelled out: a cluster for every module with a
node for every handler, and the edges between them.  It depends on the content of the graph only:
modules, handlers and flows stand in the order of their names.
-/

namespace MessageFlow

/-- a table of two rows: the namespace in the colour of the module, the class below it -/
structure Node where
  /-- full name of the handler -/
  id : String
  moduleColor : String
  namespaceRow : String
  classColor : String
  classRow : String
  tooltip : Option String
  deriving DecidableEq

/-- the nodes of one module -/
structure Cluster where
  key : String
  nodes : List Node
  deriving DecidableEq

structure Arrow where
  source : String
  target : String
  label : String
  tooltip : Option String
  deriving DecidableEq

structure Diagram where
  direction : Direction
  splines : String
  clusterColor : String
  clusters : List Cluster
  arrows : List Arrow
  deriving DecidableEq

/-- what the tooltip of a handler says: where a process starts, and the comment -/
def Handler.tooltip (h : Handler) : Option String :=
  match h.entryPoint, h.comment with
  | none, none => none
  | none, some c => some c
  | some e, none => some ("Entry point: " ++ e)
  | some e, some c => some ("Entry point: " ++ e ++ "\n" ++ c)

namespace Diagram

/-- the colour of the class row of a handler that is not highlighted -/
def plainColor : String := "white"

def node (s : DiagramSettings) (p : ModulePalette) (highlight : Option String) (h : Handler) :
    Node where
  id := h.name
  moduleColor := p.color h.moduleKey
  namespaceRow := h.namespaceOf
  classColor := if highlight = some h.name then s.highlightColor else plainColor
  classRow := h.className
  tooltip := h.tooltip

def arrow (f : Flow) : Arrow := ⟨f.source.name, f.target.name, f.message.short, f.message.comment⟩

/-- the diagram of a graph, with the handler of that name highlighted -/
def ofGraph (s : DiagramSettings) (g : Graph) (highlight : Option String) : Diagram where
  direction := s.direction
  splines := s.splines
  clusterColor := s.clusterColor
  clusters :=
    let p := ModulePalette.ofGraph g s.palette s.unknownColor
    g.modules.map fun key =>
      ⟨key, (g.sortedVertices.filter (·.moduleKey = key)).map (node s p highlight)⟩
  arrows := g.sortedFlows.map arrow

end Diagram

end MessageFlow
