import MessageFlow.Diagram.Document
import MessageFlow.Diagram.Escape

/-!
# DOT text

`Diagram.dot` spells a diagram in the DOT language: a header, one subgraph for each cluster with one
statement for each node, one statement for each arrow, and the closing brace, every statement on a
line of its own.
-/

namespace MessageFlow

/-- a text between double quotes -/
def Escape.inQuotes (text : String) : String := "\"" ++ Escape.quoted text ++ "\""

/-- the attribute for a tooltip, if there is one -/
def Escape.tooltip : Option String → String
  | none => ""
  | some t => ", tooltip=" ++ Escape.inQuotes t

/-- the table of a node, written like HTML -/
def Node.table (n : Node) : String :=
  "<<TABLE BORDER=\"0\" CELLBORDER=\"1\" CELLSPACING=\"0\"><TR><TD BGCOLOR=\""
    ++ Escape.html n.moduleColor ++ "\">" ++ Escape.html n.namespaceRow
    ++ "</TD></TR><TR><TD PORT=\"out\" BGCOLOR=\""
    ++ Escape.html n.classColor ++ "\">" ++ Escape.html n.classRow ++ "</TD></TR></TABLE>>"

def Node.statement (n : Node) : String :=
  Escape.inQuotes n.id ++ " [label=" ++ n.table ++ Escape.tooltip n.tooltip ++ "]"

def Arrow.statement (a : Arrow) : String :=
  Escape.inQuotes a.source ++ " -> " ++ Escape.inQuotes a.target
    ++ " [label=" ++ Escape.inQuotes a.label ++ ", fontsize=10.0" ++ Escape.tooltip a.tooltip ++ "]"

/-- the lines of a cluster -/
def Cluster.lines (color : String) (c : Cluster) : List String :=
  ["\tsubgraph " ++ Escape.inQuotes ("cluster_" ++ c.key), "\t\x7b",
    "\t\tlabel = " ++ Escape.inQuotes c.key, "\t\tcolor = " ++ color, "\t\trank=\"same\""]
    ++ c.nodes.map (fun n => "\t\t" ++ n.statement) ++ ["\t\x7d"]

namespace Diagram

def lines (d : Diagram) : List String :=
  ["digraph G \x7b", "\trankdir=" ++ d.direction.label, "\tnode [shape=plaintext]",
    "\tsplines=" ++ d.splines, ""]
    ++ d.clusters.flatMap (Cluster.lines d.clusterColor) ++ [""]
    ++ d.arrows.map (fun a => "\t" ++ a.statement) ++ ["\x7d"]

/-- the diagram in the DOT language, every line ended by a line feed -/
def dot (d : Diagram) : String := String.join (d.lines.map (· ++ "\n"))

end Diagram

/-- the DOT text of a graph -/
def Graph.dot (s : DiagramSettings) (g : Graph) (highlight : Option String) : String :=
  (Diagram.ofGraph s g highlight).dot

end MessageFlow
