/-!
# Diagram settings

How a diagram is laid out and coloured.
-/

namespace MessageFlow

/-- where the flows point -/
inductive Direction where
  | topBottom
  | leftRight
  | bottomTop
  | rightLeft
  deriving DecidableEq

namespace Direction

def all : List Direction := [topBottom, leftRight, bottomTop, rightLeft]

/-- the spelling in settings and diagrams -/
def label : Direction → String
  | topBottom => "TB"
  | leftRight => "LR"
  | bottomTop => "BT"
  | rightLeft => "RL"

def ofLabel? (text : String) : Option Direction := all.find? (·.label = text)

theorem ofLabel?_label (d : Direction) : ofLabel? d.label = some d := by cases d <;> decide

end Direction

structure DiagramSettings where
  direction : Direction
  /-- how edges are drawn -/
  splines : String
  /-- the border of the clusters -/
  clusterColor : String
  /-- the colours of the modules, used in turn -/
  palette : List String
  /-- the colour of a module that has none -/
  unknownColor : String
  /-- the colour of the highlighted handler -/
  highlightColor : String
  /-- draw the flows between different modules only -/
  interModuleOnly : Bool
  deriving DecidableEq

namespace DiagramSettings

def standard : DiagramSettings where
  direction := .leftRight
  splines := "ortho"
  clusterColor := "blue"
  palette := ["#ADD8E6", "#008B8B", "#F4A460", "#ADFF2F", "#FFB6C1", "#008000", "#A9A9A9", "#FF00FF",
    "#7FFFD4", "#FFFFFF"]
  unknownColor := "#FF0000"
  highlightColor := "#FFD700"
  interModuleOnly := false

end DiagramSettings

end MessageFlow
