import MessageFlow.Diagram.Settings
import MessageFlow.Name
import MessageFlow.Text.Blank

/-!
# Settings

What can be set for an analysis and its diagram.  `Settings.problem?` tells what makes settings
useless; settings that are read from a file have no problem.
-/

namespace MessageFlow

structure Settings where
  /-- number of segments in a module key -/
  moduleDepth : Nat
  /-- how the names of manifests end -/
  manifestSuffix : String
  diagram : DiagramSettings
  /-- where the graph is stored -/
  dataFile : String
  /-- the program that draws images -/
  layoutEngine : String
  deriving DecidableEq

namespace Settings

/-- what the settings are where nothing is set -/
def standard : Settings where
  moduleDepth := Name.defaultDepth
  manifestSuffix := ".msgflow.json"
  diagram := DiagramSettings.standard
  dataFile := "messageflowdata.dat"
  layoutEngine := "dot"

/-- the settings file that is looked for where none is given -/
def standardFile : String := "msgflow.toml"

inductive Problem where
  | noModuleDepth
  | noColors
  | noSuffix
  | noLayoutEngine
  deriving DecidableEq

namespace Problem

def message : Problem → String
  | noModuleDepth => "module_depth must be at least 1"
  | noColors => "diagram palette needs at least one color"
  | noSuffix => "manifest_suffix cannot be empty"
  | noLayoutEngine => "layout_engine cannot be empty"

end Problem

/-- the first problem of the settings -/
def problem? (s : Settings) : Option Problem :=
  if s.moduleDepth = 0 then some .noModuleDepth
  else if s.diagram.palette.isEmpty then some .noColors
  else if s.manifestSuffix.isEmpty then some .noSuffix
  else if Text.blank s.layoutEngine then some .noLayoutEngine
  else none

/-- settings from the command line, which take precedence where they are given -/
structure Overrides where
  dataFile : Option String
  direction : Option Direction
  interModuleOnly : Bool

def override (s : Settings) (o : Overrides) : Settings :=
  { s with
    dataFile := o.dataFile.getD s.dataFile
    diagram := { s.diagram with
      direction := o.direction.getD s.diagram.direction
      interModuleOnly := s.diagram.interModuleOnly || o.interModuleOnly } }

theorem problem?_standard : standard.problem? = none := by decide

end Settings

end MessageFlow
