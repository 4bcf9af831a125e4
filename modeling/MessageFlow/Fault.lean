import MessageFlow.Host.Basic
import MessageFlow.Json.Fault
import MessageFlow.Settings.Format
import MessageFlow.Snapshot.Fault
import MessageFlow.Text.Blank

/-!
# Why a command fails

All that can end a command before it is done, with the wording that is shown to the user.
-/

namespace MessageFlow

inductive Fault where
  | file (fault : FileFault)
  | settings (fault : Settings.Fault)
  | inputNotFound (path : String)
  | snapshot (fault : SnapshotFault)
  | manifest (path : String) (fault : Json.Fault)
  | noManifests (path : String)
  | walk (fault : WalkFault)
  /-- the layout engine could not be run -/
  | engine (program : String) (fault : ProgramFault)
  /-- the layout engine did not succeed -/
  | engineFailed (program : String) (ending : Ending)
  deriving DecidableEq

namespace Fault

def fileMessage (fault : FileFault) : String := "IO error: " ++ fault.message

def settingsMessage : Settings.Fault → String
  | .problem p => "Config validation error: " ++ p.message
  | _ => "Failed to parse config file"

def manifestMessage (path text : String) : String :=
  "Invalid observation manifest " ++ path ++ ": " ++ text

def engineMessage (program : String) : ProgramFault → String
  | .notStarted fault => "Render error: failed to start " ++ program ++ ": " ++ fault.message
  | .notFed fault => "Render error: failed to feed " ++ program ++ ": " ++ fault.message
  | .lost fault => fileMessage fault

def message : Fault → String
  | file fault => fileMessage fault
  | settings fault => settingsMessage fault
  | inputNotFound path => "Input not found: " ++ path
  | snapshot fault => "Failed to decode message flow graph: " ++ fault.message
  | manifest path fault => manifestMessage path fault.message
  | noManifests path => manifestMessage path "no observation manifests found"
  | walk fault => "Directory walk error: " ++ fault.message
  | engine program fault => engineMessage program fault
  | engineFailed program ending =>
    "Render error: " ++ program ++ " exited with " ++ ending.exit.message ++ ": "
      ++ Text.trim (Text.ofUtf8Lossy ending.errors)

end Fault

end MessageFlow
