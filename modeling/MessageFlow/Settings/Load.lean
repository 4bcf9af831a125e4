import MessageFlow.Fault

/-!
# Settings files

`Settings.load` reads the settings in a file, which have no problem if they are read at all.  A file
that need not be there is read by `Settings.loadOrStandard`.
-/

namespace MessageFlow.Settings

variable {m : Type → Type} [Monad m] [Host m]

/-- the settings in the bytes of a file -/
def ofBytes (bytes : Text.Bytes) : Except MessageFlow.Fault Settings :=
  match Text.ofUtf8 bytes with
  | .error _ => .error (.file .notText)
  | .ok text => (ofText text).mapError MessageFlow.Fault.settings

def load (path : String) : m (Except MessageFlow.Fault Settings) := do
  match ← Host.read path with
  | .error fault => pure (.error (.file fault))
  | .ok bytes => pure (ofBytes bytes)

/-- the settings in a file, or the standard settings if it has none -/
def loadOrStandard (path : String) : m Settings := do
  match ← load path with
  | .error _ => pure standard
  | .ok s => pure s

end MessageFlow.Settings
