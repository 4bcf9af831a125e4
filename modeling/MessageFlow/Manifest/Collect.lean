import MessageFlow.Fault
import MessageFlow.Manifest.Format

/-!
# Collecting manifests

`Manifest.collect` reads the manifest in a file, or all manifests below a directory as one.  The
files of a directory count in the order of their paths, name by name, however the host enumerates
them; the first one that cannot be read decides the fault.
-/

namespace MessageFlow.Manifest

-- names are compared one after the other, as the core library compares lists
attribute [local instance (high)] List.instLE List.decidableLE

variable {m : Type → Type} [Monad m] [Host m]

/-- the manifest in a file -/
def readFile (path : String) : m (Except Fault Manifest) := do
  match ← Host.read path with
  | .error fault => pure (.error (.file fault))
  | .ok bytes =>
    match Text.ofUtf8 bytes with
    | .error _ => pure (.error (.file .notText))
    | .ok text => pure ((ofText text).mapError (Fault.manifest path))

/-- whether the last name of a file says that it is a manifest -/
def hasSuffix (suffix : String) (f : FoundFile) : Bool := (f.names.getLast?.getD "").endsWith suffix

/-- the manifests among some files, in the order of their names -/
def select (suffix : String) (files : List FoundFile) : List FoundFile :=
  (files.filter (hasSuffix suffix)).mergeSort fun f g => decide (f.names ≤ g.names)

/-- reads manifests one after the other and joins them to one -/
def readAll (sofar : Manifest) : List FoundFile → m (Except Fault Manifest)
  | [] => pure (.ok sofar)
  | f :: fs => do
    match ← readFile f.path with
    | .error fault => pure (.error fault)
    | .ok manifest => readAll (sofar.absorb manifest) fs

/-- reads the manifests below a directory -/
def readDirectory (suffix source : String) : m (Except Fault Manifest) := do
  match ← Host.filesUnder source with
  | .error fault => pure (.error (.walk fault))
  | .ok files =>
    match select suffix files with
    | [] => pure (.error (.noManifests source))
    | fs => readAll ∅ fs

/-- reads the manifests that a path leads to -/
def collect (suffix source : String) : m (Except Fault Manifest) := do
  match ← Host.kind source with
  | .error _ => pure (.error (.inputNotFound source))
  | .ok .file => readFile source
  | .ok .directory => readDirectory suffix source

end MessageFlow.Manifest
