import MessageFlow.Analysis
import MessageFlow.Manifest.Collect

/-!
# Analyses of a source

`Analysis.ofSource` analyses what the manifests in a file or below a directory tell.
-/

namespace MessageFlow.Analysis

variable {m : Type → Type} [Monad m] [Host m]

/-- what a manifest tells, with module keys of `depth` segments -/
def ofManifest (depth : Nat) (manifest : Manifest) : Analysis :=
  ofObservations (manifest.observations depth)

def ofSource (depth : Nat) (suffix source : String) : m (Except Fault Analysis) := do
  pure ((← Manifest.collect suffix source).map (ofManifest depth))

end MessageFlow.Analysis
