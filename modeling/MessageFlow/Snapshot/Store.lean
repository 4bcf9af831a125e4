import MessageFlow.Fault
import MessageFlow.Snapshot.Envelope

/-!
# Stored graphs

`Snapshot.save` stores a graph in a file and `Snapshot.load` reads it back.  A graph is first
written to a staged file beside its path, which is then published in one step; whatever fails
before, the file at the path keeps what it had and the staged file is taken away.
-/

namespace MessageFlow.Snapshot

open Text (Bytes)

variable {m : Type → Type} [Monad m] [Host m]

/-- the directory of a path -/
def directoryOf (path : String) : String :=
  match Path.parent? path with
  | none => "."
  | some parent => if parent = "" then "." else parent

/-- goes on after a step that succeeded -/
def next (outcome : Except FileFault Unit) (more : m (Except FileFault Unit)) :
    m (Except FileFault Unit) :=
  match outcome with
  | .ok () => more
  | .error fault => pure (.error fault)

/-- fills a staged file and publishes it -/
def complete (staged : Host.Staged m) (bytes : Bytes) (path : String) :
    m (Except FileFault Unit) := do
  next (← Host.fill staged bytes) do
    next (← Host.flush staged) do
      next (← Host.sync staged) do
        Host.publish staged path

/-- puts bytes into a file, all or nothing -/
def saveBytes (bytes : Bytes) (path : String) : m (Except FileFault Unit) := do
  next (← Host.makeDirectories (directoryOf path)) do
    match ← Host.stage (directoryOf path) with
    | .error fault => pure (.error fault)
    | .ok staged =>
      match ← complete staged bytes path with
      | .ok () => pure (.ok ())
      | .error fault => do
        Host.discard staged
        pure (.error fault)

/-- stores a graph in a file -/
def save (g : Graph) (path : String) : m (Except Fault Unit) := do
  pure ((← saveBytes (encode g) path).mapError Fault.file)

/-- reads a graph back -/
def load (path : String) : m (Except Fault Graph) := do
  match ← Host.read path with
  | .error .notFound => pure (.error (.inputNotFound path))
  | .error fault => pure (.error (.file fault))
  | .ok bytes => pure ((decodeBounded bytes).mapError Fault.snapshot)

end MessageFlow.Snapshot
