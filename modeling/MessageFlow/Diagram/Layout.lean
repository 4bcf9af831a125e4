import MessageFlow.Diagram.Target
import MessageFlow.Fault

/-!
# Writing diagrams

`Diagram.write` puts the DOT text of a diagram where it is wanted: into a file, or into a layout
engine that makes an image of it.  The engine gets the format and the name of the image as arguments
and the text as its input.
-/

namespace MessageFlow.Diagram

variable {m : Type → Type} [Monad m] [Host m]

/-- the arguments of a layout engine -/
def engineArguments (format output : String) : List String := ["-T" ++ format, "-o", output]

/-- has a layout engine make an image -/
def layOut (engine dot format output : String) : m (Except Fault Unit) := do
  match ← Host.run engine (engineArguments format output) (Text.utf8 dot) with
  | .error fault => pure (.error (.engine engine fault))
  | .ok ending =>
    if ending.exit = .status 0 then pure (.ok ()) else pure (.error (.engineFailed engine ending))

/-- makes the directories that a path needs -/
def makeRoom (path : String) : m (Except FileFault Unit) :=
  match Path.parent? path with
  | some parent => Host.makeDirectories parent
  | none => pure (.ok ())

/-- writes a diagram as the name of the output asks for, and tells what that is -/
def write (engine dot output : String) : m (Except Fault Target) := do
  match ← makeRoom output with
  | .error fault => pure (.error (.file fault))
  | .ok () =>
    let target := Target.ofPath output
    match target with
    | .dot => do
      let outcome ← Host.write output (Text.utf8 dot)
      pure ((outcome.mapError Fault.file).map fun _ => target)
    | .image format => do
      let outcome ← layOut engine dot format output
      pure (outcome.map fun _ => target)

end MessageFlow.Diagram
