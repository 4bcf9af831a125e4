import MessageFlow.FileTree.Walk
import MessageFlow.Host.Program

/-!
# Hosts

A `Host` is a system that commands run on: it has files, can start programs, and takes the lines
that a command prints.  A command is written for any host, so that the same definition works on real
files and on a `Session`.

A file can be staged: it is created under a name that nothing has, filled, and then published, which
puts it at its path in one step.
-/

namespace MessageFlow

open Text (Bytes)

class Host (m : Type → Type) where
  /-- a file that is not yet published -/
  Staged : Type
  /-- what a path leads to -/
  kind : String → m (Except FileFault FileKind)
  read : String → m (Except FileFault Bytes)
  /-- all files below a directory, in any order -/
  filesUnder : String → m (Except WalkFault (List FoundFile))
  /-- makes one directory, where nothing is yet -/
  makeDirectory : String → m (Except FileFault Unit)
  /-- writes a whole file -/
  write : String → Bytes → m (Except FileFault Unit)
  /-- creates an empty file of a new name in a directory -/
  stage : String → m (Except FileFault Staged)
  fill : Staged → Bytes → m (Except FileFault Unit)
  flush : Staged → m (Except FileFault Unit)
  /-- waits until the file is safe -/
  sync : Staged → m (Except FileFault Unit)
  /-- puts the file at a path, all at once -/
  publish : Staged → String → m (Except FileFault Unit)
  /-- takes the file away again -/
  discard : Staged → m Unit
  /-- runs a program with arguments and an input -/
  run : String → List String → Bytes → m (Except ProgramFault Ending)
  /-- prints a line -/
  say : String → m Unit
  /-- logs a warning -/
  warn : String → m Unit
  /-- prints a line to the error output -/
  complain : String → m Unit

namespace Host

variable {m : Type → Type} [Monad m] [Host m]

/-- a directory that could not be made does no harm if it is there -/
def orThere (path : String) : Except FileFault Unit → m (Except FileFault Unit)
  | .ok () => pure (.ok ())
  | .error fault => do
    match ← Host.kind path with
    | .ok .directory => pure (.ok ())
    | _ => pure (.error fault)

/-- makes the first directory of a list, and before it the others as far as they are missing -/
def makeNested : List String → m (Except FileFault Unit)
  | [] => pure (.ok ())
  | path :: above => do
    match ← Host.makeDirectory path with
    | .error .notFound =>
      match ← makeNested above with
      | .error fault => pure (.error fault)
      | .ok () => orThere path (← Host.makeDirectory path)
    | outcome => orThere path outcome

/-- makes a directory with its parents -/
def makeDirectories (path : String) : m (Except FileFault Unit) := makeNested (Path.ancestors path)

end Host

end MessageFlow
