import MessageFlow.FileTree.Change
import MessageFlow.Power

/-!
# Walks through a file tree

`FileTree.filesUnder` finds all files below a directory, those behind links too.  The walk stops at
a link that leads nowhere and at a link that leads back to a directory that the walk is in, so it
never goes round in circles.
-/

namespace MessageFlow

/-- a file that a walk comes to -/
structure FoundFile where
  /-- the names that lead to the file from where the walk started -/
  names : List String
  path : String
  deriving DecidableEq

inductive WalkFault where
  | failed (path : String) (fault : FileFault)
  /-- the path leads back to a directory that the walk is in -/
  | loop (path ancestor : String)
  deriving DecidableEq

namespace WalkFault

def message : WalkFault → String
  | failed path fault => "IO error for operation on " ++ path ++ ": " ++ fault.message
  | loop path ancestor =>
    "File system loop found: " ++ path ++ " points to an ancestor " ++ ancestor

end WalkFault

namespace FileTree

/-- a directory that a walk is in -/
structure Visit where
  place : Place
  path : String

/-- the files below the first visit; the others are the directories around it, and `fuel` bounds how
deep the walk goes -/
def visit (t : FileTree) (fuel : Nat) (names : List String) (here : Visit) (around : List Visit) :
    Except WalkFault (List FoundFile) :=
  match fuel with
  | 0 => .error (.failed here.path .tooManyLinks)
  | fuel + 1 => do
    let found ← (t.children here.place).mapM fun name => do
      let path := Path.join here.path name
      let enter := fun place => t.visit fuel (names ++ [name]) ⟨place, path⟩ (here :: around)
      match t.find? (here.place ++ [name]) with
      | some .directory => enter (here.place ++ [name])
      | some (.file _ _) => pure [⟨names ++ [name], path⟩]
      | some (.link _) =>
        match t.follow here.place name with
        | .error fault => .error (.failed path fault)
        | .ok place =>
          match t.find? place, (here :: around).find? (·.place = place) with
          | some .directory, some a => .error (.loop path a.path)
          | some .directory, none => enter place
          | some (.file _ _), _ => pure [⟨names ++ [name], path⟩]
          | _, _ => .error (.failed path .notFound)
      | none => pure []
    pure found.flatten

/-- the files below the directory that a path leads to -/
def filesUnder (t : FileTree) (base : Place) (path : String) : Except WalkFault (List FoundFile) :=
  match t.follow base path with
  | .error fault => .error (.failed path fault)
  | .ok place => t.visit ((t.entries.length + 2) ^ 2) [] ⟨place, path⟩ []

end FileTree

end MessageFlow
