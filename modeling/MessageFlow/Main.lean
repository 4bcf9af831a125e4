import MessageFlow.Command.Execute

/-!
# The program

The host that commands run on when they are called from a terminal: the files below the working
directory, and the two output streams.  Layout engines are not started from here, so that images
have to be made from the DOT text.
-/

namespace MessageFlow

open Text (Bytes)

def faultOf : IO.Error → FileFault
  | .noFileOrDirectory _ _ _ => .notFound
  | .permissionDenied _ _ _ => .notExecutable
  | .alreadyExists _ _ _ => .alreadyExists
  | .resourceBusy _ _ => .busy
  | e => .other (toString e)

/-- an action with its error as a value -/
def attempt {α : Type} (act : IO α) : IO (Except FileFault α) := do
  try pure (.ok (← act)) catch e => pure (.error (faultOf e))

def bytesOf (content : ByteArray) : Bytes := content.toList

/-- a file that is being written, and its path -/
structure StagedFile where
  path : String
  handle : IO.FS.Handle

/-- creates a file of a name that nothing has -/
partial def createStaged (directory : String) (number : Nat) : IO StagedFile := do
  let path := Path.join directory (".msgflow-" ++ toString number)
  try pure ⟨path, ← IO.FS.Handle.mk path .writeNew⟩
  catch e =>
    match faultOf e with
    | .alreadyExists => createStaged directory (number + 1)
    | _ => throw e

/-- a directory that a walk is in, and its path without links -/
structure Station where
  path : String
  place : String

/-- the files below the first station; the others are the directories around it -/
partial def walk (names : List String) (here : Station) (around : List Station) :
    IO (Except WalkFault (List FoundFile)) := do
  let base ← IO.currentDir
  let mut found := []
  let children ← attempt (base / here.path).readDir
  match children with
  | .error fault => return .error (.failed here.path fault)
  | .ok children =>
    for child in children do
      let path := Path.join here.path child.fileName
      match ← attempt (base / path).metadata with
      | .error fault => return .error (.failed path fault)
      | .ok data =>
        if data.type == .file then found := found ++ [⟨names ++ [child.fileName], path⟩]
        else if data.type == .dir then
          let place := toString (← IO.FS.realPath (base / path))
          let linked := (← (base / path).symlinkMetadata).type == .symlink
          match if linked then (here :: around).find? (·.place = place) else none with
          | some a => return .error (.loop path a.path)
          | none =>
            match ← walk (names ++ [child.fileName]) ⟨path, place⟩ (here :: around) with
            | .error fault => return .error fault
            | .ok more => found := found ++ more
    return .ok found

instance : Host IO where
  Staged := StagedFile
  kind path := attempt do
    let data ← ((← IO.currentDir) / path).metadata
    pure (if data.type == .dir then .directory else .file)
  read path := attempt do
    let data ← ((← IO.currentDir) / path).metadata
    if data.type == .dir then throw (IO.userError FileFault.isADirectory.message)
    pure (bytesOf (← IO.FS.readBinFile path))
  filesUnder path := do
    match ← attempt (do pure (toString (← IO.FS.realPath ((← IO.currentDir) / path)))) with
    | .error fault => pure (.error (.failed path fault))
    | .ok place => walk [] ⟨path, place⟩ []
  makeDirectory path := attempt (IO.FS.createDir path)
  write path bytes := attempt (IO.FS.writeBinFile path bytes.toByteArray)
  stage directory := attempt (createStaged directory 0)
  fill staged bytes := attempt (staged.handle.write bytes.toByteArray)
  flush staged := attempt staged.handle.flush
  sync staged := attempt staged.handle.flush
  publish staged path := attempt (IO.FS.rename staged.path path)
  discard staged := do
    let _ ← attempt (IO.FS.removeFile staged.path)
  run _ _ _ := pure (.error (.notStarted (.other "programs cannot be started")))
  say line := IO.println line
  warn line := IO.eprintln (" WARN " ++ line)
  complain line := IO.eprintln line

end MessageFlow

/-- runs the command line that the arguments form -/
def main (arguments : List String) : IO UInt32 := do
  let status ← MessageFlow.Command.run (← IO.getEnv "RUST_LOG") arguments
  pure (UInt32.ofNat status)
