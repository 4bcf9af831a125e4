import MessageFlow.Script.Evaluate

/-!
# Scripts as programs

`Script.program` is the program that a path leads to: a script of a file tree, or one of the programs
that every system has.  A script reads its input, writes to files below its working directory and to
its error output, and ends with a status or by a signal; what it writes to its ordinary output goes
nowhere.
-/

namespace MessageFlow.Script

open Text (Bytes utf8)

/-! ### the first line -/

/-- how many bytes of a file are looked at for its first line -/
def headerSize : Nat := 256

/-- the first line behind its mark, and whether it ends where the bytes that are looked at do -/
def headerLine? (content : Bytes) : Option (Bytes × Bool) :=
  match content.take headerSize with
  | 0x23 :: 0x21 :: header =>
    let line := header.takeWhile (· ≠ 0x0A)
    if line.length < header.length then some (line, false)
    else some (line.take (headerSize - 3), headerSize ≤ content.length)
  | _ => none

/-- what runs a file by its first line: a path, and an argument if one stands behind it; a path that
may be cut off does not count -/
def interpreter? (content : Bytes) : Option (String × Option String) := do
  let (header, cutOff) ← headerLine? content
  let line := (Text.ofUtf8Lossy header).toList.dropWhile isBlank
  let words := (line.reverse.dropWhile isBlank).reverse
  let path := words.takeWhile (¬ isBlank ·)
  let argument := (words.drop path.length).dropWhile isBlank
  if path = [] ∨ (cutOff ∧ path.length = line.length) then none
  else some (.ofList path, if argument = [] then none else some (.ofList argument))

/-! ### programs of the system -/

/-- more steps than a script takes -/
def stepLimit : Nat := 1000000

/-- a shell: it runs the script that its arguments ask for -/
def shell : Program := fun called arguments input tree base =>
  match opening tree base called input arguments with
  | .error text => ⟨tree, ⟨.status 2, utf8 (called ++ ": 0: " ++ text ++ "\n")⟩, 0⟩
  | .ok o =>
    let run := evaluate stepLimit
    let fed := if o.fed then [] else input
    let s := State.start o.name (o.arguments.map utf8) tree base fed o.options
    let s := sayFarewell run (runText run false s 1 (Text.ofUtf8Lossy o.text).toList)
    ⟨s.tree, ⟨s.ending, s.errors⟩, input.length - s.input.length⟩

/-- a program that does nothing but end -/
def ends (status : Nat) : Program := fun _ _ _ tree _ => ⟨tree, ⟨.status status, []⟩, 0⟩

/-- the programs of the system by their names -/
def systemPrograms : List (String × Program) :=
  [("sh", shell), ("dash", shell), ("bash", shell), ("true", ends 0), ("false", ends 1),
    ("echo", ends 0)]

/-- the program that runs another one by its name -/
def environmentName : String := "env"

/-- the directories of a system -/
def systemDirectories : List Place :=
  [[], ["usr"], ["usr", "bin"], ["usr", "lib"], ["usr", "local"], ["usr", "local", "bin"],
    ["usr", "share"], ["dev"], ["etc"], ["home"], ["lib"], ["mnt"], ["opt"], ["proc"], ["root"],
    ["run"], ["srv"], ["sys"], ["tmp"], ["var"], ["var", "tmp"]]

/-- the files of a system around the tree that a script sees -/
def system : FileTree :=
  ⟨systemDirectories.map (fun p => (p, .directory)) ++
    [(["bin"], .link "usr/bin"), (["etc", "passwd"], .file [] false)] ++
    (environmentName :: systemPrograms.map (·.1)).map fun n =>
      (["usr", "bin", n], .file [] true)⟩

/-- what a path leads to -/
inductive Start where
  /-- a file of the tree that can be run, with its content -/
  | file (content : Bytes)
  /-- a program of the system -/
  | system (name : String)

/-- what can be run at a place -/
def startAt (t : FileTree) (place : Place) (start : Bytes → Start) : Except FileFault Start :=
  match t.find? place with
  | some (.file content true) => .ok (start content)
  | some (.file _ false) => .error .notExecutable
  | some .directory => .error .notExecutable
  | _ => .error .notFound

/-- finds what a path leads to, in the tree and in the system around it -/
def findStart (tree : FileTree) (base : Place) (path : String) : Except FileFault Start :=
  match tree.follow base path with
  | .ok place => startAt tree place .file
  | .error fault =>
    if Path.isAbsolute path then do
      let place ← system.follow [] path
      startAt system place fun _ => .system (place.getLastD "")
    else .error fault

/-! ### programs -/

/-- how many files may run each other by their first lines -/
def headerDepth : Nat := 6

/-- the words of an argument that holds several -/
def splitArgument (text : String) : List String :=
  (text.splitOn " ").filter (· ≠ "")

/-- the arguments of the program that runs another one, the first of which may hold several -/
def environmentArguments : List String → List String
  | [] => []
  | a :: more => if a.startsWith "-S" then splitArgument (a.drop 2).toString ++ more else a :: more

/-- what comes of a program that cannot be found -/
def unknown (called name : String) : Ending :=
  let hint :=
    if name.contains ' ' then called ++ ": use -[v]S to pass options in shebang lines\n" else ""
  ⟨.status 127, utf8 (called ++ ": '" ++ name ++ "': No such file or directory\n" ++ hint)⟩

/-- the program that a path leads to; `depth` bounds how often a first line asks for another file -/
def programAt (tree : FileTree) (base : Place) : Nat → String → Except FileFault Program
  | 0, _ => .error .tooManyLinks
  | depth + 1, path => do
    match ← findStart tree base path with
    | .file content =>
      match interpreter? content with
      | none => .error .notAProgram
      | some (interpreter, argument) =>
        let p ← programAt tree base depth interpreter
        pure fun called arguments => p interpreter (argument.toList ++ called :: arguments)
    | .system name =>
      match systemPrograms.lookup name with
      | some p => pure p
      | none => pure fun called arguments input tree base =>
        match environmentArguments arguments with
        | [] => ⟨tree, ⟨.status 0, []⟩, 0⟩
        | name :: more =>
          let found := if name.contains '/' then (programAt tree base depth name).toOption
            else systemPrograms.lookup name
          match found with
          | some p => p name more input tree base
          | none => ⟨tree, unknown called name, 0⟩

/-- the program that a path or a name leads to; a name without a slash is one of the system -/
def program (tree : FileTree) (base : Place) (path : String) : Except FileFault Program :=
  if path.contains '/' then programAt tree base headerDepth path
  else
    match systemPrograms.lookup path with
    | some p => .ok p
    | none => .error .notFound

end MessageFlow.Script
