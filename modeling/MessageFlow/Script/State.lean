import MessageFlow.Host.Session
import MessageFlow.Script.Grammar

/-!
# The state of a script

What a script has at a point of its run: its arguments, variables and functions, the files, what is
left of its input, where its channels lead, and what it has written to them.
-/

namespace MessageFlow.Script

open Text (Bytes utf8)

/-- where the bytes of a channel go -/
inductive Destination where
  /-- to one of the ordinary outputs; each substitution and each bar of a pipeline adds a level -/
  | output (level : Nat)
  | errors
  | file (place : Place)
  | nowhere
  deriving DecidableEq

/-- why the commands that follow do not run -/
inductive Leaving where
  /-- the script is over -/
  | exit (exit : Exit)
  /-- so many loops are over -/
  | breaks (loops : Nat)
  /-- one round of a loop is over, and the loops inside it -/
  | continues (loops : Nat)
  /-- a function is over -/
  | returns
  deriving DecidableEq

structure State where
  /-- the name of the script -/
  name : String
  /-- the command that has a text carried out, in messages -/
  caller : String
  arguments : List Bytes
  tree : FileTree
  base : Place
  /-- the values of the variables -/
  values : List (String × Bytes)
  functions : List (String × Statement)
  /-- for each function that runs, what the variables had been that are its own -/
  scopes : List (List (String × Option Bytes))
  /-- what is left of the input -/
  input : Bytes
  /-- where the channels lead that do not lead where their number says -/
  channels : List (Nat × Destination)
  /-- what was written to the ordinary outputs, the one of the highest level first -/
  captures : List Bytes
  /-- what was written to the error output -/
  errors : Bytes
  status : Nat
  /-- the status of the last substitution in a command -/
  inner : Nat
  leaving : Option Leaving
  /-- how many loops are around, up to the function that runs -/
  loops : Nat
  /-- the signals that have come and wait for their commands -/
  raised : List Nat
  /-- the options that are set, by their letters -/
  options : List Char
  /-- the commands that run when a signal comes, and at the end for the number zero -/
  traps : List (Nat × List Char)

/-- stands for the script where a process is asked for -/
def self : Bytes := utf8 "self"

namespace State

/-- a script at its start -/
def start (name : String) (arguments : List Bytes) (tree : FileTree) (base : Place) (input : Bytes)
    (options : List Char) : State where
  name := name
  caller := ""
  arguments := arguments
  tree := tree
  base := base
  values := [("IFS", [0x20, 0x09, 0x0A]), ("OPTIND", [0x31])]
  functions := []
  scopes := []
  input := input
  channels := []
  captures := [[]]
  errors := []
  status := 0
  inner := 0
  leaving := none
  loops := 0
  raised := []
  options := options
  traps := []

/-- the bytes that divide words -/
def dividers (s : State) : Bytes := (s.values.lookup "IFS").getD [0x20, 0x09, 0x0A]

/-- the arguments with a byte between them -/
def joined (s : State) (bytes : Bytes) : Bytes := (s.arguments.intersperse bytes).flatten

def lookup? (s : State) (name : String) : Option Bytes :=
  match name with
  | "@" => if s.arguments = [] then none else some (s.joined [0x20])
  | "*" => if s.arguments = [] then none else some (s.joined (s.dividers.take 1))
  | "#" => some (utf8 (toString s.arguments.length))
  | "?" => some (utf8 (toString s.status))
  | "$" => some self
  | "-" => some (utf8 (.ofList s.options))
  | "!" => none
  | "0" => some (utf8 s.name)
  | _ =>
    match name.toNat? with
    | some (n + 1) => s.arguments[n]?
    | _ => s.values.lookup name

def assign (s : State) (name : String) (value : Bytes) : State :=
  { s with values := (name, value) :: s.values.filter (·.1 ≠ name) }

def unassign (s : State) (name : String) : State :=
  { s with values := s.values.filter (·.1 ≠ name) }

def destination (s : State) (channel : Nat) : Destination :=
  (s.channels.lookup channel).getD
    (match channel with
    | 1 => .output 0
    | 2 => .errors
    | _ => .nowhere)

/-- leads a channel elsewhere -/
def direct (s : State) (channel : Nat) (d : Destination) : State :=
  { s with channels := (channel, d) :: s.channels.filter (·.1 ≠ channel) }

/-- brings bytes to where a channel leads -/
def send (s : State) (channel : Nat) (bytes : Bytes) : State :=
  match s.destination channel with
  | .output level =>
    { s with captures := s.captures.modify (s.captures.length - 1 - level) (· ++ bytes) }
  | .errors => { s with errors := s.errors ++ bytes }
  | .nowhere => s
  | .file place =>
    match s.tree.find? place with
    | some (.file content _) => { s with tree := s.tree.put place (content ++ bytes) }
    | _ => s

/-- writes to the ordinary output -/
def put (s : State) (bytes : Bytes) : State := s.send 1 bytes

/-- writes a line to the error output -/
def complain (s : State) (text : String) : State := s.send 2 (utf8 (text ++ "\n"))

/-- writes a message about one of the lines of the script -/
def remark (s : State) (line : Nat) (text : String) : State :=
  s.complain (s.name ++ ": " ++ toString line ++ ": " ++ text)

/-- sets the status of the last command -/
def ended (s : State) (status : Nat) : State := { s with status := status }

/-- ends the script -/
def exits (s : State) (status : Nat) : State :=
  { s with status := status, leaving := some (.exit (.status status)) }

/-- a message about one of the lines of the script, or of what is carried out for a command -/
def report (s : State) (line : Nat) (text : String) : State := s.remark line (s.caller ++ text)

/-- a command that cannot be carried out -/
def refuses (s : State) (line : Nat) (text : String) : State := (s.remark line text).ended 2

/-- ends the script with a message, as a fault in its text does -/
def fails (s : State) (line : Nat) (text : String) : State := (s.remark line text).exits 2

/-- ends the script with a message, as a fault in what is carried out for a command does -/
def breaksOff (s : State) (line : Nat) (text : String) : State := (s.report line text).exits 2

/-- what goes to the ordinary output while something runs -/
def captured (s : State) (run : State → State) : State × Bytes :=
  let t := run ({ s with captures := [] :: s.captures }.direct 1 (.output s.captures.length))
  ({ t with captures := t.captures.tail, channels := s.channels }, t.captures.headD [])

def hasOption (s : State) (c : Char) : Bool := s.options.contains c

end State

/-- the wording of a fault in messages of commands -/
def faultText : FileFault → String
  | .isADirectory => "Is a directory"
  | .notADirectory => "Not a directory"
  | .alreadyExists => "File exists"
  | .notExecutable => "Permission denied"
  | .nameTooLong => "File name too long"
  | .tooManyLinks => "Too many levels of symbolic links"
  | _ => "No such file or directory"

end MessageFlow.Script
