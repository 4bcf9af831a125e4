import MessageFlow.FileTree.Fault
import MessageFlow.Text.Utf8

/-!
# Programs that are run

A program gets arguments and an input, and ends with a status or by a signal.  `ProgramFault` tells
what else can come of running one.
-/

namespace MessageFlow

open Text (Bytes)

/-- how a program ended -/
inductive Exit where
  | status (code : Nat)
  | signal (number : Nat)
  deriving DecidableEq

namespace Exit

/-- the names of the signals, from number one on -/
def signalNames : List String :=
  ["HUP", "INT", "QUIT", "ILL", "TRAP", "ABRT", "BUS", "FPE", "KILL", "USR1", "SEGV", "USR2", "PIPE",
    "ALRM", "TERM", "STKFLT", "CHLD", "CONT", "STOP", "TSTP", "TTIN", "TTOU", "URG", "XCPU", "XFSZ",
    "VTALRM", "PROF", "WINCH", "IO", "PWR", "SYS"]

def signalName? (number : Nat) : Option String :=
  match number with
  | 0 => none
  | n + 1 => signalNames[n]?

def message : Exit → String
  | status code => "exit status: " ++ toString code
  | signal number =>
    "signal: " ++ toString number ++ match signalName? number with
      | none => ""
      | some name => " (SIG" ++ name ++ ")"

end Exit

/-- how a program ended, and what it wrote to its error output -/
structure Ending where
  exit : Exit
  errors : Bytes
  deriving DecidableEq

inductive ProgramFault where
  | notStarted (fault : FileFault)
  /-- the program did not take its input -/
  | notFed (fault : FileFault)
  /-- the end of the program did not come to be known -/
  | lost (fault : FileFault)
  deriving DecidableEq

end MessageFlow
