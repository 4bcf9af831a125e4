/-!
# Faults of the file system

What can go wrong when a file or a program is used.  Most faults have a number of their own, which
their message tells.
-/

namespace MessageFlow

inductive FileFault where
  | notFound
  | notExecutable
  | notAProgram
  | busy
  | alreadyExists
  | notADirectory
  | isADirectory
  | invalid
  | brokenPipe
  | nameTooLong
  | tooManyLinks
  /-- the text of a path holds a null character -/
  | nulInPath
  /-- a program or one of its arguments holds a null character -/
  | nulInCommand
  /-- the file is no text -/
  | notText
  | other (text : String)
  deriving DecidableEq

namespace FileFault

def numbered (text : String) (number : Nat) : String :=
  text ++ " (os error " ++ toString number ++ ")"

def message : FileFault → String
  | notFound => numbered "No such file or directory" 2
  | notExecutable => numbered "Permission denied" 13
  | notAProgram => numbered "Exec format error" 8
  | busy => numbered "Device or resource busy" 16
  | alreadyExists => numbered "File exists" 17
  | notADirectory => numbered "Not a directory" 20
  | isADirectory => numbered "Is a directory" 21
  | invalid => numbered "Invalid argument" 22
  | brokenPipe => numbered "Broken pipe" 32
  | nameTooLong => numbered "File name too long" 36
  | tooManyLinks => numbered "Too many levels of symbolic links" 40
  | nulInPath => "file name contained an unexpected NUL byte"
  | nulInCommand => "nul byte found in provided data"
  | notText => "stream did not contain valid UTF-8"
  | other text => text

end FileFault

end MessageFlow
