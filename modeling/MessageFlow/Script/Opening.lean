import MessageFlow.Script.Builtin

/-!
# Calling shells

What a shell is asked for by its arguments: the options that are set, and the text that it runs,
which comes from an argument, from a file, or from its input.
-/

namespace MessageFlow.Script

open Text (Bytes utf8)

/-- the options and the other arguments of a shell -/
structure ShellCall where
  options : List Char
  /-- the text to run is an argument -/
  given : Bool
  rest : List String

/-- reads the arguments of a shell, or tells what is wrong with them; `named` says how an option
whose name comes first is to be set -/
def readShellCall (c : ShellCall) (named : Option Bool) : List String → Except String ShellCall
  | [] => .ok { c with rest := [] }
  | a :: more =>
    let sign := fun (on : Bool) => if on then "-" else "+"
    let go := fun (on : Bool) (letters : List Char) =>
      let plain := (letters.takeWhile (· ≠ 'o')).filter (· ≠ 'c')
      match plain.find? fun l => !(optionNames.map (·.2)).contains l with
      | some l => .error ("Illegal option " ++ sign on ++ .ofList [l])
      | none =>
        let options := plain.foldl (setLetter on) c.options
        let given := c.given || (on && letters.contains 'c')
        readShellCall { c with options := options, given := given }
          (if letters.contains 'o' then some on else none) more
    match named, a.toList with
    | some on, _ =>
      match optionNames.lookup a with
      | some l => readShellCall { c with options := setLetter on c.options l } none more
      | none => .error ("Illegal option " ++ sign on ++ "o " ++ a)
    | none, ['-'] => .ok { c with rest := more }
    | none, ['-', '-'] => .ok { c with rest := more }
    | none, '-' :: letters => go true letters
    | none, '+' :: letters => go false letters
    | none, _ => .ok { c with rest := a :: more }

/-- a text that a shell runs, with its name and arguments -/
structure Opening where
  name : String
  arguments : List String
  options : List Char
  text : Bytes
  /-- the text is the input of the shell -/
  fed : Bool

/-- what a shell that is called by a name runs, or what is wrong -/
def opening (tree : FileTree) (base : Place) (called : String) (input : Bytes) (args : List String) :
    Except String Opening := do
  let c ← readShellCall ⟨[], false, []⟩ none args
  match c.given, c.rest with
  | true, [] => .error "-c requires an argument"
  | true, text :: more => .ok ⟨more.headD called, more.tail, c.options, utf8 text, false⟩
  | false, [] => .ok ⟨called, [], c.options, input, true⟩
  | false, path :: more =>
    match tree.read base path with
    | .ok content => .ok ⟨path, more, c.options, content, false⟩
    | .error _ => .error ("cannot open " ++ path ++ ": No such file")

end MessageFlow.Script
