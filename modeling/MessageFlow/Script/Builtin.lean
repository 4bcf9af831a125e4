import MessageFlow.Script.Condition
import MessageFlow.Script.Format
import MessageFlow.Script.Glob
import MessageFlow.Script.Tool

/-!
# Commands of the shell

The commands that the shell carries out by itself: writing, variables, options, signals, and leaving
loops, functions and the script.
-/

namespace MessageFlow.Script

open Text (Bytes utf8)

/-- a number that is not negative and fits in thirty-two bits, with blanks around it -/
def count? (a : Bytes) : Option Nat :=
  let body := (Text.ofUtf8Lossy a).toList.dropWhile isBlank
  let body := if body.head? = some '+' then body.tail else body
  match (body.reverse.dropWhile isBlank).reverse with
  | [] => none
  | cs =>
    if cs.all Char.isDigit then
      let n := cs.foldl (fun n c => n * 10 + (c.toNat - 48)) 0
      if n < 2 ^ 31 then some n else none
    else none

def illegalNumber (name : String) (a : Bytes) : String :=
  name ++ ": Illegal number: " ++ Text.ofUtf8Lossy a

/-- goes on with the number in the first argument, or with another one if there is none -/
def withCount (name : String) (missing : State → Nat) (act : State → Nat → State) : Tool :=
  fun s line args =>
    match args with
    | [] => act s (missing s)
    | a :: _ =>
      match count? a with
      | some n => act s n
      | none => s.fails line (illegalNumber name a)

/-! ### leaving -/

def exitTool : Tool := withCount "exit" State.status fun s n => s.exits (n % 256)

def returnTool : Tool := withCount "return" State.status fun s n =>
  { s with status := n, leaving := some .returns }

def breakTool : Tool := withCount "break" (fun _ => 1) fun s n =>
  if s.loops = 0 then s.ended 0
  else { s with status := 0, leaving := some (.breaks (min n s.loops)) }

def continueTool : Tool := withCount "continue" (fun _ => 1) fun s n =>
  if s.loops = 0 then s.ended 0
  else { s with status := 0, leaving := some (.continues (min n s.loops)) }

/-! ### writing -/

def echoTool : Tool := fun s _ args => (s.put (echo args)).ended 0

def printfTool : Tool := fun s line args =>
  let args := if args.head? = some (utf8 "--") then args.tail else args
  match args with
  | [] => s.refuses line "printf: usage: printf format [arg ...]"
  | f :: args =>
    let p := printf (args.length + 1) (Text.ofUtf8Lossy f).toList ⟨[], args, [], 0, false⟩
    let s := p.messages.foldl (fun s text => s.remark line ("printf: " ++ text)) s
    (s.put p.output).ended p.status

/-! ### variables -/

/-- the name in an argument that assigns, and the value if it has one -/
def setting (a : Bytes) : String × Option Bytes :=
  let name := a.takeWhile (· ≠ 0x3D)
  (Text.ofUtf8Lossy name, if name.length < a.length then some (a.drop (name.length + 1)) else none)

/-- sets the variables that have a value among the arguments -/
def exportTool : Tool := fun s line args =>
  (args.map setting).foldl (fun s (name, value) =>
    if name.startsWith "-" then s
    else if isName name.toList then
      match value with
      | some value => s.assign name value
      | none => s
    else s.fails line ("export: " ++ name ++ ": bad variable name")) (s.ended 0)

/-- keeps what variables are until the function is over, and sets those that have a value -/
def localTool : Tool := fun s line args =>
  match s.scopes with
  | [] => s.fails line "local: not in a function"
  | scope :: scopes =>
    let settings := args.map setting
    let kept := settings.map fun (name, _) => (name, s.values.lookup name)
    settings.foldl (fun s (name, value) =>
      match value with
      | some value => s.assign name value
      | none => s) ({ s with scopes := (kept ++ scope) :: scopes }.ended 0)

def unsetTool : Tool := fun s _ args =>
  let o := options [] args
  (o.rest.foldl (fun s name =>
    let s := if o.has 'v' then s
      else { s with functions := s.functions.filter (·.1 ≠ name) }
    if o.has 'f' then s else s.unassign name) s).ended 0

def shiftTool : Tool := fun s line args =>
  withCount "shift" (fun _ => 1) (fun s n =>
    if n > s.arguments.length then s.fails line "shift: can't shift that many"
    else { s with arguments := s.arguments.drop n }.ended 0) s line args

/-- the options with a name, and their letters -/
def optionNames : List (String × Char) :=
  [("errexit", 'e'), ("noglob", 'f'), ("nounset", 'u'), ("xtrace", 'x'), ("verbose", 'v'),
    ("noclobber", 'C'), ("noexec", 'n'), ("allexport", 'a'), ("notify", 'b'), ("ignoreeof", 'I'),
    ("monitor", 'm'), ("vi", 'V'), ("emacs", 'E'), ("interactive", 'i'), ("stdin", 's')]

/-- the options that are set when one more is set or taken away -/
def setLetter (on : Bool) (options : List Char) (c : Char) : List Char :=
  let others := options.filter (· ≠ c)
  if on then others ++ [c] else others

def State.setOption (s : State) (on : Bool) (c : Char) : State :=
  { s with options := setLetter on s.options c }

/-- sets the options of some letters, or tells which one there is not -/
def State.setLetters (s : State) (on : Bool) : List Char → Except Char State
  | [] => .ok s
  | c :: cs =>
    if (optionNames.map (·.2)).contains c then (s.setOption on c).setLetters on cs else .error c

/-- sets options and arguments; `named` says how an option whose name comes first is to be set -/
def setArguments (line : Nat) (named : Option Bool) (s : State) : List Bytes → State
  | [] => s
  | a :: more =>
    let text := Text.ofUtf8Lossy a
    let sign := fun (on : Bool) => if on then "-" else "+"
    let go := fun (on : Bool) (letters : List Char) =>
      match s.setLetters on (letters.takeWhile (· ≠ 'o')) with
      | .ok s => setArguments line (if letters.contains 'o' then some on else none) s more
      | .error c => s.fails line ("set: Illegal option " ++ sign on ++ .ofList [c])
    match named, text.toList with
    | some on, _ =>
      match optionNames.lookup text with
      | some c => setArguments line none (s.setOption on c) more
      | none => s.fails line ("set: Illegal option " ++ sign on ++ "o " ++ text)
    | none, ['-', '-'] => { s with arguments := more }
    | none, ['-'] => if more = [] then s else { s with arguments := more }
    | none, '-' :: letters => go true letters
    | none, '+' :: letters => go false letters
    | none, _ => { s with arguments := a :: more }

def setTool : Tool := fun s line args => setArguments line none (s.ended 0) args

/-! ### reading -/

/-- a line of some bytes, and the bytes behind it; without `raw` a backslash quotes what follows -/
def readLine (raw : Bool) : Bytes → List Mark × Option Bytes
  | [] => ([], none)
  | b :: bs =>
    if b = 0x0A then ([], some bs)
    else if b = 0x5C ∧ ¬ raw then
      match bs with
      | [] => ([], none)
      | c :: cs =>
        let (f, rest) := readLine raw cs
        (if c = 0x0A then f else ⟨c, true⟩ :: f, rest)
    else
      let (f, rest) := readLine raw bs
      (⟨b, false⟩ :: f, rest)

/-- gives each name a part of a line; the last one gets all that is left -/
def shareOut (dividers : Bytes) (names : List String) (line : List Mark) (s : State) : State :=
  let divides := fun (m : Mark) => !m.quoted && dividers.contains m.byte
  let space := fun (m : Mark) => divides m && (m.byte = 0x20 || m.byte = 0x09 || m.byte = 0x0A)
  let line := line.dropWhile space
  match names with
  | [] => s
  | [name] =>
    let trimmed := (line.reverse.dropWhile space).reverse
    let single := match trimmed.getLast? with
      | some m => divides m && !(trimmed.dropLast.any divides)
      | none => false
    s.assign name (Field.bytes (if single then trimmed.dropLast else trimmed))
  | name :: more =>
    let part := line.takeWhile fun m => !divides m
    let rest := (line.drop part.length).dropWhile space
    let rest := match rest with
      | m :: after => if divides m then after else m :: after
      | [] => []
    shareOut dividers more rest (s.assign name (Field.bytes part))

/-- puts a line of the input into variables -/
def readTool : Tool := fun s line args =>
  let o := options ['p'] args
  match o.rest with
  | [] => s.refuses line "read: arg count"
  | names =>
    match names.find? fun n => !isName n.toList with
    | some n => s.refuses line ("read: " ++ n ++ ": bad variable name")
    | none =>
      let (marks, rest) := readLine (o.has 'r') s.input
      let s := shareOut s.dividers names marks { s with input := rest.getD [] }
      s.ended (if rest.isSome then 0 else 1)

/-! ### signals -/

/-- the number of a signal by its number or its name -/
def signal? (text : String) : Option Nat :=
  match text.toNat? with
  | some n => if n ≤ 64 then some n else none
  | none => (Exit.signalNames.findIdx? (· = text.map Char.toUpper)).map (· + 1)

/-- the signals that a script survives -/
def harmless : List Nat := [0, 17, 18, 23, 28]

/-- a signal comes to the script -/
def State.raise (s : State) (n : Nat) : State :=
  match if n = 9 then none else s.traps.lookup n with
  | some [] => s
  | some _ => { s with raised := s.raised ++ [n] }
  | none =>
    if harmless.contains n then s else { s with leaving := some (.exit (.signal n)) }

def killUsage : String :=
  "kill: Usage: kill [-s sigspec | -signum | -sigspec] [pid | job]... or\nkill -l [exitstatus]"

/-- sends a signal to the processes of some arguments; only the script itself is there -/
def sendSignal (s : State) (line : Nat) (n : Nat) (targets : List Bytes) : State :=
  if targets = [] then s.refuses line killUsage
  else targets.foldl (fun s target =>
    if target = self then s.raise n
    else match (Text.ofUtf8Lossy target).toInt? with
      | some _ => (s.remark line "kill: No such process\n").ended 1
      | none => s.refuses line (illegalNumber "kill" target)) (s.ended 0)

def killTool : Tool := fun s line args =>
  match args.map Text.ofUtf8Lossy with
  | [] => s.refuses line killUsage
  | "-l" :: _ =>
    let numbers := (args.drop 1).filterMap fun a => (Text.ofUtf8Lossy a).toNat?
    let names := numbers.map fun n => (Exit.signalName? (n % 128)).getD "" ++ "\n"
    (s.put (utf8 (String.join names))).ended 0
  | "-s" :: name :: _ =>
    match signal? name with
    | some n => sendSignal s line n (args.drop 2)
    | none => s.refuses line ("kill: invalid signal number or name: " ++ name)
  | "--" :: _ => sendSignal s line 15 (args.drop 1)
  | first :: _ =>
    if first.startsWith "-" ∧ first.length > 1 then
      match signal? (first.drop 1).toString with
      | some n =>
        let targets := args.drop 1
        sendSignal s line n (if targets.head? = some (utf8 "--") then targets.drop 1 else targets)
      | none => s.refuses line ("kill: Illegal option -" ++ ((first.drop 1).take 1).toString)
    else sendSignal s line 15 args

/-- the number of a signal that can be trapped; zero is the end of the script -/
def trapNumber? (text : String) : Option Nat := if text = "EXIT" then some 0 else signal? text

def trapTool : Tool := fun s _ args =>
  let args := if args.head? = some (utf8 "--") then args.tail else args
  let change := fun (s : State) (text : Option (List Char)) (names : List String) =>
    names.foldl (fun (s : State) name =>
      match trapNumber? name with
      | none => (s.complain ("trap: " ++ name ++ ": bad trap")).ended 1
      | some n =>
        let others := s.traps.filter (·.1 ≠ n)
        { s with traps := (text.map fun t => (n, t)).toList ++ others }) (s.ended 0)
  match args.map Text.ofUtf8Lossy with
  | [] => s.ended 0
  | [name] => change s none [name]
  | "-" :: names => change s none names
  | text :: names =>
    if (text.toNat?).isSome then change s none (text :: names)
    else change s (some text.toList) names

/-! ### the others -/

def testTool : Tool := fun s line args => report s line "test" (args.map Text.ofUtf8Lossy)
where
  /-- sets the status by a condition -/
  report (s : State) (line : Nat) (name : String) (args : List String) : State :=
    match Condition.holds s args with
    | .ok value => s.ended (if value then 0 else 1)
    | .error text => s.refuses line (name ++ ": " ++ text)

def bracketTool : Tool := fun s line args =>
  if args.getLast? = some (utf8 "]") then
    testTool.report s line "[" (args.dropLast.map Text.ofUtf8Lossy)
  else s.refuses line "[: missing ]"

/-- changes the working directory -/
def cdTool : Tool := fun s line args =>
  let path := Text.ofUtf8Lossy (args.headD [])
  match s.tree.follow s.base path with
  | .ok place =>
    if s.tree.find? place matches some .directory then { s with base := place }.ended 0
    else s.refuses line ("cd: can't cd to " ++ path)
  | .error _ => s.refuses line ("cd: can't cd to " ++ path)

/-- writes the working directory -/
def pwdTool : Tool := fun s _ _ => (s.put (utf8 ("/" ++ "/".intercalate s.base ++ "\n"))).ended 0

def succeed : Tool := fun s _ _ => s.ended 0

/-- commands at whose faults the whole script ends -/
def specialTools : List (String × Tool) :=
  [(":", succeed), ("break", breakTool), ("continue", continueTool), ("exit", exitTool),
    ("export", exportTool), ("readonly", exportTool), ("return", returnTool), ("set", setTool),
    ("shift", shiftTool), ("times", succeed), ("trap", trapTool), ("unset", unsetTool)]

def shellTools : List (String × Tool) :=
  [("true", succeed), ("false", fun s _ _ => s.ended 1), ("echo", echoTool), ("printf", printfTool),
    ("local", localTool), ("read", readTool), ("kill", killTool), ("test", testTool),
    ("[", bracketTool), ("cd", cdTool), ("pwd", pwdTool), ("wait", succeed), ("umask", succeed),
    ("ulimit", succeed), ("hash", succeed), ("alias", succeed)]

end MessageFlow.Script
