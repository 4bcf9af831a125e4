import MessageFlow.Script.FileTools
import MessageFlow.Script.Opening
import MessageFlow.Script.Redirect
import MessageFlow.Script.TextTools

/-!
# Running the commands of scripts

`evaluate` runs a script from one state to another.  Loops, subshells, functions and simple commands
are functions of what runs their parts, and `evaluate` ties them together; its fuel bounds how deep
commands are nested and how often a loop goes round.
-/

namespace MessageFlow.Script

open Text (Bytes utf8)

/-- runs a script; the flag says that a failure is looked at by what is around, so that it does not
end the script -/
abbrev Runner := Bool → State → Statement → State

/-- tools that are programs of their own -/
def systemTools : List (String × Tool) :=
  [("cat", cat), ("tee", tee), ("head", head), ("tail", tail), ("wc", wc), ("tr", tr), ("cut", cut),
    ("sort", sort), ("uniq", uniq), ("seq", seq), ("basename", basename), ("dirname", dirname),
    ("mkdir", mkdir), ("rmdir", rmdir), ("rm", rm), ("mv", transfer "mv" false),
    ("cp", transfer "cp" true), ("ln", ln), ("touch", touch), ("chmod", chmod), ("ls", ls),
    ("sleep", succeed), ("sync", succeed), ("true", succeed), ("false", fun s _ _ => s.ended 1)]

/-- tools of the shell that are programs of their own as well -/
def programTools : List (String × Tool) :=
  shellTools.filter fun (name, _) => ["echo", "printf", "kill", "test", "["].contains name

/-! ### texts -/

/-- runs the lines of a text up to the one that cannot be read -/
def runText (run : Runner) (checked : Bool) (s : State) (line : Nat) (text : List Char) : State :=
  let (units, fault) := unitsOf line text
  let s := units.foldl (fun s unit =>
    if s.leaving.isSome ∨ s.hasOption 'n' then s else run checked s unit) s
  match fault with
  | some f => if s.leaving.isSome then s else s.breaksOff f.line ("Syntax error: " ++ f.text)
  | none => s

/-- runs the commands that are kept for the end of a script -/
def sayFarewell (run : Runner) (s : State) : State :=
  match s.traps.lookup 0, s.leaving with
  | none, _ => s
  | _, some (.exit (.signal _)) => s
  | some text, _ =>
    let status := match s.leaving with
      | some (.exit (.status n)) => n
      | _ => s.status
    let t := { s with traps := s.traps.filter (·.1 ≠ 0), leaving := none, status := status }
    let t := runText run false t 1 text
    if t.leaving.isSome then t else t.exits status

/-- runs the commands for the signals that have come -/
def answerSignals (run : Runner) (s : State) : State :=
  s.raised.foldl (fun s n =>
    match s.traps.lookup n with
    | some text =>
      if s.leaving.isSome then s
      else
        let t := runText run false s 1 text
        if t.leaving.isSome then t else t.ended s.status
    | none => s) { s with raised := [] }

/-- how a script that has come to its end ends -/
def State.ending (s : State) : Exit :=
  match s.leaving with
  | some (.exit e) => e
  | _ => .status s.status

/-- runs something that changes only what lies outside the shell: the files, the input and the
outputs -/
def apart (run : Runner) (s : State) (act : State → State) : State :=
  let t := sayFarewell run (act { s with traps := s.traps.filter (·.2 = []) })
  let changed := { s with
    tree := t.tree, input := t.input, errors := t.errors, captures := t.captures }
  match t.ending with
  | .status n => changed.ended n
  | .signal n => { changed with leaving := some (.exit (.signal n)) }

/-- runs another script for the bytes that it writes -/
def substituteBy (run : Runner) : Substitute := fun s line text =>
  let (t, bytes) := s.captured fun s => apart run s fun s => runText run false s line text
  ({ t with status := s.status, inner := t.status }, bytes)

/-! ### loops -/

/-- the state after one round of a loop, and whether the loop goes on -/
def State.afterRound (s : State) : State × Bool :=
  match s.leaving with
  | none => (s, true)
  | some (.breaks n) =>
    ({ s with leaving := if n ≤ 1 then none else some (.breaks (n - 1)) }, false)
  | some (.continues n) =>
    if n ≤ 1 then ({ s with leaving := none }, true)
    else ({ s with leaving := some (.continues (n - 1)) }, false)
  | some _ => (s, false)

/-- goes round as long as a condition holds, or until it holds; `last` is the status of the round
before -/
def whileHolds (untilTrue : Bool) (condition body : State → State) : Nat → Nat → State → State
  | 0, _, s => s.exits 2
  | fuel + 1, last, s =>
    let (s, on) := (condition s).afterRound
    if !on then s
    else if (s.status = 0) = untilTrue then s.ended last
    else
      let (s, on) := (body s).afterRound
      if on then whileHolds untilTrue condition body fuel s.status s else s

/-- goes round once for each word -/
def forEachWord (name : String) (body : State → State) : List Bytes → State → State
  | [], s => s
  | w :: ws, s =>
    let (s, on) := (body (s.assign name w)).afterRound
    if on then forEachWord name body ws s else s

/-- runs something inside one more loop -/
def State.looped (s : State) (act : State → State) : State :=
  { act { s with loops := s.loops + 1 } with loops := s.loops }

/-! ### commands -/

/-- calls a function -/
def call (run : Runner) (checked : Bool) (s : State) (body : Statement) (args : List Bytes) :
    State :=
  let t := run checked { s with arguments := args, loops := 0, scopes := [] :: s.scopes } body
  let values := (t.scopes.headD []).foldl (fun (values : List (String × Bytes)) (name, value) =>
    let others := values.filter (·.1 ≠ name)
    match value with
    | some value => (name, value) :: others
    | none => others) t.values
  { t with
    arguments := s.arguments, loops := s.loops, scopes := s.scopes, values := values
    leaving := if t.leaving = some .returns then none else t.leaving }

/-- what a shell writes when a program that it has run ends by a signal -/
def signalTexts : List (Nat × String) :=
  [(1, "Hangup"), (3, "Quit"), (4, "Illegal instruction"), (5, "Trace/breakpoint trap"), (6, "Aborted"),
    (7, "Bus error"), (8, "Floating point exception"), (9, "Killed"), (10, "User defined signal 1"),
    (11, "Segmentation fault"), (12, "User defined signal 2"), (14, "Alarm clock"),
    (15, "Terminated")]

/-- runs a text as a shell of its own -/
def runShell (run : Runner) (s : State) (o : Opening) : State :=
  let fresh := State.start o.name (o.arguments.map utf8) s.tree s.base
    (if o.fed then [] else s.input) o.options
  let t := sayFarewell run (runText run false
    { fresh with channels := s.channels, captures := s.captures, errors := s.errors } 1
    (Text.ofUtf8Lossy o.text).toList)
  let changed := { s with
    tree := t.tree, input := t.input, errors := t.errors, captures := t.captures }
  match t.ending with
  | .status n => changed.ended n
  | .signal n =>
    (match signalTexts.lookup n with
      | some text => changed.complain text
      | none => changed).ended (128 + n)

/-- starts a shell with arguments -/
def startShell (run : Runner) (s : State) (called : String) (args : List Bytes) : State :=
  match opening s.tree s.base called s.input (args.map Text.ofUtf8Lossy) with
  | .ok o => runShell run s o
  | .error text => (s.complain (called ++ ": 0: " ++ text)).ended 2

def shellNames : List String := ["sh", "dash", "bash"]

/-- the path leads to a program of the system of one of these names -/
def isSystemProgram (names : List String) (path : String) : Bool :=
  names.any fun n => path = "/bin/" ++ n || path = "/usr/bin/" ++ n

/-- starts a program that is no tool; `called` is what asks for it, in messages -/
def startProgram (run : Runner) (s : State) (line : Nat) (called name : String) (args : List Bytes) :
    State :=
  let refused := fun (text : String) (status : Nat) =>
    (if called = "" then s.report line (name ++ ": " ++ text)
      else s.remark line (called ++ name ++ ": " ++ text)).ended status
  if shellNames.contains name ∨ isSystemProgram shellNames name then startShell run s name args
  else if !name.contains '/' then refused "not found" 127
  else
    match (s.tree.follow s.base name).toOption.bind s.tree.find? with
    | some (.file content true) =>
      runShell run s ⟨name, args.map Text.ofUtf8Lossy, [], content, false⟩
    | some (.link _) => refused "not found" 127
    | some _ => refused "Permission denied" 126
    | none => refused "not found" 127

/-- the tool that a path to a program of the system leads to -/
def systemTool? (name : String) : Option Tool :=
  match systemTools.find? fun (n, _) => isSystemProgram [n] name with
  | some (_, tool) => some tool
  | none => systemTools.lookup name

/-- carries something out for a command that messages name -/
def calling (s : State) (caller : String) (act : State → State) : State :=
  { act { s with caller := caller } with caller := s.caller }

/-- runs a program in the place of the script -/
def startInstead (run : Runner) (line : Nat) (s : State) (words : List Bytes) : State :=
  match words with
  | [] => s
  | word :: args =>
    let name := Text.ofUtf8Lossy word
    match systemTool? name with
    | some tool => tool s line args
    | none =>
      match programTools.lookup name with
      | some tool => tool s line args
      | none => startProgram run s line "exec: " name args

/-- reads a file and runs it as a part of the script -/
def runFile (run : Runner) (checked : Bool) (s : State) (line : Nat) (args : List Bytes) : State :=
  let path := Text.ofUtf8Lossy (args.headD [])
  if !path.contains '/' then s.fails line (".: " ++ path ++ ": not found")
  else
    match s.tree.read s.base path with
    | .ok content =>
      let t := calling s (path ++ ": ") fun s =>
        runText run checked (s.ended 0) 1 (Text.ofUtf8Lossy content).toList
      { t with leaving := if t.leaving = some .returns then none else t.leaving }
    | .error _ => s.fails line (".: cannot open " ++ path ++ ": No such file")

/-- carries out a command with its words; `fuel` bounds how often words in front ask for another
command -/
def perform (run : Runner) (checked : Bool) (line : Nat) : Nat → Bool → State → List Bytes → State
  | 0, _, s, _ => s.exits 2
  | _ + 1, _, s, [] => s
  | fuel + 1, functions, s, word :: args =>
    let name := Text.ofUtf8Lossy word
    match specialTools.lookup name, if functions then s.functions.lookup name else none with
    | some tool, _ => tool s line args
    | none, some body => call run checked s body args
    | none, none =>
      match name with
      | "eval" =>
        calling s "eval: " fun s =>
          runText run checked (s.ended 0) 1 (Text.ofUtf8Lossy (args.intersperse [0x20]).flatten).toList
      | "." => runFile run checked s line args
      | "exec" =>
        if args = [] then s.ended 0
        else
          let t := startInstead run line { s with traps := [] } args
          if t.leaving.isSome then t else t.exits t.status
      | "command" =>
        if args.head? = some (utf8 "-v") then
          let wanted := Text.ofUtf8Lossy (args.getD 1 [])
          if (specialTools.lookup wanted).isSome ∨ (shellTools.lookup wanted).isSome then
            (s.put (utf8 (wanted ++ "\n"))).ended 0
          else if (systemTools.lookup wanted).isSome then
            (s.put (utf8 ("/usr/bin/" ++ wanted ++ "\n"))).ended 0
          else s.ended 127
        else perform run checked line fuel false s args
      | _ =>
        match shellTools.lookup name, systemTool? name with
        | some tool, _ => tool s line args
        | none, some tool => tool s line args
        | none, none => startProgram run s line "" name args

/-- words that follow each other in a command that asks for another one; more are not read -/
def commandDepth : Nat := 100

/-- the command is one at whose faults the whole script ends -/
def isSpecial? (words : List Bytes) : Bool :=
  match words.head?.map Text.ofUtf8Lossy with
  | some name => (specialTools.lookup name).isSome || ["eval", ".", "exec"].contains name
  | none => false

/-- writes what runs, if the script asks for it -/
def State.trace (s : State) (assignments : List (String × Bytes)) (words : List Bytes) : State :=
  if s.hasOption 'x' then
    let parts := assignments.map (fun (n, v) => utf8 (n ++ "=") ++ v) ++ words
    s.send 2 (utf8 "+ " ++ (parts.intersperse [0x20]).flatten ++ [0x0A])
  else s

/-- runs a simple command: its words are expanded, its channels led, its variables set -/
def runSimple (run : Runner) (checked : Bool) (before : State) (c : Command) : State :=
  let substitute := substituteBy run
  let (s, words) := expandAll substitute c.line { before with inner := 0 } c.words
  if s.leaving.isSome then s
  else
    let (s, refusal) := s.redirectAll substitute c.line c.redirections
    let special := isSpecial? words
    match refusal with
    | some text =>
      let s := (s.restore before c.redirections).report c.line text
      if special then s.exits 2 else s.ended 2
    | none =>
      let (s, assignments) := c.assignments.foldl (fun (s, all) (name, w) =>
        let (s, value) := expandOne substitute c.line s w
        (s.assign name value, all ++ [(name, value)])) (s, [])
      let led := s.channels
      let s := { s with channels := before.channels }.trace assignments words
      let s := { s with channels := led }
      if s.leaving.isSome then s.restore before c.redirections
      else if words = [] then (s.ended s.inner).restore before c.redirections
      else
        let t := perform run checked c.line commandDepth true s words
        let t := if special then t
          else assignments.foldl (fun t (name, _) =>
            match before.values.lookup name with
            | some value => t.assign name value
            | none => t.unassign name) t
        if words = [utf8 "exec"] then t else t.restore before c.redirections

/-- ends the script if it ends with the first failure and this one is not looked at -/
def State.heedFailure (s : State) (checked : Bool) : State :=
  if !checked && s.hasOption 'e' && s.status != 0 && s.leaving.isNone then s.exits s.status else s

/-- a pattern of a choice stands for the bytes -/
def isChosen (substitute : Substitute) (line : Nat) (s : State) (patterns : List Word)
    (subject : Bytes) : Bool :=
  patterns.any fun w => Element.fits (patternOf (expandField substitute line s w).2) subject

/-- the body of the first way of a choice that fits -/
def chosen? (substitute : Substitute) (line : Nat) (s : State) (subject : Bytes) :
    Statement → Option Statement
  | .arm patterns body others =>
    if isChosen substitute line s patterns subject then some body
    else chosen? substitute line s subject others
  | _ => none

/-- runs a script; `fuel` bounds how deep it goes -/
def evaluate : Nat → Runner
  | 0, _, s, _ => s.exits 2
  | fuel + 1, checked, s, script =>
    let run := evaluate fuel
    match script with
    | .skip => s
    | .simple c =>
      (answerSignals run (runSimple run checked s c)).heedFailure checked
    | .sequence first second =>
      let s := run checked s first
      if s.leaving.isSome then s else run checked s second
    | .both first second =>
      let s := run true s first
      if s.leaving.isSome ∨ s.status ≠ 0 then s else run checked s second
    | .either first second =>
      let s := run true s first
      if s.leaving.isSome ∨ s.status = 0 then s else run checked s second
    | .invert body =>
      let s := run true s body
      if s.leaving.isSome then s else s.ended (if s.status = 0 then 1 else 0)
    | .pipe first second =>
      let (t, bytes) := s.captured fun s => apart run s fun s => run checked s first
      if t.leaving.isSome then t
      else
        let u := apart run { t with input := bytes } fun s => run checked s second
        ({ u with input := t.input }).heedFailure checked
    | .redirected line body redirections =>
      let (t, refusal) := s.redirectAll (substituteBy run) line redirections
      match refusal with
      | some text => ((t.restore s redirections).report line text).ended 2
      | none => (run checked t body).restore s redirections
    | .apart body => (apart run s fun s => run checked s body).heedFailure checked
    | .aside body =>
      let t := apart run { s with input := [] } fun s => run checked s body
      if t.leaving.isSome then t else ({ t with input := s.input }).ended 0
    | .branch condition body otherwise =>
      let s := run true s condition
      if s.leaving.isSome then s
      else if s.status = 0 then run checked s body
      else run checked (s.ended 0) otherwise
    | .loop untilTrue condition body =>
      s.looped (whileHolds untilTrue (run true · condition) (run checked · body) fuel 0)
    | .each line name words body =>
      let (s, values) := match words with
        | some ws => expandAll (substituteBy run) line s ws
        | none => (s, s.arguments)
      if s.leaving.isSome then s
      else (s.ended 0).looped (forEachWord name (run checked · body) values)
    | .choose line subject arms =>
      let (s, value) := expandOne (substituteBy run) line s subject
      if s.leaving.isSome then s
      else match chosen? (substituteBy run) line s value arms with
        | some body => run checked (s.ended 0) body
        | none => s.ended 0
    | .arm _ _ _ => s
    | .define name body =>
      { s with functions := (name, body) :: s.functions.filter (·.1 ≠ name) }.ended 0

end MessageFlow.Script
