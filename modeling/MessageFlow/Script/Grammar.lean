import MessageFlow.Script.Word

/-!
# Scripts

The shell language that layout programs are written in: simple commands with assignments and
redirections, joined by `;`, `|`, `&&` and `||`, conditionals, loops, choices, groups and functions.
`unitsOf` reads a text line by line, up to the line that cannot be read.
-/

namespace MessageFlow.Script

inductive Redirection where
  /-- into a file, over its content or behind it -/
  | write (channel : Nat) (behind : Bool) (target : Word)
  | read (channel : Nat) (source : Word)
  /-- to where another channel goes -/
  | copy (channel : Nat) (other : Word)
  /-- from a text of the script -/
  | here (channel : Nat) (text : Word)
  deriving DecidableEq

/-- a command with its words, and the line it stands in -/
structure Command where
  line : Nat
  assignments : List (String × Word)
  words : List Word
  redirections : List Redirection
  deriving DecidableEq

/-- commands that are put together -/
inductive Statement where
  | skip
  | simple (command : Command)
  | sequence (first second : Statement)
  | both (first second : Statement)
  | either (first second : Statement)
  | invert (body : Statement)
  | pipe (first second : Statement)
  | redirected (line : Nat) (body : Statement) (redirections : List Redirection)
  /-- what changes only files when it runs -/
  | apart (body : Statement)
  /-- what runs beside the commands after it, without input -/
  | aside (body : Statement)
  | branch (condition body otherwise : Statement)
  | loop (untilTrue : Bool) (condition body : Statement)
  /-- once for each word, or for each argument -/
  | each (line : Nat) (name : String) (words : Option (List Word)) (body : Statement)
  | choose (line : Nat) (subject : Word) (arms : Statement)
  /-- one way of a choice, and the ways after it -/
  | arm (patterns : List Word) (body others : Statement)
  | define (name : String) (body : Statement)

/-- why a text cannot be read, and in which line -/
structure Fault where
  line : Nat
  text : String
  deriving DecidableEq

/-- what is left of a text that is being read: the characters, the line they start in, and how many
lines more the next line feed stands for -/
structure Source where
  rest : List Char
  line : Nat
  held : Nat

namespace Source

/-- goes on behind a line feed -/
def feed (p : Source) (rest : List Char) : Source := ⟨rest, p.line + 1 + p.held, 0⟩

/-- skips blanks, joined lines and a comment -/
def skipBlanks : Nat → Source → Source
  | 0, p => p
  | fuel + 1, p =>
    match p.rest with
    | '\\' :: '\n' :: cs => skipBlanks fuel { p with rest := cs, line := p.line + 1 }
    | '#' :: cs => { p with rest := cs.dropWhile (· ≠ '\n') }
    | c :: cs => if isBlank c then skipBlanks fuel { p with rest := cs } else p
    | [] => p

def next (p : Source) : Source := p.skipBlanks (p.rest.length + 1)

/-- skips blanks, comments and line feeds -/
def skipLines : Nat → Source → Source
  | 0, p => p
  | fuel + 1, p =>
    let p := p.next
    match p.rest with
    | '\n' :: cs => skipLines fuel (p.feed cs)
    | _ => p

def nextLine (p : Source) : Source := p.skipLines (p.rest.length + 1)

/-- the characters of a word as they stand there -/
def bareWord (p : Source) : List Char := p.rest.takeWhile fun c => !isEnd c

/-- goes on behind one of these words -/
def keyword? (p : Source) (words : List String) : Option (String × Source) :=
  let word := String.ofList p.bareWord
  if words.contains word then some (word, { p with rest := p.rest.drop word.length }) else none

/-- words that end a list of commands -/
def closers : List String := ["then", "else", "elif", "fi", "do", "done", "esac", "\x7d"]

/-- words that mean something where a command starts -/
def keywords : List String := closers ++ ["!", "case", "for", "if", "until", "while", "\x7b"]

/-- marks that stand by themselves, the longer ones first -/
def marks : List String := [";;", "&&", "||", ";", "&", "|", "(", ")"]

/-- what stands next, in messages -/
def token (p : Source) : String :=
  let cs := p.next.rest
  let inQuotes := fun (text : String) => "\"" ++ text ++ "\""
  match cs with
  | [] => "end of file"
  | '\n' :: _ => "newline"
  | _ =>
    match marks.find? fun m => m.toList.isPrefixOf cs with
    | some m => inQuotes m
    | none =>
      if ((cs.dropWhile Char.isDigit).head?.any fun c => c = '<' || c = '>') then "redirection"
      else
        match p.next.keyword? keywords with
        | some (word, _) => inQuotes word
        | none => "word"

/-- a fault about what stands next; behind a line feed the line is the one after it -/
def fault (p : Source) (text : String) : Fault :=
  let p := p.next
  ⟨if p.rest.head? = some '\n' then p.line + 1 + p.held else p.line, text⟩

/-- the fault that something does not belong where it stands -/
def unexpected (p : Source) : Fault := p.fault (p.token ++ " unexpected")

/-- the fault that something stands in the place of something else -/
def insteadOf (p : Source) (expected : String) : Fault :=
  p.fault (p.token ++ " unexpected (expecting " ++ expected ++ ")")

/-- goes on behind a word that must stand there -/
def expect (p : Source) (word : String) : Except Fault Source :=
  match p.nextLine.keyword? [word] with
  | some (_, p) => .ok p
  | none => .error (p.nextLine.insteadOf ("\"" ++ word ++ "\""))

/-- reads a word; where it is broken off, the text has come to its end -/
def word (p : Source) : Except Fault (Word × Source) :=
  match readWord p.line p.rest with
  | .ok (w, rest) => .ok (w, { p with rest := rest, line := lineAfter p.line p.rest rest })
  | .error text => .error ⟨p.line + p.held + p.rest.count '\n', text⟩

def isOver (p : Source) : Bool :=
  match p.rest with
  | [] => true
  | ')' :: _ => true
  | ';' :: ';' :: _ => true
  | _ => (p.keyword? closers).isSome

end Source

/-! ### simple commands -/

/-- the name and the value of a word that assigns -/
def assignment? (cs : List Char) (w : Word) : Option (String × Word) :=
  let name := cs.takeWhile isNameChar
  match cs.drop name.length with
  | '=' :: _ => if isName name then some (.ofList name, w.drop (name.length + 1)) else none
  | _ => none

/-- the lines of a text up to one that closes it, and what follows; the count is of the lines -/
def takeDocument (strip : Bool) (close : String) :
    Nat → Nat → List Char → List Char × List Char × Nat
  | 0, count, cs => ([], cs, count)
  | fuel + 1, count, cs =>
    match cs with
    | [] => ([], [], count)
    | _ =>
      let line := cs.takeWhile (· ≠ '\n')
      let rest := cs.drop (line.length + 1)
      let line := if strip then line.dropWhile (· = '\t') else line
      if line = close.toList then ([], rest, count + 1)
      else
        let (more, rest, count) := takeDocument strip close fuel (count + 1) rest
        (line ++ '\n' :: more, rest, count)

/-- a text in the lines behind the one that asks for it -/
def readDocument (p : Source) (channel : Nat) (strip : Bool) :
    Except Fault (Redirection × Source) := do
  let (w, q) ← p.next.word
  if w = [] then .error q.unexpected
  else
    let (close, quoted) := plainText w
    let line := q.rest.takeWhile (· ≠ '\n')
    let below := q.rest.drop (line.length + 1)
    let (text, after, count) := takeDocument strip close (below.length + 1) 0 below
    let body ← if quoted then .ok [⟨.literal (.ofList text), true⟩]
      else (wordOf (q.line + 1 + q.held) true text).mapError fun text => ⟨q.line + count, text⟩
    pure (.here channel body, ⟨line ++ '\n' :: after, q.line, q.held + count⟩)

/-- a redirection, if one stands there -/
def readRedirection (p : Source) : Except Fault (Option (Redirection × Source)) :=
  let digits := p.rest.takeWhile Char.isDigit
  let number := (String.ofList digits).toNat?
  let target := fun (make : Word → Redirection) (cs : List Char) => do
    let (w, q) ← ({ p with rest := cs } : Source).next.word
    if w = [] then .error q.unexpected else pure (some (make w, q))
  match p.rest.drop digits.length with
  | '>' :: '&' :: cs => target (.copy (number.getD 1)) cs
  | '>' :: '>' :: cs => target (.write (number.getD 1) true) cs
  | '>' :: '|' :: cs => target (.write (number.getD 1) false) cs
  | '>' :: cs => target (.write (number.getD 1) false) cs
  | '<' :: '<' :: '-' :: cs =>
    (readDocument { p with rest := cs } (number.getD 0) true).map some
  | '<' :: '<' :: cs => (readDocument { p with rest := cs } (number.getD 0) false).map some
  | '<' :: '&' :: cs => target (.copy (number.getD 0)) cs
  | '<' :: cs => target (.read (number.getD 0)) cs
  | _ => .ok none

/-- reads a simple command; `fuel` is more than the number of characters -/
def readSimple : Nat → Command → Source → Except Fault (Command × Source)
  | 0, _, p => .error p.unexpected
  | fuel + 1, c, p => do
    let p := p.next
    match ← readRedirection p with
    | some (r, p) => readSimple fuel { c with redirections := c.redirections ++ [r] } p
    | none =>
      match p.rest with
      | [] => pure (c, p)
      | x :: _ =>
        if isEnd x then pure (c, p)
        else
          let (w, q) ← p.word
          match if c.words = [] then assignment? p.rest w else none with
          | some a => readSimple fuel { c with assignments := c.assignments ++ [a] } q
          | none => readSimple fuel { c with words := c.words ++ [w] } q

/-- the redirections behind a command -/
def readRedirections : Nat → List Redirection → Source → Except Fault (List Redirection × Source)
  | 0, _, p => .error p.unexpected
  | fuel + 1, rs, p => do
    match ← readRedirection p.next with
    | some (r, p) => readRedirections fuel (rs ++ [r]) p
    | none => pure (rs, p)

/-- the name of a function that is defined there, and what follows its parentheses -/
def functionName? (p : Source) : Except Fault (Option (String × Source)) :=
  let name := p.bareWord
  match (p.rest.drop name.length).dropWhile isBlank with
  | '(' :: cs =>
    if name = [] ∨ (assignment? name []).isSome then .ok none
    else
      let q := ({ p with rest := cs } : Source).next
      match q.rest with
      | ')' :: cs =>
        if isName name then .ok (some (.ofList name, { q with rest := cs }))
        else .error (q.fault "Bad function name")
      | _ => .error (q.insteadOf "\")\"")
  | _ => .ok none

/-- words up to the end of a line -/
def readWords : Nat → List Word → Source → Except Fault (List Word × Source)
  | 0, _, p => .error p.unexpected
  | fuel + 1, ws, p =>
    let p := p.next
    match p.rest with
    | [] => .ok (ws, p)
    | c :: _ =>
      if isEnd c then .ok (ws, p)
      else do
        let (w, q) ← p.word
        readWords fuel (ws ++ [w]) q

/-- the patterns of one way of a choice, up to the parenthesis behind them -/
def readPatterns : Nat → List Word → Source → Except Fault (List Word × Source)
  | 0, _, p => .error p.unexpected
  | fuel + 1, ws, p => do
    let (w, q) ← p.next.word
    let q := q.next
    match q.rest with
    | '|' :: cs => readPatterns fuel (ws ++ [w]) { q with rest := cs }
    | ')' :: cs =>
      if w = [] then .error q.unexpected else pure (ws ++ [w], { q with rest := cs })
    | _ => .error (q.insteadOf "\")\"")

/-! ### commands -/

mutual

/-- reads commands up to the end or a word that closes them; `empty` says that there may be none,
and `fuel` bounds the steps -/
def readList : Nat → Bool → Source → Except Fault (Statement × Source)
  | 0, _, p => .error p.unexpected
  | fuel + 1, empty, p => do
    let p := p.nextLine
    if p.isOver then
      if empty ∨ p.rest = [] then pure (.skip, p) else .error p.unexpected
    else
      let (a, p) ← readJoined fuel p
      match p.next.rest with
      | ';' :: ';' :: _ => pure (a, p.next)
      | ';' :: cs => more fuel a { p.next with rest := cs }
      | '&' :: cs => more fuel (.aside a) { p.next with rest := cs }
      | '\n' :: _ => more fuel a p.next
      | _ => pure (a, p.next)
where
  /-- goes on with the commands after one -/
  more (fuel : Nat) (a : Statement) (p : Source) : Except Fault (Statement × Source) :=
    (readList fuel true p).map fun (b, p) => (.sequence a b, p)

/-- reads commands that are joined by `&&` and `||` -/
def readJoined : Nat → Source → Except Fault (Statement × Source)
  | 0, p => .error p.unexpected
  | fuel + 1, p => do
    let (a, p) ← readPipeline fuel p
    readJoins fuel a p

def readJoins : Nat → Statement → Source → Except Fault (Statement × Source)
  | 0, _, p => .error p.unexpected
  | fuel + 1, a, p =>
    match p.next.rest with
    | '&' :: '&' :: cs => do
      let (b, p) ← readPipeline fuel ({ p.next with rest := cs } : Source).nextLine
      readJoins fuel (.both a b) p
    | '|' :: '|' :: cs => do
      let (b, p) ← readPipeline fuel ({ p.next with rest := cs } : Source).nextLine
      readJoins fuel (.either a b) p
    | _ => .ok (a, p)

def readPipeline : Nat → Source → Except Fault (Statement × Source)
  | 0, p => .error p.unexpected
  | fuel + 1, p =>
    match p.next.keyword? ["!"] with
    | some (_, p) => (readBars fuel p).map fun (a, p) => (.invert a, p)
    | none => readBars fuel p

/-- reads commands with bars between them -/
def readBars : Nat → Source → Except Fault (Statement × Source)
  | 0, p => .error p.unexpected
  | fuel + 1, p => do
    let (a, p) ← readCommand fuel p.next
    match p.next.rest with
    | '|' :: '|' :: _ => pure (a, p)
    | '|' :: cs => do
      let (b, p) ← readBars fuel ({ p.next with rest := cs } : Source).nextLine
      pure (.pipe a b, p)
    | _ => pure (a, p)

def readCommand : Nat → Source → Except Fault (Statement × Source)
  | 0, p => .error p.unexpected
  | fuel + 1, p =>
    let line := p.line
    let redirect := fun (a : Statement) (p : Source) => do
      let (rs, p) ← readRedirections (p.rest.length + 1) [] p
      pure (if rs = [] then a else .redirected line a rs, p)
    match p.keyword? Source.keywords with
    | some ("if", p) => do
      let (a, p) ← readBranches fuel p
      redirect a p
    | some ("for", p) => do
      let (a, p) ← readEach fuel p
      redirect a p
    | some ("case", p) => do
      let (w, q) ← p.next.word
      if w = [] then .error (p.insteadOf "word")
      else
        let (arms, p) ← readArms fuel (← q.expect "in")
        redirect (.choose line w arms) p
    | some ("\x7b", p) => do
      let (a, p) ← readList fuel false p
      redirect a (← p.expect "\x7d")
    | some ("while", p) => readLoop fuel false redirect p
    | some ("until", p) => readLoop fuel true redirect p
    | some _ => .error p.unexpected
    | none =>
      match p.rest with
      | '(' :: cs => do
        let (a, p) ← readList fuel false { p with rest := cs }
        match p.nextLine.rest with
        | ')' :: cs => redirect (.apart a) { p.nextLine with rest := cs }
        | _ => .error (p.nextLine.insteadOf "\")\"")
      | _ => do
        match ← functionName? p with
        | some (name, p) =>
          let (a, p) ← readCommand fuel p.nextLine
          pure (.define name a, p)
        | none =>
          let (c, q) ← readSimple (p.rest.length + 1) ⟨line, [], [], []⟩ p
          if c.words = [] ∧ c.assignments = [] ∧ c.redirections = [] then .error p.unexpected
          else pure (.simple c, q)

/-- the rest of a loop behind `while` or `until` -/
def readLoop : Nat → Bool → (Statement → Source → Except Fault (Statement × Source)) → Source →
    Except Fault (Statement × Source)
  | 0, _, _, p => .error p.unexpected
  | fuel + 1, untilTrue, finish, p => do
    let (c, p) ← readList fuel false p
    let (a, p) ← readList fuel false (← p.expect "do")
    finish (.loop untilTrue c a) (← p.expect "done")

/-- the rest of a conditional behind `if` -/
def readBranches : Nat → Source → Except Fault (Statement × Source)
  | 0, p => .error p.unexpected
  | fuel + 1, p => do
    let (c, p) ← readList fuel false p
    let (a, p) ← readList fuel false (← p.expect "then")
    match p.nextLine.keyword? ["elif", "else"] with
    | some ("elif", p) =>
      let (b, p) ← readBranches fuel p
      pure (.branch c a b, p)
    | some (_, p) =>
      let (b, p) ← readList fuel false p
      pure (.branch c a b, ← p.expect "fi")
    | none => pure (.branch c a .skip, ← p.expect "fi")

/-- the rest of a loop behind `for` -/
def readEach : Nat → Source → Except Fault (Statement × Source)
  | 0, p => .error p.unexpected
  | fuel + 1, p => do
    let line := p.line
    let name := p.next.bareWord
    if ¬ isName name then .error (p.fault "Bad for loop variable")
    else
      let p : Source := { p.next with rest := p.next.rest.drop name.length }
      let (words, p) ← match p.nextLine.keyword? ["in"] with
        | some (_, p) => do
          let (ws, p) ← readWords (p.rest.length + 1) [] p
          match p.rest with
          | ';' :: ';' :: _ => .error p.unexpected
          | ';' :: cs => pure (some ws, { p with rest := cs })
          | '\n' :: _ => pure (some ws, p)
          | _ => .error p.unexpected
        | none =>
          match p.next.rest with
          | ';' :: cs => pure (none, { p.next with rest := cs })
          | _ => pure (none, p)
      let (a, p) ← readList fuel false (← p.expect "do")
      pure (.each line (.ofList name) words a, ← p.expect "done")

/-- the ways of a choice up to the word that ends it -/
def readArms : Nat → Source → Except Fault (Statement × Source)
  | 0, p => .error p.unexpected
  | fuel + 1, p =>
    match p.nextLine.keyword? ["esac"] with
    | some (_, p) => .ok (.skip, p)
    | none => do
      let p := p.nextLine
      let p := match p.rest with
        | '(' :: cs => { p with rest := cs }
        | _ => p
      let (ws, p) ← readPatterns (p.rest.length + 1) [] p
      let (a, p) ← readList fuel true p
      let p := p.nextLine
      match p.rest, p.keyword? ["esac"] with
      | ';' :: ';' :: cs, _ =>
        let (others, p) ← readArms fuel { p with rest := cs }
        pure (.arm ws a others, p)
      | _, some (_, p) => pure (.arm ws a .skip, p)
      | _, none => .error (p.insteadOf "\";;\"")

end

/-- the commands of one line, or of the lines that belong together -/
def readUnit (p : Source) : Except Fault (Statement × Source) :=
  go (p.rest.length + 1) p
where
  /-- reads commands up to a line feed -/
  go : Nat → Source → Except Fault (Statement × Source)
    | 0, p => .error p.unexpected
    | fuel + 1, p => do
      let (a, p) ← readJoined (8 * p.rest.length + 8) p
      let after := fun (a : Statement) (cs : List Char) => do
        let q := ({ p.next with rest := cs } : Source).next
        match q.rest with
        | [] => pure (a, q)
        | '\n' :: _ => pure (a, q)
        | _ =>
          let (b, q) ← go fuel q
          pure (.sequence a b, q)
      match p.next.rest with
      | [] => pure (a, p.next)
      | '\n' :: _ => pure (a, p.next)
      | ';' :: ';' :: _ => .error p.unexpected
      | ';' :: cs => after a cs
      | '&' :: cs => after (.aside a) cs
      | _ => .error p.unexpected

/-- the lines of a text, and why the rest cannot be read if it cannot; `fuel` is more than the
number of characters -/
def readUnits : Nat → Source → List Statement × Option Fault
  | 0, p => ([], some p.unexpected)
  | fuel + 1, p =>
    let p := p.nextLine
    if p.rest = [] then ([], none)
    else match readUnit p with
      | .error fault => ([], some fault)
      | .ok (a, p) =>
        let (more, fault) := readUnits fuel p
        (a :: more, fault)

/-- the lines of a script whose first line has a number, and why the rest cannot be read if it
cannot -/
def unitsOf (line : Nat) (cs : List Char) : List Statement × Option Fault :=
  readUnits (cs.length + 1) ⟨cs, line, 0⟩

end MessageFlow.Script
