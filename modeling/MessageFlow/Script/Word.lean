/-!
# Words of scripts

A word is what stands between blanks: letters, quoted parts, and parts that are expanded when the
command runs, such as the value of a variable or the output of other commands.  `readPieces` reads
a word as far as it goes.
-/

namespace MessageFlow.Script

/-- a part of a word -/
inductive Part where
  | literal (text : String)
  /-- the value of a variable, and what is to be done with it -/
  | parameter (name operation : String) (operand : List Char)
  /-- the output of another script, and the number of its first line -/
  | substitution (line : Nat) (text : List Char)
  /-- the value of an expression -/
  | arithmetic (text : List Char)
  /-- braces that hold no variable -/
  | fault
  deriving DecidableEq

structure Piece where
  part : Part
  /-- the piece stands between quotes -/
  quoted : Bool
  deriving DecidableEq

abbrev Word := List Piece

def isBlank (c : Char) : Bool := c = ' ' || c = '\t'

/-- ends a word that is not quoted -/
def isEnd (c : Char) : Bool := isBlank c || "\n;&|<>()".contains c

def isNameChar (c : Char) : Bool := c.isAlphanum || c = '_'

/-- the text can be the name of a variable -/
def isName (cs : List Char) : Bool :=
  match cs with
  | [] => false
  | c :: _ => !c.isDigit && cs.all isNameChar

/-- what a variable of one character may be called -/
def isSpecial (c : Char) : Bool := c.isDigit || "@*#?$!-".contains c

def letter (c : Char) (quoted : Bool) : Piece := ⟨.literal (.ofList [c]), quoted⟩

/-- what stands before a character that closes, and what follows it; quotes and brackets inside are
skipped as a whole.  `fuel` is more than the number of characters. -/
def enclosed : Nat → Char → List Char → Option (List Char × List Char)
  | 0, _, _ => none
  | _, _, [] => none
  | fuel + 1, close, c :: cs =>
    if c = close then some ([], cs)
    else
      let whole := fun (opening : List Char) (closing : Char) (cs : List Char) => do
        let (inside, rest) ← enclosed fuel closing cs
        let (more, rest) ← enclosed fuel close rest
        pure (opening ++ inside ++ closing :: more, rest)
      match c, cs with
      | '\\', d :: cs => do
        let (more, rest) ← enclosed fuel close cs
        pure (c :: d :: more, rest)
      | '$', '(' :: cs =>
        if close = '\x60' then keep fuel close c ('(' :: cs) else whole ['$', '('] ')' cs
      | '$', '\x7b' :: cs =>
        if close = '\x60' then keep fuel close c ('\x7b' :: cs) else whole ['$', '\x7b'] '\x7d' cs
      | '\x60', cs => whole ['\x60'] '\x60' cs
      | '"', cs => if close = '\x60' then keep fuel close c cs else whole ['"'] '"' cs
      | '\'', cs =>
        if close = '"' ∨ close = '\x60' then keep fuel close c cs
        else do
          let inside := cs.takeWhile (· ≠ '\'')
          let (more, rest) ← enclosed fuel close (cs.drop (inside.length + 1))
          pure (c :: inside ++ '\'' :: more, rest)
      | '(', cs => if close = ')' then whole ['('] ')' cs else keep fuel close c cs
      | _, cs => keep fuel close c cs
where
  /-- goes on behind a character that means nothing here -/
  keep (fuel : Nat) (close c : Char) (cs : List Char) : Option (List Char × List Char) :=
    (enclosed fuel close cs).map fun (more, rest) => (c :: more, rest)

/-- what may be done with the value of a variable -/
def operations : List String := [":-", ":=", ":?", ":+", "%%", "##", "-", "=", "?", "+", "%", "#"]

/-- what stands between the braces of a variable -/
def readParameter (cs : List Char) : Option Part :=
  match cs with
  | '#' :: c :: cs =>
    if (cs = [] ∧ isSpecial c) ∨ isName (c :: cs) then
      some (.parameter (.ofList (c :: cs)) "length" [])
    else none
  | cs =>
    let name := match cs with
      | [] => []
      | c :: _ =>
        if c.isDigit then cs.takeWhile Char.isDigit
        else if isSpecial c then [c]
        else cs.takeWhile isNameChar
    if name = [] then none
    else
      let rest := cs.drop name.length
      if rest = [] then some (.parameter (.ofList name) "" [])
      else
        (operations.find? fun o => o.toList.isPrefixOf rest).map fun o =>
          .parameter (.ofList name) o (rest.drop o.length)

/-- the text of a substitution between backquotes, without the backslashes that protect it -/
def unprotected : List Char → List Char
  | '\\' :: c :: cs =>
    if "$\x60\\".contains c then c :: unprotected cs else '\\' :: c :: unprotected cs
  | c :: cs => c :: unprotected cs
  | [] => []

/-- what follows a dollar sign in a line, or what is missing; `quoted` says whether it stands between
double quotes -/
def readExpansion (line : Nat) (quoted : Bool) (cs : List Char) :
    Except String (Part × List Char) :=
  let missing := fun (text : String) =>
    .error (if quoted then "Unterminated quoted string" else text)
  match cs with
  | '(' :: cs =>
    match enclosed (cs.length + 1) ')' cs with
    | none =>
      if cs.head? = some '(' then missing "Missing '))'"
      else missing "end of file unexpected (expecting \")\")"
    | some (inside, rest) =>
      match inside, inside.getLast? with
      | '(' :: inner, some ')' => .ok (.arithmetic inner.dropLast, rest)
      | _, _ => .ok (.substitution line inside, rest)
  | '\x7b' :: cs =>
    match enclosed (cs.length + 1) '\x7d' cs with
    | none => missing "Missing '\x7d'"
    | some (inside, rest) => .ok ((readParameter inside).getD .fault, rest)
  | c :: cs =>
    if isSpecial c then .ok (.parameter (.ofList [c]) "" [], cs)
    else if isNameChar c then
      let name := (c :: cs).takeWhile isNameChar
      .ok (.parameter (.ofList name) "" [], (c :: cs).drop name.length)
    else .ok (.literal "$", c :: cs)
  | [] => .ok (.literal "$", [])

/-- the line that a text is in after some characters, of which the rest is left -/
def lineAfter (line : Nat) (cs rest : List Char) : Nat :=
  line + (cs.take (cs.length - rest.length)).count '\n'

/-- reads the pieces of a word up to a character that stops it, or tells what is missing; `quoted`
says whether they stand between double quotes, `line` is the line that they start in, and `fuel` is
more than the number of characters -/
def readPieces : Nat → Nat → Bool → (Char → Bool) → List Char → Except String (Word × List Char)
  | 0, _, _, _, _ => .error "word unexpected"
  | _ + 1, _, _, _, [] => .ok ([], [])
  | fuel + 1, line, quoted, stop, c :: cs =>
    if stop c then .ok ([], c :: cs)
    else
      let followed := fun (w : Word) (rest : List Char) => do
        let (more, rest) ← readPieces fuel (lineAfter line (c :: cs) rest) quoted stop rest
        pure (w ++ more, rest)
      match c, cs with
      | '\\', d :: rest =>
        if d = '\n' then followed [] rest
        else if quoted ∧ ¬ "$\x60\"\\".contains d then
          followed [letter '\\' true, letter d true] rest
        else followed [letter d true] rest
      | '"', cs =>
        if quoted then followed [letter c true] cs
        else do
          let (inside, rest) ← readPieces fuel line true (· = '"') cs
          match rest with
          | '"' :: rest => followed (⟨.literal "", true⟩ :: inside) rest
          | _ => .error "Unterminated quoted string"
      | '\'', cs =>
        if quoted then followed [letter c true] cs
        else
          let inside := cs.takeWhile (· ≠ '\'')
          match cs.drop inside.length with
          | _ :: rest => followed [⟨.literal (.ofList inside), true⟩] rest
          | [] => .error "Unterminated quoted string"
      | '$', cs => do
        let (part, rest) ← readExpansion line quoted cs
        followed [⟨part, quoted⟩] rest
      | '\x60', cs =>
        match enclosed (cs.length + 1) '\x60' cs with
        | none => .error "EOF in backquote substitution"
        | some (inside, rest) => followed [⟨.substitution 1 (unprotected inside), quoted⟩] rest
      | _, cs => followed [letter c quoted] cs

/-- reads a word of a command -/
def readWord (line : Nat) (cs : List Char) : Except String (Word × List Char) :=
  readPieces (cs.length + 1) line false isEnd cs

/-- a whole text as one word -/
def wordOf (line : Nat) (quoted : Bool) (cs : List Char) : Except String Word :=
  (readPieces (cs.length + 1) line quoted (fun _ => false) cs).map (·.1)

/-- the text of a word without expansions, and whether a part of it is quoted -/
def plainText (w : Word) : String × Bool :=
  w.foldl (fun (t, quoted) p =>
    match p.part with
    | .literal u => (t ++ u, quoted || p.quoted)
    | _ => (t, quoted || p.quoted)) ("", false)

end MessageFlow.Script
