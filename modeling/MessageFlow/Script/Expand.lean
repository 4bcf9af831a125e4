import MessageFlow.Script.Arithmetic
import MessageFlow.Script.Glob
import MessageFlow.Script.State

/-!
# Expanding words

The texts that the words of a command stand for when it runs.  What an expansion gives is divided at
the dividers of the script, unless it is quoted; a word that holds patterns stands for files.
-/

namespace MessageFlow.Script

open Text (Bytes utf8)

/-! ### dividing -/

/-- what a text holds that is divided: bytes, and the places between them, at which a word ends in
any case or only if it has begun -/
inductive Portion where
  | bytes (bytes : Bytes)
  | soft
  | hard
  deriving DecidableEq

def isSpace (b : UInt8) : Bool := b = 0x20 || b = 0x09 || b = 0x0A

/-- divides bytes -/
def portions (dividers : Bytes) : Bytes → List Portion
  | [] => []
  | b :: bs =>
    let rest := portions dividers bs
    if dividers.contains b then
      if isSpace b then
        match rest with
        | .soft :: _ => rest
        | .hard :: _ => rest
        | _ => .soft :: rest
      else .hard :: (match rest with
        | .soft :: more => more
        | _ => rest)
    else match rest with
      | .bytes more :: rest => .bytes (b :: more) :: rest
      | _ => .bytes [b] :: rest

/-! ### words in the making -/

/-- the finished words, and the last one if it has begun -/
structure Draft where
  done : List Field
  last : Option Field

namespace Draft

def empty : Draft := ⟨[], none⟩

def add (d : Draft) (f : Field) : Draft := ⟨d.done, some (d.last.getD [] ++ f)⟩

/-- ends the last word if it has begun -/
def finish (d : Draft) : Draft := ⟨d.done ++ d.last.toList, none⟩

/-- adds what an expansion gives -/
def expansion (d : Draft) (dividers bytes : Bytes) (whole : Bool) : Draft :=
  if whole then d.add (marks bytes true)
  else (portions dividers bytes).foldl (fun d p =>
    match p with
    | .bytes bs => d.add (marks bs false)
    | .soft => d.finish
    | .hard => ⟨d.done ++ [d.last.getD []], none⟩) d

/-- adds what the arguments give when each of them is divided -/
def dividedArguments (d : Draft) (dividers : Bytes) : List Bytes → Draft
  | [] => d
  | a :: more =>
    more.foldl (fun d a => d.finish.expansion dividers a false) (d.expansion dividers a false)

/-- adds the arguments, one word for each; where there are none, quotes around them are no word -/
def arguments (d : Draft) : List Bytes → Draft
  | [] => if d.last = some [] then ⟨d.done, none⟩ else d
  | a :: more =>
    more.foldl (fun d a => d.finish.add (marks a true)) (d.add (marks a true))

def fields (d : Draft) : List Field := d.done ++ d.last.toList

end Draft

/-- runs another script, whose first line has a number, for the bytes that it writes -/
abbrev Substitute := State → Nat → List Char → State × Bytes

/-- the output of a substitution without zeros and without the line feeds at its end -/
def chomp (bytes : Bytes) : Bytes := ((bytes.filter (· ≠ 0)).reverse.dropWhile (· = 0x0A)).reverse

/-- the value of a variable as a number, or the value itself if it is none -/
def numberOf (s : State) (name : String) : Except String Int :=
  let text := Text.ofUtf8Lossy ((s.lookup? name).getD [])
  let blank := fun (c : Char) => c = ' ' || ('\t' ≤ c && c ≤ '\r')
  let (sign, cs) := match text.toList.dropWhile blank with
    | '-' :: cs => ((-1 : Int), cs)
    | '+' :: cs => (1, cs)
    | cs => (1, cs)
  let (n, rest) := Arithmetic.readNumber cs
  if rest.all blank then .ok (sign * n) else .error text

/-- sets the variables that an expression has set -/
def assignNumbers (s : State) (changed : List (String × Int)) : State :=
  changed.reverse.foldl (fun s (name, n) => s.assign name (utf8 (toString n))) s

/-- the text has the value nothing for an operation, which may or may not count an empty value so -/
def isMissing (operation : String) (value : Option Bytes) : Bool :=
  match value with
  | none => true
  | some v => operation.startsWith ":" && v.isEmpty

/-- a text between quotes without the quotes inside it -/
def withoutQuotes : List Char → List Char
  | '\\' :: c :: cs => '\\' :: c :: withoutQuotes cs
  | '"' :: cs => withoutQuotes cs
  | c :: cs => c :: withoutQuotes cs
  | [] => []

/-- adds a piece to a word in the making -/
abbrev Adding := State × Draft → Piece → State × Draft

/-- adds a piece to a word in the making; `split` says whether what it gives is divided, and `fuel`
bounds how deep operands are nested -/
def expandPiece (fuel : Nat) (substitute : Substitute) (line : Nat) (split : Bool) : Adding :=
  fun (s, d) piece =>
  let whole := piece.quoted || !split
  let give := fun (s : State) (bytes : Bytes) => (s, d.expansion s.dividers bytes whole)
  match fuel, piece.part with
  | _, .literal text => (s, d.add (marks (utf8 text) piece.quoted))
  | _, .substitution first text =>
    let (s, bytes) := substitute s first text
    give s (chomp bytes)
  | _, .fault => (s.breaksOff line "Bad substitution", d)
  | 0, _ => (s.breaksOff line "Bad substitution", d)
  | fuel + 1, .arithmetic text =>
    let (s, value) := operand (expandPiece fuel substitute line false) line s true text
    let text := Text.ofUtf8Lossy value.bytes
    match Arithmetic.valueOf (numberOf s) text.toList with
    | .ok (n, changed) => give (assignNumbers s changed) (utf8 (toString n))
    | .error fault => (s.breaksOff line (fault.message text), d)
  | fuel + 1, .parameter name operation text =>
    let value := s.lookup? name
    let bytes := value.getD []
    let field := operand (expandPiece fuel substitute line false) line s
    let plain := if piece.quoted then withoutQuotes text else text
    let inPlace := match wordOf line piece.quoted plain with
      | .error _ => (s.breaksOff line "Bad substitution", d)
      | .ok w =>
        w.foldl (fun (s, d) p =>
          match p.part, p.quoted || whole with
          | .literal text, false => (s, d.expansion s.dividers (utf8 text) false)
          | _, _ => expandPiece fuel substitute line split (s, d) p) (s, d)
    match operation with
    | "" =>
      if name = "@" ∧ piece.quoted ∧ split then (s, d.arguments s.arguments)
      else if (name = "@" ∨ name = "*") ∧ ¬ whole then
        (s, d.dividedArguments s.dividers s.arguments)
      else if value.isNone ∧ s.hasOption 'u' ∧ name ≠ "@" ∧ name ≠ "*" then
        (s.breaksOff line (name ++ ": parameter not set"), d)
      else give s bytes
    | "length" => give s (utf8 (toString bytes.length))
    | ":-" | "-" => if isMissing operation value then inPlace else give s bytes
    | ":+" | "+" => if isMissing operation value then (s, d) else inPlace
    | ":=" | "=" =>
      if isMissing operation value then
        let (s, f) := field piece.quoted text
        give (s.assign name f.bytes) f.bytes
      else give s bytes
    | ":?" | "?" =>
      if isMissing operation value then
        let (s, f) := field piece.quoted text
        let message := Text.ofUtf8Lossy f.bytes
        (s.breaksOff line (name ++ ": " ++ if message = "" then "parameter not set" else message), d)
      else give s bytes
    | _ =>
      let (s, f) := field false text
      let cut := if operation.startsWith "%" then cutEnd else cutStart
      give s (cut (patternOf f) (operation.length = 2) bytes)
where
  /-- a text inside an expansion, as one word -/
  operand (add : Adding) (line : Nat) (s : State) (quoted : Bool) (text : List Char) :
      State × Field :=
    match wordOf line quoted text with
    | .error _ => (s.breaksOff line "Bad substitution", [])
    | .ok w =>
      let (s, e) := w.foldl add (s, .empty)
      (s, e.fields.flatten)

/-- how deep operands may be nested -/
def operandDepth : Nat := 40

/-- expands a word that stays one word -/
def expandField (substitute : Substitute) (line : Nat) (s : State) (w : Word) : State × Field :=
  let (s, d) := w.foldl (expandPiece operandDepth substitute line false) (s, .empty)
  (s, d.fields.flatten)

def expandOne (substitute : Substitute) (line : Nat) (s : State) (w : Word) : State × Bytes :=
  let (s, f) := expandField substitute line s w
  (s, f.bytes)

/-- expands the words of a command -/
def expandAll (substitute : Substitute) (line : Nat) (s : State) (ws : List Word) :
    State × List Bytes :=
  ws.foldl (fun (s, words) w =>
    let (s, d) := w.foldl (expandPiece operandDepth substitute line true) (s, .empty)
    let files := fun f => if s.hasOption 'f' then [Field.bytes f] else filesLike s.tree s.base f
    (s, words ++ d.fields.flatMap files)) (s, [])

end MessageFlow.Script
