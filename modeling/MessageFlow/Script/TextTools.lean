import MessageFlow.Script.Format
import MessageFlow.Script.Tool

/-!
# Tools for texts

The tools that read files or their input and write what they make of it: whole, in part, changed byte
by byte, in another order, or counted.
-/

namespace MessageFlow.Script

open Text (Bytes utf8)

-- the sum of no numbers is the numeral 0
attribute [local instance (high)] Zero.ofOfNat0

def cat : Tool := fun s _ args =>
  let (s, bytes) := s.joinedContents (options [] args).rest (plainly "cat")
  s.put bytes

/-- writes the input on, and into files as well -/
def tee : Tool := fun s _ args =>
  let o := options [] args
  let bytes := s.input
  let s := { s with input := [] }.put bytes
  s.forEach o.rest fun s path =>
    let before := if o.has 'a' then (s.tree.read s.base path).toOption.getD [] else []
    if path.startsWith "/dev/" then .ok s
    else match s.tree.write s.base path (before ++ bytes) with
      | .ok tree => .ok { s with tree := tree }
      | .error fault => .error (plainly "tee" path fault)

/-! ### the start and the end -/

/-- how many bytes are read at once when lines are looked for -/
def blockSize : Nat := 8192

/-- a count of lines or bytes: whether it counts bytes, its sign, and its size -/
structure Extent where
  bytes : Bool
  sign : Option Char
  size : Nat

/-- the extent that the options ask for; an option of digits counts lines -/
def extentOf (o : Options) : Extent :=
  let given := fun (bytes : Bool) (text : String) =>
    match text.toList with
    | '-' :: digits => (⟨bytes, some '-', (String.ofList digits).toNat?.getD 0⟩ : Extent)
    | '+' :: digits => ⟨bytes, some '+', (String.ofList digits).toNat?.getD 0⟩
    | digits => ⟨bytes, none, (String.ofList digits).toNat?.getD 0⟩
  match o.value? 'c', o.value? 'n' with
  | some text, _ => given true text
  | none, some text => given false text
  | none, none =>
    let digits := (o.set.map (·.1)).takeWhile Char.isDigit
    if digits = [] then ⟨false, none, 10⟩ else given false (.ofList digits)

/-- the start of some bytes -/
def startOf (e : Extent) (bytes : Bytes) : Bytes :=
  if e.bytes then bytes.take (if e.sign = some '-' then bytes.length - e.size else e.size)
  else
    let lines := linesOf bytes
    (lines.take (if e.sign = some '-' then lines.length - e.size else e.size)).flatten

/-- the end of some bytes -/
def endOf (e : Extent) (bytes : Bytes) : Bytes :=
  if e.bytes then bytes.drop (if e.sign = some '+' then e.size - 1 else bytes.length - e.size)
  else
    let lines := linesOf bytes
    (lines.drop (if e.sign = some '+' then e.size - 1 else lines.length - e.size)).flatten

/-- how the tools for ends of files complain -/
def whileOpening (tool path : String) (fault : FileFault) : String :=
  if fault = .isADirectory then tool ++ ": error reading " ++ quoted path ++ ": " ++ faultText fault
  else tool ++ ": cannot open " ++ quoted path ++ " for reading: " ++ faultText fault

/-- writes each file, under its name if there are several -/
def putUnderNames (s : State) (paths : List String) (all : List Bytes) : State :=
  match all, paths with
  | [bytes], _ => s.put bytes
  | _, _ =>
    ((paths.zip all).foldl (fun ((s : State), gap) (path, bytes) =>
      let name := if path = "-" then "standard input" else path
      (s.put (utf8 (gap ++ "==> " ++ name ++ " <==\n") ++ bytes), "\n")) (s, "")).1

/-- writes the start; of the input it takes whole blocks, or as many bytes as it writes -/
def head : Tool := fun s _ args =>
  let o := options ['n', 'c'] args
  let e := extentOf o
  if o.rest = [] then
    let bytes := startOf e s.input
    let taken :=
      if e.sign = some '-' then s.input.length
      else if e.bytes then bytes.length
      else (bytes.length + blockSize - 1) / blockSize * blockSize
    ({ s with input := s.input.drop taken }.put bytes).ended 0
  else
    let (s, all) := s.contents o.rest (whileOpening "head")
    putUnderNames s o.rest (all.map (startOf e))

def tail : Tool := fun s _ args =>
  let o := options ['n', 'c'] args
  let (s, all) := s.contents o.rest (whileOpening "tail")
  putUnderNames s o.rest (all.map (endOf (extentOf o)))

/-! ### counting -/

/-- how many words there are; `inside` says whether one has begun -/
def countWords (inside : Bool) : Bytes → Nat
  | [] => 0
  | b :: bs =>
    let blank := b = 0x20 || (0x09 ≤ b && b ≤ 0x0D)
    (if blank || inside then 0 else 1) + countWords (!blank) bs

def wc : Tool := fun s _ args =>
  let o := options [] args
  let counts := fun (bytes : Bytes) =>
    let all := [('l', bytes.count 0x0A), ('w', countWords false bytes), ('c', bytes.length)]
    let asked := all.filter fun (c, _) => o.has c || (c = 'c' && o.has 'm')
    (if asked = [] then all else asked).map (·.2)
  let (s, all) := s.contents o.rest (plainly "wc")
  let total := (all.map List.length).sum
  let width :=
    if all.length ≤ 1 ∧ (counts []).length = 1 then 1
    else if o.rest = [] ∨ o.rest.contains "-" then 7
    else (toString total).length
  let row := fun (numbers : List Nat) (name : String) =>
    let cells := numbers.map fun n =>
      let digits := toString n
      String.ofList (List.replicate (width - digits.length) ' ') ++ digits
    utf8 (" ".intercalate (cells ++ if name = "" then [] else [name]) ++ "\n")
  let names := if o.rest = [] then [""] else o.rest
  let s := (names.zip all).foldl (fun s (name, bytes) => s.put (row (counts bytes) name)) s
  if all.length < 2 then s
  else
    let sums := all.foldl (fun sums bytes => sums.zipWith (· + ·) (counts bytes)) [0, 0, 0]
    s.put (row sums "total")

/-! ### byte by byte -/

/-- the bytes between two, with both -/
def span (low high : UInt8) : Bytes :=
  (List.range (high.toNat + 1 - low.toNat)).map fun n => low + UInt8.ofNat n

/-- sets of bytes that have a name -/
def classes : List (String × Bytes) :=
  let digits := span 0x30 0x39
  let upper := span 0x41 0x5A
  let lower := span 0x61 0x7A
  [("digit", digits), ("upper", upper), ("lower", lower), ("alpha", upper ++ lower),
    ("alnum", digits ++ upper ++ lower), ("blank", [0x09, 0x20]),
    ("space", span 0x09 0x0D ++ [0x20]),
    ("punct", span 0x21 0x2F ++ span 0x3A 0x40 ++ span 0x5B 0x60 ++ span 0x7B 0x7E),
    ("cntrl", span 0x00 0x1F ++ [0x7F]), ("print", span 0x20 0x7E), ("graph", span 0x21 0x7E),
    ("xdigit", digits ++ span 0x41 0x46 ++ span 0x61 0x66)]

/-- one byte of a set, with its escape carried out -/
def readByte : List Char → Option (Bytes × List Char)
  | [] => none
  | '\\' :: c :: rest =>
    let digits := octalDigits (c :: rest)
    match escapes.lookup c with
    | some b => some ([b], rest)
    | none =>
      if digits = [] then some (String.utf8EncodeChar c, rest)
      else some ([UInt8.ofNat (ofOctal digits)], (c :: rest).drop digits.length)
  | c :: rest => some (String.utf8EncodeChar c, rest)

/-- the bytes of a set; `fuel` is more than the number of characters -/
def bytesOfSet : Nat → List Char → Bytes
  | 0, _ => []
  | _, [] => []
  | fuel + 1, cs =>
    match cs with
    | '[' :: ':' :: rest =>
      let name := rest.takeWhile (· ≠ ':')
      match classes.lookup (.ofList name) with
      | some bytes => bytes ++ bytesOfSet fuel (rest.drop (name.length + 2))
      | none => 0x5B :: bytesOfSet fuel (':' :: rest)
    | _ =>
      match readByte cs with
      | none => []
      | some (first, rest) =>
        match rest with
        | '-' :: c :: more =>
          match first, readByte (c :: more) with
          | [low], some ([high], rest) => span low high ++ bytesOfSet fuel rest
          | _, _ => first ++ bytesOfSet fuel rest
        | _ => first ++ bytesOfSet fuel rest

/-- leaves one of each run of equal bytes in a set -/
def squeeze (set : Bytes) (before : Option UInt8) : Bytes → Bytes
  | [] => []
  | b :: bs =>
    if before = some b ∧ set.contains b then squeeze set before bs
    else b :: squeeze set (some b) bs

/-- replaces, takes away or squeezes bytes of the input -/
def tr : Tool := fun s _ args =>
  let letters := args.takeWhile fun a => a.head? = some 0x2D && a.length > 1
  let o := options [] letters
  let sets := (args.drop letters.length).map fun a =>
    let cs := (Text.ofUtf8Lossy a).toList
    bytesOfSet (cs.length + 1) cs
  let given := sets.headD []
  let first :=
    if o.has 'c' || o.has 'C' then (span 0x00 0xFF).filter fun b => !given.contains b else given
  let second := sets.getD 1 []
  let filled := second ++ List.replicate (first.length - second.length) (second.getLast?.getD 0)
  let table := (first.zip filled).reverse
  let input := s.input
  let changed :=
    if o.has 'd' then input.filter fun b => !first.contains b
    else if sets.length < 2 then input
    else input.map fun b => (table.lookup b).getD b
  let last := if sets.length < 2 then first else second
  ({ s with input := [] }.put (if o.has 's' then squeeze last none changed else changed)).ended 0

/-! ### by lines -/

/-- the places that a list of ranges holds -/
def inRanges (list : String) (place : Nat) : Bool :=
  (list.splitOn ",").any fun range =>
    match range.splitOn "-" with
    | [n] => n.toNat? = some place
    | [low, high] => low.toNat?.getD 1 ≤ place && (high.toNat?.all fun n => place ≤ n)
    | _ => false

/-- the parts of a line between separators -/
def partsBetween (separator : UInt8) : Bytes → List Bytes
  | [] => [[]]
  | b :: bs =>
    if b = separator then [] :: partsBetween separator bs
    else match partsBetween separator bs with
      | [] => [[b]]
      | part :: parts => (b :: part) :: parts

/-- the members of a list whose places, from one on, are in some ranges -/
def select {α : Type} (list : String) (members : List α) : List α :=
  (members.zipIdx 1).filterMap fun (a, n) => if inRanges list n then some a else none

def cut : Tool := fun s _ args =>
  let o := options ['d', 'f', 'c', 'b'] args
  let (s, bytes) := s.joinedContents o.rest (plainly "cut")
  let separator := ((o.value? 'd').bind fun d => (utf8 d).head?).getD 0x09
  s.put ((linesOf bytes).flatMap fun line =>
    let line := bare line
    match o.value? 'f' with
    | none => select (((o.value? 'c').or (o.value? 'b')).getD "") line ++ [0x0A]
    | some list =>
      if !line.contains separator then if o.has 's' then [] else line ++ [0x0A]
      else ((select list (partsBetween separator line)).intersperse [separator]).flatten ++ [0x0A])

/-- compares bytes as the tools do -/
def isBefore : Bytes → Bytes → Bool
  | [], _ => true
  | _ :: _, [] => false
  | a :: as, b :: bs => a < b || (a = b && isBefore as bs)

/-- the number at the start of a line -/
def leadingNumber (line : Bytes) : Int :=
  match (Text.ofUtf8Lossy line).toList.dropWhile isBlank with
  | '-' :: cs => -((String.ofList (cs.takeWhile Char.isDigit)).toNat?.getD 0 : Int)
  | cs => ((String.ofList (cs.takeWhile Char.isDigit)).toNat?.getD 0 : Int)

/-- leaves the first of lines that follow each other and have the same key -/
def firsts {α : Type} [DecidableEq α] (key : Bytes → α) (before : Option α) :
    List Bytes → List Bytes
  | [] => []
  | line :: lines =>
    if before = some (key line) then firsts key before lines
    else line :: firsts key (some (key line)) lines

def sort : Tool := fun s _ args =>
  let o := options [] args
  let (s, all) := s.contents o.rest fun path fault =>
    "sort: cannot read: " ++ path ++ ": " ++ faultText fault
  let lines := all.flatMap fun bytes => (linesOf bytes).map bare
  let ranked := lines.mergeSort fun a b =>
    if o.has 'n' ∧ leadingNumber a ≠ leadingNumber b then leadingNumber a ≤ leadingNumber b
    else isBefore a b
  let ranked :=
    if !o.has 'u' then ranked
    else if o.has 'n' then firsts leadingNumber none ranked
    else firsts id none ranked
  let ranked := if o.has 'r' then ranked.reverse else ranked
  s.put (ranked.flatMap (· ++ [0x0A]))

/-- the lines with how often each one stands there in a row -/
def runsOf : List Bytes → List (Nat × Bytes)
  | [] => []
  | line :: lines =>
    match runsOf lines with
    | (n, other) :: more =>
      if line = other then (n + 1, line) :: more else (1, line) :: (n, other) :: more
    | [] => [(1, line)]

def uniq : Tool := fun s _ args =>
  let o := options [] args
  let (s, bytes) := s.joinedContents (o.rest.take 1) (plainly "uniq")
  let runs := (runsOf ((linesOf bytes).map bare)).filter fun (n, _) =>
    !(o.has 'd' && n < 2) && !(o.has 'u' && n > 1)
  s.put (runs.flatMap fun (n, line) =>
    let digits := toString n
    let count := String.ofList (List.replicate (7 - digits.length) ' ') ++ digits ++ " "
    (if o.has 'c' then utf8 count else []) ++ line ++ [0x0A])

/-! ### texts from arguments -/

/-- numbers in a row -/
def seq : Tool := fun s _ args =>
  let numbers := args.map fun a => ((Text.ofUtf8Lossy a).toInt?).getD 0
  let (first, step, last) := match numbers with
    | [last] => (1, 1, last)
    | [first, last] => (first, 1, last)
    | [first, step, last] => (first, step, last)
    | _ => ((1 : Int), (1 : Int), (0 : Int))
  let count := if step = 0 then 0 else ((last - first).tdiv step + 1).toNat
  let count := if (0 < step ∧ last < first) ∨ (step < 0 ∧ first < last) then 0 else count
  (s.put ((List.range count).flatMap fun (n : Nat) =>
    utf8 (toString (first + n * step) ++ "\n"))).ended 0

/-- a path without slashes at its end -/
def withoutSlashes (path : String) : String :=
  let kept := (path.toList.reverse.dropWhile (· = '/')).reverse
  if kept = [] ∧ path ≠ "" then "/" else .ofList kept

def basename : Tool := fun s _ args =>
  let args := args.map Text.ofUtf8Lossy
  let name := ((withoutSlashes (args.headD "")).splitOn "/").getLast?.getD ""
  let name := if name = "" ∧ args.headD "" ≠ "" then "/" else name
  let ending := args.getD 1 ""
  let name := if name.endsWith ending ∧ name ≠ ending then (name.dropEnd ending.length).toString
    else name
  (s.put (utf8 (name ++ "\n"))).ended 0

def dirname : Tool := fun s _ args =>
  (args.map Text.ofUtf8Lossy).foldl (fun s path =>
    let path := withoutSlashes path
    let parent := match (path.splitOn "/").dropLast with
      | [] => if path = "/" then "/" else "."
      | parts => withoutSlashes (if parts = [""] then "/" else "/".intercalate parts)
    s.put (utf8 (parent ++ "\n"))) (s.ended 0)

end MessageFlow.Script
