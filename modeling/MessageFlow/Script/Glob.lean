import MessageFlow.FileTree.Basic

/-!
# Patterns of scripts

A word that is compared with texts may hold `*` for any text, `?` for one character and a set
between brackets; what is quoted means itself.  Patterns choose between the ways of a `case`, cut the
ends of values off, and stand for the files whose names they match.
-/

namespace MessageFlow.Script

open Text (Bytes)

/-- a byte of a word, and whether it was quoted -/
structure Mark where
  byte : UInt8
  quoted : Bool
  deriving DecidableEq

abbrev Field := List Mark

def Field.bytes (f : Field) : Bytes := f.map Mark.byte

/-- bytes with the same quoting -/
def marks (bytes : Bytes) (quoted : Bool) : Field := bytes.map (⟨·, quoted⟩)

/-- one part of a pattern -/
inductive Element where
  | byte (b : UInt8)
  | one
  | any
  /-- one of some bytes, or one of the others; they are given by the first and the last of each run -/
  | set (inverted : Bool) (runs : List (UInt8 × UInt8))
  deriving DecidableEq

/-- the runs of a set up to its bracket, and what follows; `first` says that a bracket means itself -/
def readSet : Nat → Bool → Field → Option (List (UInt8 × UInt8) × Field)
  | 0, _, _ => none
  | _ + 1, _, [] => none
  | fuel + 1, first, a :: rest =>
    if a.byte = 0x5D ∧ ¬ a.quoted ∧ ¬ first then some ([], rest)
    else match rest with
      | dash :: b :: more =>
        if dash.byte = 0x2D ∧ ¬ dash.quoted ∧ ¬ (b.byte = 0x5D ∧ ¬ b.quoted) then
          (readSet fuel false more).map fun (runs, rest) => ((a.byte, b.byte) :: runs, rest)
        else (readSet fuel false rest).map fun (runs, rest) => ((a.byte, a.byte) :: runs, rest)
      | _ => (readSet fuel false rest).map fun (runs, rest) => ((a.byte, a.byte) :: runs, rest)

/-- the pattern that a word forms; `fuel` is more than its length -/
def elements : Nat → Field → List Element
  | 0, _ => []
  | _, [] => []
  | fuel + 1, m :: rest =>
    if m.quoted then .byte m.byte :: elements fuel rest
    else if m.byte = 0x2A then .any :: elements fuel rest
    else if m.byte = 0x3F then .one :: elements fuel rest
    else if m.byte = 0x5B then
      let inverted := rest.head?.any fun n => !n.quoted && (n.byte = 0x21 || n.byte = 0x5E)
      match readSet (rest.length + 1) true (if inverted then rest.tail else rest) with
      | some (runs, rest) => .set inverted runs :: elements fuel rest
      | none => .byte m.byte :: elements fuel rest
    else .byte m.byte :: elements fuel rest

def patternOf (f : Field) : List Element := elements (f.length + 1) f

namespace Element

/-- the element stands for the byte -/
def accepts (b : UInt8) : Element → Bool
  | byte c => b = c
  | one => true
  | any => true
  | set inverted runs => (runs.any fun (low, high) => low ≤ b && b ≤ high) != inverted

/-- the pattern stands for all the bytes -/
def fits : List Element → Bytes → Bool
  | [], bs => bs.isEmpty
  | .any :: es, [] => fits es []
  | .any :: es, b :: bs => fits es (b :: bs) || fits (.any :: es) bs
  | _ :: _, [] => false
  | e :: es, b :: bs => e.accepts b && fits es bs
termination_by es bs => es.length + bs.length

end Element

/-- how many bytes at the end are cut off by a pattern: the fewest or the most -/
def cutEnd (pattern : List Element) (most : Bool) (bytes : Bytes) : Bytes :=
  let counts := List.range (bytes.length + 1)
  let counts := if most then counts else counts.reverse
  match counts.find? fun n => Element.fits pattern (bytes.drop n) with
  | some n => bytes.take n
  | none => bytes

/-- what is left when a pattern cuts bytes at the start off: the fewest or the most -/
def cutStart (pattern : List Element) (most : Bool) (bytes : Bytes) : Bytes :=
  let counts := List.range (bytes.length + 1)
  let counts := if most then counts.reverse else counts
  match counts.find? fun n => Element.fits pattern (bytes.take n) with
  | some n => bytes.drop n
  | none => bytes

/-! ### names of files -/

/-- the word stands for names of files -/
def isWild (f : Field) : Bool :=
  f.any fun m => !m.quoted && (m.byte = 0x2A || m.byte = 0x3F || m.byte = 0x5B)

/-- the parts of a word between slashes -/
def partsOf : Field → List Field
  | [] => [[]]
  | m :: rest =>
    if m.byte = 0x2F then [] :: partsOf rest
    else match partsOf rest with
      | [] => [[m]]
      | p :: ps => (m :: p) :: ps

/-- the names in a directory that a part of a word stands for, in their order -/
def namesLike (t : FileTree) (place : Place) (part : Field) : List String :=
  let hidden := part.head?.any fun m => m.byte = 0x2E
  let pattern := patternOf part
  ((t.children place).filter fun n =>
    (hidden || !n.startsWith ".") && Element.fits pattern (Text.utf8 n)).mergeSort fun a b => a ≤ b

/-- the paths that the parts of a word stand for, behind the path so far -/
def pathsLike (t : FileTree) (base : Place) (sofar : String) : List Field → List String
  | [] => [sofar]
  | part :: parts =>
    let here := if sofar = "" then "." else sofar
    let names :=
      if isWild part then
        match t.follow base here with
        | .ok place => namesLike t place part
        | .error _ => []
      else [Text.ofUtf8Lossy part.bytes]
    let slash := if parts = [] then "" else "/"
    (names.flatMap fun n => pathsLike t base (sofar ++ n ++ slash) parts).filter fun path =>
      (t.follow base (if path = "" then "." else path)).toOption.isSome

/-- the files that a word stands for, or the word itself if there are none -/
def filesLike (t : FileTree) (base : Place) (f : Field) : List Bytes :=
  if isWild f then
    match pathsLike t base "" (partsOf f) with
    | [] => [f.bytes]
    | paths => paths.map Text.utf8
  else [f.bytes]

end MessageFlow.Script
