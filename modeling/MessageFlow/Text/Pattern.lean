import MessageFlow.Text.Alphanumeric

/-!
# Search patterns

`isPattern` tells whether a text is a search pattern: literals, the dot, anchors, classes between
brackets, groups, alternatives, and the repetitions `?`, `*` and `+`.  Braces, which ask for a
counted repetition or name a character or a property, are not part of these patterns, and neither
are the boundaries of words and the classes that would need all the letters of the Unicode standard.
-/

namespace MessageFlow.Text

namespace Pattern

/-- how the letters of a pattern are read -/
structure Mode where
  /-- by characters and not by bytes -/
  unicode : Bool
  /-- capital and small letters count as the same -/
  foldsCase : Bool
  deriving DecidableEq

/-- reading is by characters at first, and letters have to be the same -/
def Mode.standard : Mode := ⟨true, false⟩

/-- whether single characters can be told from others -/
def Mode.comparesCharacters (m : Mode) : Bool := !(m.unicode && m.foldsCase)

/-- what a backslash makes of the characters behind it -/
inductive Escape where
  | literal (c : Char)
  /-- a class of characters, or the characters outside of one -/
  | kind (outside : Bool)
  /-- the start or the end of the text -/
  | anchor
  /-- where a word starts or ends, or where none does -/
  | wordBoundary (outside : Bool)
  deriving DecidableEq

def hexValue? (digits : List Char) : Option Nat :=
  digits.foldl (fun n c => do
    let n ← n
    if c.isDigit then some (n * 16 + (c.toNat - '0'.toNat))
    else if 'a' ≤ c ∧ c ≤ 'f' then some (n * 16 + (c.toNat - 'a'.toNat + 10))
    else if 'A' ≤ c ∧ c ≤ 'F' then some (n * 16 + (c.toNat - 'A'.toNat + 10))
    else none) (some 0)

/-- a character by its number, which has so many digits -/
def readNumbered (digits : Nat) (cs : List Char) : Option (Escape × List Char) := do
  if cs.length < digits then none
  else
    let n ← hexValue? (cs.take digits)
    if Nat.isValidChar n then some (.literal (Char.ofNat n), cs.drop digits) else none

/-- what follows a backslash -/
def readEscape : List Char → Option (Escape × List Char)
  | [] => none
  | 'x' :: cs => readNumbered 2 cs
  | 'u' :: cs => readNumbered 4 cs
  | 'U' :: cs => readNumbered 8 cs
  | c :: cs =>
    if "dsw".contains c then some (.kind false, cs)
    else if "DSW".contains c then some (.kind true, cs)
    else if "Az".contains c then some (.anchor, cs)
    else if "b<>".contains c then some (.wordBoundary false, cs)
    else if c = 'B' then some (.wordBoundary true, cs)
    else if c.isAlphanum then
      (if "aftnrv".contains c then some (.literal c, cs) else none)
    else if c.toNat < 0x80 then some (.literal c, cs)
    else none

/-! ### classes between brackets -/

def kindNames : List String :=
  ["alnum", "alpha", "ascii", "blank", "cntrl", "digit", "graph", "lower", "print", "punct", "space",
    "upper", "word", "xdigit"]

/-- what follows the name of a class, as in `[:alpha:]` -/
def afterKindName? (cs : List Char) : Option (List Char) :=
  match cs with
  | ':' :: cs =>
    let cs := if cs.head? = some '^' then cs.tail else cs
    let name := cs.takeWhile (· ≠ ':')
    match cs.drop name.length with
    | ':' :: ']' :: rest => if kindNames.contains (.ofList name) then some rest else none
    | _ => none
  | _ => none

/-- what follows the characters at the start of a class that mean themselves only there -/
def afterOpening (cs : List Char) : List Char :=
  let rest := cs.dropWhile (· = '-')
  if rest.length = cs.length ∧ rest.head? = some ']' then rest.tail else rest

/-- one member of a class: a literal, or a class that has a name -/
def readMember (m : Mode) : List Char → Option (Option Char × List Char)
  | '\\' :: cs =>
    match readEscape cs with
    | some (.literal c, rest) => some (some c, rest)
    | some (.kind outside, rest) => if m.unicode || outside then none else some (none, rest)
    | _ => none
  | c :: cs => some (some c, cs)
  | [] => none

/-- what follows a class of that many open brackets; `fuel` is at least the number of characters -/
def afterClass (m : Mode) : Nat → Nat → List Char → Option (List Char)
  | 0, _, _ => none
  | _, _, [] => none
  | fuel + 1, depth, '[' :: cs =>
    match afterKindName? cs with
    | some rest => afterClass m fuel depth rest
    | none =>
      let inverted := cs.head? = some '^'
      if inverted ∧ ¬ m.unicode then none
      else afterClass m fuel (depth + 1) (afterOpening (if inverted then cs.tail else cs))
  | fuel + 1, depth, ']' :: cs => if depth ≤ 1 then some cs else afterClass m fuel (depth - 1) cs
  | fuel + 1, depth, '&' :: '&' :: cs => afterClass m fuel depth cs
  | fuel + 1, depth, '-' :: '-' :: cs => afterClass m fuel depth cs
  | fuel + 1, depth, '~' :: '~' :: cs => afterClass m fuel depth cs
  | fuel + 1, depth, cs => do
    let (first, rest) ← readMember m cs
    match rest with
    | '-' :: next :: more =>
      if next = ']' ∨ next = '-' then afterClass m fuel depth rest
      else do
        let (last, rest) ← readMember m (next :: more)
        match first, last with
        | some a, some b => if a ≤ b then afterClass m fuel depth rest else none
        | _, _ => none
    | _ => afterClass m fuel depth rest

/-! ### groups -/

/-- the mode after the letters of a group such as `(?i-u:`, and what follows them; `seen` are the
letters so far, and `on` says whether they switch on -/
def readLetters (m : Mode) (on : Bool) (seen : List Char) :
    List Char → Option (Mode × List Char × List Char)
  | [] => none
  | c :: cs =>
    if c = ')' ∨ c = ':' then
      if seen.head? = some '-' then none else some (m, seen, c :: cs)
    else if seen.contains c then none
    else if c = '-' then readLetters m false (c :: seen) cs
    else if c = 'i' then readLetters { m with foldsCase := on } on (c :: seen) cs
    else if c = 'u' then readLetters { m with unicode := on } on (c :: seen) cs
    else if "msURx".contains c then readLetters m on (c :: seen) cs
    else none

/-- the name of a group and what follows it -/
def readName (cs : List Char) : Option (List Char × List Char) :=
  let name := cs.takeWhile (· ≠ '>')
  match name, cs.drop name.length with
  | c :: more, _ :: rest =>
    if (c = '_' ∨ (isAlphanumeric c ∧ ¬ c.isDigit))
        ∧ more.all fun c => isAlphanumeric c || "_.[]".contains c then some (name, rest)
    else none
  | _, _ => none

/-- where the reader of a pattern is: the modes outside the groups that are open, the innermost
first, the names of groups so far, and whether something stands before that can be repeated -/
structure Reader where
  mode : Mode
  outer : List Mode
  names : List (List Char)
  repeatable : Bool

def Reader.item (r : Reader) : Reader := { r with repeatable := true }

/-- opens a group -/
def Reader.opened (r : Reader) : Reader := ⟨r.mode, r.mode :: r.outer, r.names, false⟩

/-- opens the group that the characters behind its parenthesis ask for, and answers what follows -/
def Reader.open? (r : Reader) (cs : List Char) : Option (Reader × List Char) :=
  let named := fun cs => do
    let (name, rest) ← readName cs
    if r.names.contains name then none else some ({ r.opened with names := name :: r.names }, rest)
  match cs with
  | '?' :: 'P' :: '<' :: cs => named cs
  | '?' :: '<' :: cs => named cs
  | '?' :: cs =>
    match readLetters r.mode true [] cs with
    | some (m, _, ':' :: rest) => some ({ r.opened with mode := m }, rest)
    | some (m, seen, ')' :: rest) =>
      if seen = [] then none else some ({ r with mode := m, repeatable := false }, rest)
    | _ => none
  | cs => some (r.opened, cs)

/-- reads a pattern to its end; `fuel` is more than the number of characters -/
def reads : Nat → Reader → List Char → Bool
  | 0, _, _ => false
  | _, r, [] => r.outer.isEmpty
  | fuel + 1, r, '(' :: cs =>
    match r.open? cs with
    | some (r, rest) => reads fuel r rest
    | none => false
  | fuel + 1, r, ')' :: cs =>
    match r.outer with
    | [] => false
    | m :: outer => reads fuel ⟨m, outer, r.names, true⟩ cs
  | fuel + 1, r, '|' :: cs => reads fuel { r with repeatable := false } cs
  | fuel + 1, r, '[' :: cs =>
    if r.mode.comparesCharacters then
      match afterClass r.mode (cs.length + 2) 0 ('[' :: cs) with
      | some rest => reads fuel r.item rest
      | none => false
    else false
  | fuel + 1, r, '\\' :: cs =>
    match readEscape cs with
    | some (.literal _, rest) => r.mode.comparesCharacters && reads fuel r.item rest
    | some (.kind outside, rest) => !r.mode.unicode && !outside && reads fuel r.item rest
    | some (.anchor, rest) => reads fuel r.item rest
    | some (.wordBoundary outside, rest) => !r.mode.unicode && !outside && reads fuel r.item rest
    | none => false
  | fuel + 1, r, c :: cs =>
    if "?*+".contains c then
      r.repeatable && reads fuel r (if cs.head? = some '?' then cs.tail else cs)
    else if c = '\x7b' then false
    else if c = '.' then r.mode.unicode && reads fuel r.item cs
    else if c = '^' ∨ c = '$' then reads fuel r.item cs
    else r.mode.comparesCharacters && reads fuel r.item cs

end Pattern

/-- the text is a search pattern -/
def isPattern (text : String) : Bool :=
  Pattern.reads (text.length + 1) ⟨.standard, [], [], false⟩ text.toList

end MessageFlow.Text
