import MessageFlow.Script.State

/-!
# Conditions

The conditions of `test`: on texts, on numbers and on files, joined by `-a` and `-o`, turned round
by `!`, and put between parentheses.
-/

namespace MessageFlow.Script.Condition

/-- operators in front of a text or a path -/
def unary : List String :=
  ["-z", "-n", "-t", "-e", "-f", "-d", "-s", "-r", "-w", "-x", "-h", "-L", "-b", "-c", "-p", "-S",
    "-g", "-k", "-u", "-O", "-G"]

/-- operators between two texts -/
def binary : List String :=
  ["=", "!=", "<", ">", "-eq", "-ne", "-gt", "-ge", "-lt", "-le", "-nt", "-ot", "-ef"]

/-- a number with its sign, and blanks around it -/
def number (text : String) : Except String Int :=
  let body := text.toList.dropWhile isBlank
  let (negative, digits) := match body with
    | '-' :: cs => (true, cs)
    | '+' :: cs => (false, cs)
    | cs => (false, cs)
  let digits := (digits.reverse.dropWhile isBlank).reverse
  if digits ≠ [] ∧ digits.all Char.isDigit then
    let n : Int := digits.foldl (fun n c => n * 10 + (c.toNat - 48)) 0
    .ok (if negative then -n else n)
  else .error ("Illegal number: " ++ text)

def onOne (s : State) (operator a : String) : Bool :=
  let entry := (s.tree.follow s.base a).toOption.bind s.tree.find?
  match operator with
  | "-z" => a = ""
  | "-n" => a ≠ ""
  | "-h" | "-L" =>
    match s.tree.tip s.base a with
    | .ok (.named directory name _) =>
      match s.tree.find? (directory ++ [name]) with
      | some (.link _) => true
      | _ => false
    | _ => false
  | "-e" | "-r" | "-w" => entry.isSome
  | "-f" => (entry matches some (.file _ _))
  | "-d" => (entry matches some .directory)
  | "-x" => (entry matches some .directory | some (.file _ true))
  | "-s" =>
    match entry with
    | some (.file content _) => !content.isEmpty
    | other => other.isSome
  | "-O" | "-G" => entry.isSome
  | _ => false

def onTwo (s : State) (a operator b : String) : Except String Bool :=
  let compared := fun (f : Int → Int → Bool) => do pure (f (← number a) (← number b))
  match operator with
  | "=" => .ok (a = b)
  | "!=" => .ok (a ≠ b)
  | "<" => .ok (a < b)
  | ">" => .ok (b < a)
  | "-eq" => compared (· = ·)
  | "-ne" => compared (· ≠ ·)
  | "-gt" => compared (· > ·)
  | "-ge" => compared (· ≥ ·)
  | "-lt" => compared (· < ·)
  | "-le" => compared (· ≤ ·)
  | "-ef" =>
    match s.tree.follow s.base a, s.tree.follow s.base b with
    | .ok p, .ok q => .ok (p = q && (s.tree.find? p).isSome)
    | _, _ => .ok false
  | _ => .ok false

mutual

/-- conditions of which one must hold; `fuel` bounds the steps -/
def oneOf : Nat → State → List String → Except String (Bool × List String)
  | 0, _, _ => .error "too many arguments"
  | fuel + 1, s, args => do
    match ← allOf fuel s args with
    | (a, "-o" :: rest) => do
      let (b, rest) ← oneOf fuel s rest
      pure (a || b, rest)
    | (a, rest) => pure (a, rest)

/-- conditions that must all hold -/
def allOf : Nat → State → List String → Except String (Bool × List String)
  | 0, _, _ => .error "too many arguments"
  | fuel + 1, s, args => do
    match ← turned fuel s args with
    | (a, "-a" :: rest) => do
      let (b, rest) ← allOf fuel s rest
      pure (a && b, rest)
    | (a, rest) => pure (a, rest)

def turned : Nat → State → List String → Except String (Bool × List String)
  | 0, _, _ => .error "too many arguments"
  | fuel + 1, s, "!" :: rest => do
    let (a, rest) ← turned fuel s rest
    pure (!a, rest)
  | fuel + 1, s, args => single fuel s args

def single : Nat → State → List String → Except String (Bool × List String)
  | 0, _, _ => .error "too many arguments"
  | _ + 1, _, [] => .ok (false, [])
  | _ + 1, _, [a] => .ok (a ≠ "", [])
  | _ + 1, _, "(" :: ")" :: rest => .ok (false, rest)
  | fuel + 1, s, a :: b :: rest =>
    let isOperand := binary.contains b ∧ rest ≠ [] ∧ rest.head? ≠ some ")"
    if a = "(" ∧ ¬ isOperand then do
      match ← oneOf fuel s (b :: rest) with
      | (value, ")" :: rest) => pure (value, rest)
      | _ => .error "closing paren expected"
    else if unary.contains a ∧ ¬ isOperand then .ok (onOne s a b, rest)
    else if binary.contains b then
      match rest with
      | [] => .error (b ++ ": argument expected")
      | c :: rest => do pure (← onTwo s a b c, rest)
    else .ok (a ≠ "", b :: rest)

end

/-- whether the condition in some arguments holds -/
def holds (s : State) (args : List String) : Except String Bool :=
  match args with
  | [a, operator, b] =>
    if binary.contains operator then onTwo s a operator b else whole
  | _ => whole
where
  /-- reads all the arguments -/
  whole : Except String Bool := do
    match ← oneOf (4 * args.length + 8) s args with
    | (value, []) => pure value
    | (_, rest) =>
      let last := args.getD (args.length - rest.length - 1) ""
      .error (last ++ ": unexpected operator")

end MessageFlow.Script.Condition
