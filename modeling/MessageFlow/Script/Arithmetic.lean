import MessageFlow.Power

/-!
# Expressions in scripts

The values of expressions between double parentheses: whole numbers of sixty-four bits, variables,
and the operators of the language with their ranks.  `Arithmetic.valueOf?` answers the value of an
expression and the variables that it sets.
-/

namespace MessageFlow.Script.Arithmetic

/-- why an expression has no value -/
inductive Fault where
  | expression (text : String)
  /-- the value of a variable is no number -/
  | number (text : String)
  deriving DecidableEq

/-- the message about a fault in an expression -/
def Fault.message (expression : String) : Fault → String
  | .expression text => "arithmetic expression: " ++ text ++ ": \"" ++ expression ++ "\""
  | .number text => "Illegal number: " ++ text

/-- the values that an expression has set, and the values from before it -/
structure Scope where
  given : String → Except String Int
  changed : List (String × Int)
  /-- what is read now does not count -/
  idle : Bool

def Scope.get (s : Scope) (name : String) : Except Fault Int :=
  match s.changed.lookup name with
  | some n => .ok n
  | none => (s.given name).mapError .number

def Scope.set (s : Scope) (name : String) (n : Int) : Scope :=
  if s.idle then s else { s with changed := (name, n) :: s.changed }

/-- the number that sixty-four bits hold instead of a number -/
def wrap (n : Int) : Int := n.bmod (2 ^ 64)

def truth (b : Bool) : Int := if b then 1 else 0

/-- the bits of a number, and back -/
def bits (n : Int) : Nat := (n.emod (2 ^ 64)).toNat

/-- applies an operator; nothing is the value of a division by zero -/
def applied? (operator : String) (a b : Int) : Option Int :=
  match operator with
  | "+" => some (wrap (a + b))
  | "-" => some (wrap (a - b))
  | "*" => some (wrap (a * b))
  | "/" => if b = 0 then none else some (wrap (a.tdiv b))
  | "%" => if b = 0 then none else some (a.tmod b)
  | "<<" => some (wrap (bits a * 2 ^ (bits b % 64) : Nat))
  | ">>" => some (a.fdiv (2 ^ (bits b % 64)))
  | "<" => some (truth (a < b))
  | ">" => some (truth (a > b))
  | "<=" => some (truth (a ≤ b))
  | ">=" => some (truth (a ≥ b))
  | "==" => some (truth (a = b))
  | "!=" => some (truth (a ≠ b))
  | "&" => some (wrap (bits a &&& bits b : Nat))
  | "^" => some (wrap (bits a ^^^ bits b : Nat))
  | "|" => some (wrap (bits a ||| bits b : Nat))
  | "&&" => some (truth (a ≠ 0 ∧ b ≠ 0))
  | "||" => some (truth (a ≠ 0 ∨ b ≠ 0))
  | _ => none

/-- applies an operator, if what is read counts -/
def Scope.apply (s : Scope) (operator : String) (a b : Int) : Except Fault Int :=
  match applied? operator a b with
  | some n => .ok n
  | none => if s.idle then .ok 0 else .error (.expression "division by zero")

/-- the operators between two values, those that bind least first -/
def ranks : List (List String) :=
  [["||"], ["&&"], ["|"], ["^"], ["&"], ["==", "!="], ["<=", ">=", "<", ">"], ["<<", ">>"],
    ["+", "-"], ["*", "/", "%"]]

def skipBlanks (cs : List Char) : List Char := cs.dropWhile fun c => " \t\n".contains c

/-- an operator of a rank at the start of a text, if no longer operator stands there -/
def operatorAt? (rank : List String) (cs : List Char) : Option (String × List Char) :=
  let cs := skipBlanks cs
  let longest := (ranks.flatten.filter fun o => o.toList.isPrefixOf cs).foldl
    (fun best o => if best.length < o.length then o else best) ""
  let rest := cs.drop longest.length
  let assigns := rest.head? = some '=' ∧
    ¬ ["<", ">", "<=", ">=", "==", "!=", "&&", "||"].contains longest
  if rank.contains longest ∧ ¬ assigns then some (longest, rest) else none

def isNameChar (c : Char) : Bool := c.isAlphanum || c = '_'

def digitValue (c : Char) : Nat :=
  if c.isDigit then c.toNat - '0'.toNat else c.toLower.toNat - 'a'.toNat + 10

/-- the largest number -/
def largest : Nat := 2 ^ 63 - 1

/-- the number in the digits of a base at the start of a text -/
def numberIn (base : Nat) (cs : List Char) : Int × List Char :=
  let digits := cs.takeWhile fun c => c.isAlphanum && digitValue c < base
  let n := digits.foldl (fun n c => n * base + digitValue c) 0
  (min n largest, cs.drop digits.length)

/-- a number in decimal, octal or hexadecimal digits at the start of a text -/
def readNumber (cs : List Char) : Int × List Char :=
  match cs with
  | '0' :: x :: c :: rest =>
    if (x = 'x' ∨ x = 'X') ∧ c.isAlphanum ∧ digitValue c < 16 then numberIn 16 (c :: rest)
    else numberIn 8 cs
  | '0' :: _ => numberIn 8 cs
  | _ => numberIn 10 cs

/-- the operators that set a variable -/
def setters : List String := ["=", "+=", "-=", "*=", "/=", "%=", "<<=", ">>=", "&=", "^=", "|="]

/-- a variable and the operator that sets it at the start of a text -/
def setter? (cs : List Char) : Option (String × String × List Char) :=
  let cs := skipBlanks cs
  let name := cs.takeWhile isNameChar
  let rest := skipBlanks (cs.drop name.length)
  match name with
  | [] => none
  | c :: _ =>
    if c.isDigit then none
    else
      (setters.find? fun o => o.toList.isPrefixOf rest ∧ ¬ "==".toList.isPrefixOf rest).map fun o =>
        (.ofList name, o, rest.drop o.length)

mutual

/-- reads a whole expression; `fuel` bounds the steps -/
def expression : Nat → Scope → List Char → Except Fault (Int × Scope × List Char)
  | 0, _, _ => .error (.expression "expecting primary")
  | fuel + 1, s, cs =>
    match setter? cs with
    | some (name, operator, rest) => do
      let (n, s, rest) ← expression fuel s rest
      let n ← if operator = "=" then .ok n
        else s.apply (operator.dropEnd 1).toString (← s.get name) n
      pure (n, s.set name n, rest)
    | none => do
      let (c, s, rest) ← ranked fuel ranks s cs
      match skipBlanks rest with
      | '?' :: rest => do
        let idle := s.idle
        let (a, s, rest) ← expression fuel { s with idle := idle || c = 0 } rest
        match skipBlanks rest with
        | ':' :: rest => do
          let (b, s, rest) ← expression fuel { s with idle := idle || c ≠ 0 } rest
          pure (if c = 0 then b else a, { s with idle := idle }, rest)
        | _ => .error (.expression "expecting ':'")
      | _ => pure (c, s, rest)

/-- reads an expression of operators of some ranks -/
def ranked : Nat → List (List String) → Scope → List Char → Except Fault (Int × Scope × List Char)
  | 0, _, _, _ => .error (.expression "expecting primary")
  | fuel + 1, [], s, cs => operand fuel s cs
  | fuel + 1, rank :: more, s, cs => do
    let (a, s, rest) ← ranked fuel more s cs
    further fuel rank more a s rest

/-- goes on behind a value with the operators of a rank -/
def further : Nat → List String → List (List String) → Int → Scope → List Char →
    Except Fault (Int × Scope × List Char)
  | 0, _, _, _, _, _ => .error (.expression "expecting primary")
  | fuel + 1, rank, more, a, s, cs =>
    match operatorAt? rank cs with
    | none => .ok (a, s, cs)
    | some (operator, rest) => do
      let idle := s.idle
      let decided := (operator = "&&" ∧ a = 0) ∨ (operator = "||" ∧ a ≠ 0)
      let (b, s, rest) ← ranked fuel more { s with idle := idle || decided } rest
      let s := { s with idle := idle }
      further fuel rank more (← s.apply operator a b) s rest

def operand : Nat → Scope → List Char → Except Fault (Int × Scope × List Char)
  | 0, _, _ => .error (.expression "expecting primary")
  | fuel + 1, s, cs =>
    match skipBlanks cs with
    | '(' :: cs => do
      let (n, s, rest) ← expression fuel s cs
      match skipBlanks rest with
      | ')' :: rest => pure (n, s, rest)
      | _ => .error (.expression "expecting ')'")
    | '-' :: cs => (operand fuel s cs).map fun (n, s, rest) => (wrap (-n), s, rest)
    | '+' :: cs => operand fuel s cs
    | '!' :: cs => (operand fuel s cs).map fun (n, s, rest) => (truth (n = 0), s, rest)
    | '~' :: cs => (operand fuel s cs).map fun (n, s, rest) => (wrap (-n - 1), s, rest)
    | c :: cs =>
      let text := (c :: cs).takeWhile isNameChar
      if text = [] then .error (.expression "expecting primary")
      else if c.isDigit then
        let (n, rest) := readNumber (c :: cs)
        .ok (n, s, rest)
      else (s.get (.ofList text)).map fun n => (n, s, (c :: cs).drop text.length)
    | [] => .error (.expression "expecting primary")

end

/-- the value of an expression and the variables that it sets, the last one first -/
def valueOf (given : String → Except String Int) (cs : List Char) :
    Except Fault (Int × List (String × Int)) := do
  if skipBlanks cs = [] then pure (0, [])
  else
    let (n, s, rest) ← expression (16 * cs.length + 32) ⟨given, [], false⟩ cs
    if skipBlanks rest = [] then pure (n, s.changed) else .error (.expression "expecting EOF")

end MessageFlow.Script.Arithmetic
