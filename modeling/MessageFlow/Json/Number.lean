import MessageFlow.Decimal.Spelling
import MessageFlow.Json.Fault

/-!
# Numbers in JSON

Neither manifests nor their parts have a place for a number, so numbers are only passed over, or
told in a message.  A `Numeral` is a number as it is written; `Numeral.found` is what a message says
of it.  An integer of at most 64 bits is told exactly.  Any other number is told as a floating point
number: the first digits as far as 64 bits hold them, scaled by one multiplication or division.
-/

namespace MessageFlow.Json

structure Numeral where
  negative : Bool
  whole : List Char
  /-- the digits behind the point, none if there is no point -/
  fraction : List Char
  exponent : Option Int

def isDigit (c : Char) : Bool := '0' ≤ c && c ≤ '9'

def digit (c : Char) : Nat := c.toNat - '0'.toNat

/-- the number that digits make -/
def ofDigits (cs : List Char) : Nat := cs.foldl (fun n c => n * 10 + digit c) 0

/-- the digits at the front, of which there must be one; `atEnd` if the text breaks off here -/
def readDigits (atEnd : Fault) (cs : List Char) : Except Fault (List Char × List Char) :=
  match cs with
  | [] => .error atEnd
  | c :: _ =>
    if isDigit c then .ok (cs.takeWhile isDigit, cs.dropWhile isDigit) else .error .invalidNumber

/-- the digits of the integral part: a zero stands alone -/
def readWhole (atEnd : Fault) (cs : List Char) : Except Fault (List Char × List Char) := do
  let (digits, rest) ← readDigits atEnd cs
  if digits.head? = some '0' ∧ digits ≠ ['0'] then .error .invalidNumber else pure (digits, rest)

def readFraction (atEnd : Fault) (cs : List Char) : Except Fault (List Char × List Char) :=
  match cs with
  | '.' :: cs => readDigits atEnd cs
  | cs => .ok ([], cs)

def readExponent (atEnd : Fault) (cs : List Char) : Except Fault (Option Int × List Char) :=
  match cs with
  | [] => .ok (none, [])
  | c :: rest =>
    if c = 'e' ∨ c = 'E' then
      match rest with
      | '-' :: rest => do
        let (digits, rest) ← readDigits atEnd rest
        pure (some (-(ofDigits digits)), rest)
      | '+' :: rest => do
        let (digits, rest) ← readDigits atEnd rest
        pure (some (ofDigits digits), rest)
      | rest => do
        let (digits, rest) ← readDigits atEnd rest
        pure (some (ofDigits digits), rest)
    else .ok (none, cs)

/-- a number after its sign -/
def readNumeral (atEnd : Fault) (negative : Bool) : Reader Numeral := fun cs => do
  let (whole, cs) ← readWhole atEnd cs
  let (fraction, cs) ← readFraction atEnd cs
  let (exponent, cs) ← readExponent atEnd cs
  pure (⟨negative, whole, fraction, exponent⟩, cs)

namespace Numeral

/-- digits taken into a number of 64 bits, and the first that do not fit -/
def takeDigits (n : Nat) : List Char → Nat × List Char
  | [] => (n, [])
  | c :: cs => if n * 10 + digit c < 2 ^ 64 then takeDigits (n * 10 + digit c) cs else (n, c :: cs)

/-- division by a power of ten, in steps that a floating point number can make -/
def shrink (x : Float) (power : Nat) : Float :=
  if power ≤ 308 then x / Float.ofScientific 1 false power
  else if x == 0 then x
  else shrink (x / 1e308) (power - 308)
termination_by power

/-- `n * 10 ^ power`, unless that is beyond all floating point numbers -/
def scaled (n : Nat) (power : Int) : Except Fault Float :=
  let x := Float.ofNat n
  if power < 0 then .ok (shrink x (-power).toNat)
  else if power ≤ 308 then
    let x := x * Float.ofScientific 1 false power.toNat
    if x.isInf then .error .numberOutOfRange else .ok x
  else if n = 0 then .ok x
  else .error .numberOutOfRange

/-- the magnitude as a floating point number -/
def magnitude (d : Numeral) : Except Fault Float :=
  let (n, cut) := takeDigits 0 d.whole
  let (m, rest) := takeDigits n d.fraction
  let kept := d.fraction.length - rest.length
  scaled m (cut.length - kept + d.exponent.getD 0)

/-- what a message says of the number -/
def found (d : Numeral) : Except Fault Found := do
  let n := ofDigits d.whole
  let integral := d.fraction.isEmpty && d.exponent.isNone
  if integral ∧ !d.negative ∧ n < 2 ^ 64 then pure (.integer n)
  else if integral ∧ d.negative ∧ 0 < n ∧ n ≤ 2 ^ 63 then pure (.integer (-n))
  else
    let x ← d.magnitude
    pure (.floating (Decimal.brief (if d.negative then -x else x)))

end Numeral

end MessageFlow.Json
