import MessageFlow.Power

/-!
# Shortest decimals

A floating point number is the middle of an interval of reals that all round to it.  `shortest`
finds the decimal number with the fewest digits in that interval, and of those the nearest to the
number.

The numbers are compared exactly: `Spread` has the number and the ends of its interval as fractions
over one denominator, and `Spread.grid` tries the two neighbours of the number among the decimals
with a given number of digits.
-/

namespace MessageFlow.Decimal

/-- a positive decimal number, the first digit of which stands for `10 ^ exponent` -/
structure Digits where
  digits : List Char
  exponent : Int
  deriving DecidableEq

/-- a positive number and the interval of what rounds to it, over a common denominator -/
structure Spread where
  low : Nat
  value : Nat
  high : Nat
  denominator : Nat
  /-- the ends belong to the interval -/
  closed : Bool

namespace Spread

/-- the interval of the number `mantissa * 2 ^ exponent`; below a power of two it is half as wide -/
def ofBinary (mantissa : Nat) (exponent : Int) (power : Bool) : Spread :=
  let up := 2 ^ (exponent - 2).toNat
  { low := (4 * mantissa - if power then 1 else 2) * up
    value := 4 * mantissa * up
    high := (4 * mantissa + 2) * up
    denominator := 2 ^ (2 - exponent).toNat
    closed := mantissa % 2 == 0 }

/-- the interval of the magnitude of a finite number -/
def ofFloat (x : Float) : Spread :=
  let bits := x.toBits.toNat
  let field : Nat := bits / 2 ^ 52 % 2 ^ 11
  let fraction : Nat := bits % 2 ^ 52
  if field = 0 then ofBinary fraction (-1074) false
  else ofBinary (2 ^ 52 + fraction) ((field : Int) - 1075) (fraction == 0 && 1 < field)

/-- the interval of the number times a power of ten -/
def scale (s : Spread) (power : Int) : Spread :=
  let up := 10 ^ power.toNat
  { s with
    low := s.low * up
    value := s.value * up
    high := s.high * up
    denominator := s.denominator * 10 ^ (-power).toNat }

/-- the power of ten of the first digit -/
def exponent (s : Spread) : Int :=
  if s.denominator ≤ s.value then (Nat.toDigits 10 (s.value / s.denominator)).length - 1
  else
    match (List.range 400).find? fun n => s.denominator ≤ s.value * 10 ^ n with
    | some n => -n
    | none => 0

/-- a whole number in the interval -/
def has (s : Spread) (n : Nat) : Bool :=
  let n := n * s.denominator
  if s.closed then s.low ≤ n && n ≤ s.high else s.low < n && n < s.high

/-- the whole number in the interval that is nearest to the number, an even one if there are two -/
def nearest? (s : Spread) : Option Nat :=
  let below := s.value / s.denominator
  let toBelow := s.value % s.denominator
  let toAbove := s.denominator - toBelow
  match s.has below, s.has (below + 1) with
  | false, false => none
  | true, false => some below
  | false, true => some (below + 1)
  | true, true =>
    if toBelow < toAbove || (toBelow == toAbove && below % 2 == 0) then some below
    else some (below + 1)

/-- the nearest decimal with `count` digits in the interval -/
def grid (s : Spread) (count : Nat) : Option Digits :=
  let step := s.exponent + 1 - count
  (s.scale (-step)).nearest?.map fun n =>
    let all := Nat.toDigits 10 n
    let kept := (all.reverse.dropWhile (· == '0')).reverse
    ⟨kept, step + all.length - 1⟩

end Spread

/-- the shortest decimal that rounds to the magnitude of a finite number other than zero -/
def shortest (x : Float) : Digits :=
  let s := Spread.ofFloat x
  ((List.range 17).findSome? fun n => s.grid (n + 1)).getD ⟨['0'], 0⟩

end MessageFlow.Decimal
