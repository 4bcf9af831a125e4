import MessageFlow.Decimal.Shortest

/-!
# Spellings of floating point numbers

The digits of a number are the shortest ones that read back.  `positional` writes them around the
decimal point, with at least one digit on each side; `scientific` writes the point behind the first
digit, and the power of ten.  `compact` is positional for numbers of middling size and scientific
for the others.
-/

namespace MessageFlow.Decimal

namespace Digits

def positional (d : Digits) : List Char :=
  if d.exponent < 0 then
    ['0', '.'] ++ List.replicate ((-d.exponent).toNat - 1) '0' ++ d.digits
  else
    let whole := d.exponent.toNat + 1
    d.digits.take whole ++ List.replicate (whole - d.digits.length) '0'
      ++ '.' :: (if whole < d.digits.length then d.digits.drop whole else ['0'])

def scientific (d : Digits) : List Char :=
  let point := if 1 < d.digits.length then ['.'] else []
  d.digits.take 1 ++ point ++ d.digits.drop 1
    ++ ['e', if d.exponent < 0 then '-' else '+'] ++ Nat.toDigits 10 d.exponent.natAbs

def compact (d : Digits) : List Char :=
  if -5 ≤ d.exponent ∧ d.exponent < 16 then d.positional else d.scientific

end Digits

/-- a number with its sign, its digits spelled as `spell` says -/
def spelled (spell : Digits → List Char) (x : Float) : String :=
  if x.isNaN then "NaN"
  else
    let sign := if 2 ^ 63 ≤ x.toBits.toNat then ['-'] else []
    .ofList <| sign ++
      if x.isInf then ['i', 'n', 'f']
      else if x == 0 then ['0', '.', '0']
      else spell (shortest x)

/-- always with all digits around the point -/
def plain (x : Float) : String := spelled Digits.positional x

/-- with a power of ten where the digits would be far from the point -/
def brief (x : Float) : String := spelled Digits.compact x

end MessageFlow.Decimal
