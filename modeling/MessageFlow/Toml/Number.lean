import MessageFlow.Power
import MessageFlow.Toml.Lexical
import MessageFlow.Toml.Value

/-!
# Numbers and dates in a settings file

Integers have 64 bits and are written in base ten, sixteen, eight or two.  A floating point number
has a fraction, an exponent, or both, and must not be too large.  Underscores may stand between
digits.  Of a date or a time it only matters whether it is one.
-/

namespace MessageFlow.Toml

def isDigit (c : Char) : Bool := '0' ≤ c && c ≤ '9'

/-- the value of a digit in any base up to sixteen -/
def digit (c : Char) : Nat :=
  if isDigit c then c.toNat - '0'.toNat
  else if 'a' ≤ c then c.toNat - 'a'.toNat + 10
  else c.toNat - 'A'.toNat + 10

def ofDigits (base : Nat) (cs : List Char) : Nat := cs.foldl (fun n c => n * base + digit c) 0

/-- further digits, each of which an underscore may precede -/
def moreDigits (isDigit : Char → Bool) : Reader (List Char)
  | '_' :: c :: cs =>
    if isDigit c then do
      let (more, rest) ← moreDigits isDigit cs
      pure (c :: more, rest)
    else none
  | c :: cs =>
    if isDigit c then do
      let (more, rest) ← moreDigits isDigit cs
      pure (c :: more, rest)
    else if c = '_' then none
    else some ([], c :: cs)
  | [] => some ([], [])

/-- one digit or more -/
def readDigits (isDigit : Char → Bool) : Reader (List Char)
  | c :: cs =>
    if isDigit c then do
      let (more, rest) ← moreDigits isDigit cs
      pure (c :: more, rest)
    else none
  | [] => none

/-- whether a minus sign comes first; a plus sign means nothing -/
def readSign : List Char → Bool × List Char
  | '-' :: cs => (true, cs)
  | '+' :: cs => (false, cs)
  | cs => (false, cs)

/-- digits in base ten, where a zero stands alone -/
def readDecimal : Reader (List Char)
  | '0' :: cs => some (['0'], cs)
  | cs => readDigits isDigit cs

/-! ### integers -/

def readBase (base : Nat) (isDigit : Char → Bool) : Reader Value := fun cs => do
  let (digits, rest) ← readDigits isDigit cs
  let n := ofDigits base digits
  if n < 2 ^ 63 then some (.integer n, rest) else none

def readInteger : Reader Value
  | '0' :: 'x' :: cs =>
    readBase 16 (fun c => isDigit c || ('a' ≤ c && c ≤ 'f') || ('A' ≤ c && c ≤ 'F')) cs
  | '0' :: 'o' :: cs => readBase 8 (fun c => '0' ≤ c && c ≤ '7') cs
  | '0' :: 'b' :: cs => readBase 2 (fun c => c == '0' || c == '1') cs
  | cs => do
    let (negative, cs) := readSign cs
    let (digits, rest) ← readDecimal cs
    let n := ofDigits 10 digits
    let value : Int := if negative then -n else n
    if -2 ^ 63 ≤ value ∧ value < 2 ^ 63 then some (.integer value, rest) else none

/-! ### floating point numbers -/

/-- the number `digits * 10 ^ power`; where it is beyond all powers it need not be worked out -/
def scaled (digits : Nat) (power : Int) : Float :=
  let first := (Nat.toDigits 10 digits).length + power
  if digits = 0 ∨ first < -400 then 0
  else if 400 < first then 1 / 0
  else if power < 0 then Float.ofScientific digits true (-power).toNat
  else Float.ofScientific digits false power.toNat

def readFraction : Reader (List Char)
  | '.' :: cs => readDigits isDigit cs
  | _ => none

def readExponent : Reader Int
  | c :: cs =>
    if c = 'e' ∨ c = 'E' then do
      let (negative, cs) := readSign cs
      let (digits, rest) ← readDigits isDigit cs
      let n : Int := ofDigits 10 digits
      pure (if negative then -n else n, rest)
    else none
  | [] => none

def readFloating : Reader Value := fun cs => do
  let (negative, cs) := readSign cs
  let (whole, cs) ← readDecimal cs
  let (fraction, exponent, rest) ←
    match readExponent cs with
    | some (exponent, rest) => some ([], exponent, rest)
    | none => do
      let (fraction, cs) ← readFraction cs
      match readExponent cs with
      | some (exponent, rest) => some (fraction, exponent, rest)
      | none => some (fraction, 0, cs)
  let x := scaled (ofDigits 10 (whole ++ fraction)) (exponent - fraction.length)
  let x := if negative then -x else x
  if x == 1 / 0 then none else some (.floating x, rest)

/-- infinity, or what is no number -/
def readSpecial : Reader Value := fun cs =>
  let (negative, cs) := readSign cs
  match cs with
  | 'i' :: 'n' :: 'f' :: rest => some (.floating (if negative then -1 / 0 else 1 / 0), rest)
  | 'n' :: 'a' :: 'n' :: rest => some (.floating (0 / 0), rest)
  | _ => none

/-! ### dates and times -/

/-- a number of `count` digits between two bounds -/
def readField (count low high : Nat) : Reader Nat := fun cs =>
  let digits := cs.take count
  let n := ofDigits 10 digits
  if digits.length = count ∧ digits.all isDigit ∧ low ≤ n ∧ n ≤ high then some (n, cs.drop count)
  else none

/-- what follows a given character -/
def mark (c : Char) : List Char → Option (List Char)
  | d :: cs => if d = c then some cs else none
  | [] => none

def daysIn (year month : Nat) : Nat :=
  if month = 2 then
    if year % 4 = 0 ∧ (year % 100 ≠ 0 ∨ year % 400 = 0) then 29 else 28
  else if month = 4 ∨ month = 6 ∨ month = 9 ∨ month = 11 then 30
  else 31

/-- what follows a date -/
def skipDate (cs : List Char) : Option (List Char) := do
  let (year, cs) ← readField 4 0 9999 cs
  let (month, cs) ← readField 2 1 12 (← mark '-' cs)
  let (_, cs) ← readField 2 1 (daysIn year month) (← mark '-' cs)
  pure cs

/-- what follows a time of day -/
def skipTime (cs : List Char) : Option (List Char) := do
  let (_, cs) ← readField 2 0 23 cs
  let (_, cs) ← readField 2 0 59 (← mark ':' cs)
  let (_, cs) ← readField 2 0 60 (← mark ':' cs)
  match cs with
  | '.' :: c :: rest => if isDigit c then some (rest.dropWhile isDigit) else some cs
  | _ => some cs

/-- what follows the distance of a time zone, if there is one -/
def skipZone (cs : List Char) : List Char :=
  match cs with
  | [] => []
  | c :: rest =>
    if c = 'Z' ∨ c = 'z' then rest
    else if c = '+' ∨ c = '-' then
      let after : Option (List Char) := do
        let (_, rest) ← readField 2 0 23 rest
        let (_, rest) ← readField 2 0 59 (← mark ':' rest)
        pure rest
      after.getD cs
    else cs

def readMoment : Reader Value := fun cs =>
  match skipDate cs with
  | some rest =>
    match rest with
    | c :: time =>
      if c = 'T' ∨ c = 't' ∨ c = ' ' then
        match skipTime time with
        | some after => some (.moment, skipZone after)
        | none => some (.moment, rest)
      else some (.moment, rest)
    | [] => some (.moment, rest)
  | none => do pure (.moment, ← skipTime cs)

/-- a date, a time or a number, whichever it is -/
def readNumber : Reader Value := fun cs =>
  (readMoment cs).or ((readFloating cs).or ((readSpecial cs).or (readInteger cs)))

end MessageFlow.Toml
