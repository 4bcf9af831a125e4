import MessageFlow.Power
import MessageFlow.Snapshot.Fault

/-!
# Integers of variable width

A number below 251 is one byte.  A larger one is a marker byte, which tells the width, and then two,
four or eight bytes, the lowest first.  A writer takes the narrowest form; a reader takes every form
that is no wider than the field.

`Reader α` reads an item off the front of a payload and returns what follows it.
-/

namespace MessageFlow.Snapshot

open Text (Bytes)

abbrev Reader (α : Type) := Bytes → Except PayloadFault (α × Bytes)

/-- `width` bytes, the lowest first -/
def littleEndian : Nat → Nat → Bytes
  | 0, _ => []
  | width + 1, n => UInt8.ofNat n :: littleEndian width (n / 256)

/-- the number that the bytes make, the lowest first -/
def ofLittleEndian : Bytes → Nat
  | [] => 0
  | b :: bs => b.toNat + 256 * ofLittleEndian bs

/-- the first `n` bytes -/
def take (n : Nat) : Reader Bytes := fun bytes =>
  if bytes.length < n then .error (.unexpectedEnd (n - bytes.length))
  else .ok (bytes.take n, bytes.drop n)

/-- what an integer stands for, which limits its width -/
inductive Field where
  /-- position of a vertex: at most four bytes -/
  | position
  /-- number of items in a list -/
  | count
  /-- number of bytes in a text -/
  | textLength
  deriving DecidableEq

/-- how a fault names the width of a field when `left` bytes are in sight: for the length of a text
it gives the width of the quick reader, which looks at nine bytes at once, if that one is in use -/
def Field.width (f : Field) (left : Nat) : IntegerWidth :=
  match f with
  | position => .bits32
  | count => .size
  | textLength => if 9 ≤ left then .bits32 else .bits64

def writeVarint (n : Nat) : Bytes :=
  if n < 251 then [UInt8.ofNat n]
  else if n < 2 ^ 16 then 251 :: littleEndian 2 n
  else if n < 2 ^ 32 then 252 :: littleEndian 4 n
  else 253 :: littleEndian 8 n

/-- a number of `width` bytes -/
def readFixed (width : Nat) : Reader Nat := fun bytes => do
  let (ds, rest) ← take width bytes
  pure (ofLittleEndian ds, rest)

def readVarint (f : Field) : Reader Nat
  | [] => .error (.unexpectedEnd 1)
  | b :: rest =>
    if b < 251 then .ok (b.toNat, rest)
    else if b = 251 then readFixed 2 rest
    else if b = 252 then readFixed 4 rest
    else if b = 253 then
      if f = .position then .error (.tooWide .bits32 .bits64) else readFixed 8 rest
    else
      .error (.tooWide (f.width (rest.length + 1)) (if b = 254 then .bits128 else .reserved))

end MessageFlow.Snapshot
