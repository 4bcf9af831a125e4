/-!
# Texts as bytes

`utf8` writes a text in UTF-8 and `ofUtf8` reads it back.  Where the bytes are not UTF-8 the reader
tells how far they are and how many bytes form the first ill-formed sequence (`Utf8Fault`);
`ofUtf8Lossy` puts a replacement character in the place of each such sequence.

`nextBytes` has the ranges of the continuation bytes after each first byte, so that overlong forms,
surrogates and numbers above U+10FFFF are refused at the first byte that rules the sequence out.
-/

namespace MessageFlow.Text

abbrev Bytes := List UInt8

/-- the text in UTF-8 -/
def utf8 (text : String) : Bytes := text.toList.flatMap String.utf8EncodeChar

/-- where bytes stop being UTF-8 -/
structure Utf8Fault where
  /-- number of bytes before the first ill-formed sequence -/
  validUpTo : Nat
  /-- length of that sequence, or nothing if the bytes end inside it -/
  length? : Option Nat
  deriving DecidableEq

/-- the ranges of the bytes that continue a character after its first byte -/
def nextBytes (b : UInt8) : Option (List (UInt8 × UInt8)) :=
  if b < 0x80 then some []
  else if b < 0xC2 then none
  else if b < 0xE0 then some [(0x80, 0xBF)]
  else if b = 0xE0 then some [(0xA0, 0xBF), (0x80, 0xBF)]
  else if b = 0xED then some [(0x80, 0x9F), (0x80, 0xBF)]
  else if b < 0xF0 then some [(0x80, 0xBF), (0x80, 0xBF)]
  else if b = 0xF0 then some [(0x90, 0xBF), (0x80, 0xBF), (0x80, 0xBF)]
  else if b < 0xF4 then some [(0x80, 0xBF), (0x80, 0xBF), (0x80, 0xBF)]
  else if b = 0xF4 then some [(0x80, 0x8F), (0x80, 0xBF), (0x80, 0xBF)]
  else none

/-- the first fault after `start` well-formed bytes, `taken` bytes into a character that the ranges
`owed` are to complete -/
def utf8FaultFrom (start taken : Nat) : List (UInt8 × UInt8) → Bytes → Option Utf8Fault
  | [], [] => none
  | _ :: _, [] => some ⟨start, none⟩
  | [], b :: bs =>
    match nextBytes b with
    | none => some ⟨start + taken, some 1⟩
    | some owed => utf8FaultFrom (start + taken) 1 owed bs
  | (low, high) :: owed, b :: bs =>
    if low ≤ b ∧ b ≤ high then utf8FaultFrom start (taken + 1) owed bs
    else some ⟨start, some taken⟩

/-- the first fault of the bytes, if they have one -/
def utf8Fault? (bytes : Bytes) : Option Utf8Fault := utf8FaultFrom 0 0 [] bytes

/-- the text that the bytes spell -/
def ofUtf8 (bytes : Bytes) : Except Utf8Fault String :=
  match String.fromUTF8? bytes.toByteArray with
  | some text => .ok text
  | none => .error ((utf8Fault? bytes).getD ⟨0, none⟩)

/-- the text that the bytes spell, with U+FFFD for each ill-formed sequence -/
def ofUtf8Lossy (bytes : Bytes) : String :=
  go bytes.length bytes
where
  /-- `fuel` bounds the number of ill-formed sequences -/
  go (fuel : Nat) (bytes : Bytes) : String :=
    match utf8Fault? bytes with
    | none => (String.fromUTF8? bytes.toByteArray).getD ""
    | some fault =>
      let head := (String.fromUTF8? (bytes.take fault.validUpTo).toByteArray).getD ""
      match fuel, fault.length? with
      | fuel + 1, some n => head ++ "\uFFFD" ++ go fuel (bytes.drop (fault.validUpTo + n))
      | _, _ => head ++ "\uFFFD"

theorem toByteArray_utf8 (text : String) : (utf8 text).toByteArray = text.toByteArray := by
  have h := String.toByteArray_ofList (l := text.toList)
  rw [String.ofList_toList] at h
  exact h.symm

theorem ofUtf8_utf8 (text : String) : ofUtf8 (utf8 text) = .ok text := by
  simp [ofUtf8, toByteArray_utf8, String.fromUTF8?, text.isValidUTF8, String.fromUTF8]

end MessageFlow.Text
