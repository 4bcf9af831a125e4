import MessageFlow.Json.Fault

/-!
# Texts in JSON

A text stands between double quotes.  `readText` takes its characters and escapes, where a character
above U+FFFF may be written as the escapes of a surrogate pair; `skipText` passes over a text and
does not look whether surrogates stand in pairs.  Both start behind the opening quote.
-/

set_option linter.unusedVariables false

namespace MessageFlow.Json

-- the sum of no numbers is the numeral 0
attribute [local instance (high)] Zero.ofOfNat0

def hexDigit? (c : Char) : Option Nat :=
  if '0' ≤ c ∧ c ≤ '9' then some (c.toNat - '0'.toNat)
  else if 'a' ≤ c ∧ c ≤ 'f' then some (c.toNat - 'a'.toNat + 10)
  else if 'A' ≤ c ∧ c ≤ 'F' then some (c.toNat - 'A'.toNat + 10)
  else none

/-- four hexadecimal digits -/
def readHex : Reader Nat
  | a :: b :: c :: d :: rest =>
    match hexDigit? a, hexDigit? b, hexDigit? c, hexDigit? d with
    | some a, some b, some c, some d => .ok (((a * 16 + b) * 16 + c) * 16 + d, rest)
    | _, _, _, _ => .error .invalidEscape
  | cs =>
    if 4 ≤ (cs.map Char.utf8Size).sum then .error .invalidEscape else .error (.endsIn .text)

/-- the second half of a surrogate pair, of which the first half is `high` -/
def readLowSurrogate (high : Nat) : Reader Char
  | [] => .error (.endsIn .text)
  | '\\' :: [] => .error (.endsIn .text)
  | '\\' :: 'u' :: cs => do
    let (low, cs) ← readHex cs
    if 0xDC00 ≤ low ∧ low ≤ 0xDFFF then
      pure (Char.ofNat ((high - 0xD800) * 0x400 + (low - 0xDC00) + 0x10000), cs)
    else .error .loneSurrogate
  | _ => .error .brokenSurrogatePair

/-- what an escape of two characters stands for -/
def shortEscape? : Char → Option Char
  | '"' => some '"'
  | '\\' => some '\\'
  | '/' => some '/'
  | 'b' => some '\x08'
  | 'f' => some '\x0c'
  | 'n' => some '\n'
  | 'r' => some '\r'
  | 't' => some '\t'
  | _ => none

/-- the character of an escape, after the backslash -/
def readEscape : Reader Char
  | [] => .error (.endsIn .text)
  | 'u' :: cs => do
    let (n, cs) ← readHex cs
    if 0xDC00 ≤ n ∧ n ≤ 0xDFFF then .error .loneSurrogate
    else if 0xD800 ≤ n ∧ n ≤ 0xDBFF then readLowSurrogate n cs
    else pure (Char.ofNat n, cs)
  | c :: cs =>
    match shortEscape? c with
    | some c => .ok (c, cs)
    | none => .error .invalidEscape

/-- what follows an escape, after the backslash -/
def skipEscape : List Char → Except Fault (List Char)
  | [] => .error (.endsIn .text)
  | 'u' :: cs => do
    let (_, cs) ← readHex cs
    pure cs
  | c :: cs => if (shortEscape? c).isSome then .ok cs else .error .invalidEscape

theorem length_readHex {cs rest : List Char} {n : Nat} (h : readHex cs = .ok (n, rest)) :
    rest.length < cs.length := by
  unfold readHex at h
  split at h
  · split at h
    · cases h; simp only [List.length_cons]; omega
    · cases h
  · split at h <;> cases h

/-- what is read behind four digits is read from fewer characters -/
theorem exists_of_readHex_bind {α : Type} {cs : List Char} {f : Nat × List Char → Except Fault α}
    {a : α} (h : (readHex cs >>= f) = .ok a) :
    ∃ n rest, rest.length < cs.length ∧ f (n, rest) = .ok a := by
  cases hx : readHex cs with
  | error fault =>
    rw [hx] at h
    cases h
  | ok p =>
    rw [hx] at h
    exact ⟨p.1, p.2, length_readHex hx, h⟩

theorem length_readLowSurrogate {high : Nat} {cs rest : List Char} {c : Char}
    (h : readLowSurrogate high cs = .ok (c, rest)) : rest.length < cs.length := by
  unfold readLowSurrogate at h
  split at h
  · cases h
  · cases h
  · obtain ⟨low, left, hleft, h⟩ := exists_of_readHex_bind h
    dsimp only at h
    split at h
    · obtain ⟨-, rfl⟩ := Prod.mk.inj (Except.ok.inj h)
      simp only [List.length_cons]
      omega
    · cases h
  · cases h

theorem length_readEscape {cs rest : List Char} {c : Char} (h : readEscape cs = .ok (c, rest)) :
    rest.length < cs.length := by
  unfold readEscape at h
  split at h
  · cases h
  · obtain ⟨n, left, hleft, h⟩ := exists_of_readHex_bind h
    dsimp only at h
    split at h
    · cases h
    · split at h
      · have hrest := length_readLowSurrogate h
        simp only [List.length_cons]
        omega
      · obtain ⟨-, rfl⟩ := Prod.mk.inj (Except.ok.inj h)
        simp only [List.length_cons]
        omega
  · split at h
    · cases h; simp
    · cases h

theorem length_skipEscape {cs rest : List Char} (h : skipEscape cs = .ok rest) :
    rest.length < cs.length := by
  unfold skipEscape at h
  split at h
  · cases h
  · obtain ⟨_, left, hleft, h⟩ := exists_of_readHex_bind h
    cases h
    simp only [List.length_cons]
    omega
  · split at h
    · cases h; simp
    · cases h

/-- the characters up to the closing quote -/
def readChars (cs : List Char) : Except Fault (List Char × List Char) :=
  match cs with
  | [] => .error (.endsIn .text)
  | c :: cs =>
    if c = '"' then .ok ([], cs)
    else if c = '\\' then
      match h : readEscape cs with
      | .error fault => .error fault
      | .ok (c, rest) => do
        let (more, rest) ← readChars rest
        pure (c :: more, rest)
    else if c.toNat < 0x20 then .error .controlCharacter
    else do
      let (more, rest) ← readChars cs
      pure (c :: more, rest)
termination_by cs.length
decreasing_by
  · have h1 := length_readEscape h
    simp only [List.length_cons]; omega
  · simp

/-- a text, after the opening quote -/
def readText : Reader String := fun cs => do
  let (chars, rest) ← readChars cs
  pure (.ofList chars, rest)

/-- what follows a text, after the opening quote -/
def skipText (cs : List Char) : Except Fault (List Char) :=
  match cs with
  | [] => .error (.endsIn .text)
  | c :: cs =>
    if c = '"' then .ok cs
    else if c = '\\' then
      match h : skipEscape cs with
      | .error fault => .error fault
      | .ok rest => skipText rest
    else if c.toNat < 0x20 then .error .controlCharacter
    else skipText cs
termination_by cs.length
decreasing_by
  · have h1 := length_skipEscape h
    simp only [List.length_cons]; omega
  · simp

end MessageFlow.Json
