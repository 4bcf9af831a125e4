import MessageFlow.Json.Text
import MessageFlow.Proofs.Json.Grammar

/-!
# Texts are read as they are spelled

However a text is spelled, `readText` gives it back, each character from itself, from its own escape,
from its code, or from the codes of a surrogate pair.  `skipText` takes the same spellings, and those
of lone surrogates too, which are no texts.
-/

namespace MessageFlow.Json

/-! ### white space -/

theorem isSpace_iff {c : Char} : isSpace c = true ↔ c = ' ' ∨ c = '\n' ∨ c = '\t' ∨ c = '\r' := by
  simp only [isSpace, Bool.or_eq_true, beq_iff_eq, or_assoc]

theorem skipSpace_append {gap : List Char} (h : IsGap gap) (cs : List Char) :
    skipSpace (gap ++ cs) = skipSpace cs :=
  List.dropWhile_append_of_pos fun c hc => isSpace_iff.mpr (h c hc)

theorem skipSpace_cons {c : Char} (h : isSpace c = false) (cs : List Char) :
    skipSpace (c :: cs) = c :: cs :=
  List.dropWhile_cons_of_neg (Bool.eq_false_iff.mp h)

/-! ### escapes -/

theorem hexDigit?_of_spells {d : Nat} {c : Char} (h : SpellsDigit d c) : hexDigit? c = some d := by
  have h1 : ∀ d, (hd : d < 16) → hexDigit? ("0123456789abcdef".toList[d]) = some d := by decide
  have h2 : ∀ d, (hd : d < 16) → hexDigit? ("0123456789ABCDEF".toList[d]) = some d := by decide
  rcases h with h | h
  · obtain ⟨hd, rfl⟩ := List.getElem?_eq_some_iff.mp h
    exact h1 d hd
  · obtain ⟨hd, rfl⟩ := List.getElem?_eq_some_iff.mp h
    exact h2 d hd

theorem readHex_of_spells {n : Nat} {digits : List Char} (h : SpellsCode n digits)
    (rest : List Char) : readHex (digits ++ rest) = .ok (n, rest) := by
  obtain ⟨ha, hb, hc, hd⟩ := h
  simp only [List.cons_append, List.nil_append, readHex, hexDigit?_of_spells ha,
    hexDigit?_of_spells hb, hexDigit?_of_spells hc, hexDigit?_of_spells hd]
  refine congrArg (fun n => Except.ok (n, rest)) ?_
  omega

/-- the code of a character is no surrogate -/
theorem toNat_valid (c : Char) : c.toNat < 0xD800 ∨ 0xDFFF < c.toNat ∧ c.toNat < 0x110000 := c.valid

theorem readEscape_code {c : Char} {digits : List Char} (h : SpellsCode c.toNat digits)
    (rest : List Char) : readEscape ('u' :: (digits ++ rest)) = .ok (c, rest) := by
  have h1 := toNat_valid c
  have h2 : ¬ (0xDC00 ≤ c.toNat ∧ c.toNat ≤ 0xDFFF) := by omega
  have h3 : ¬ (0xD800 ≤ c.toNat ∧ c.toNat ≤ 0xDBFF) := by omega
  rw [readEscape, readHex_of_spells h]
  simp only [bind, Except.bind, if_neg h2, if_neg h3, pure, Except.pure, Char.ofNat_toNat]

theorem readLowSurrogate_code {n high : Nat} {digits : List Char} (h : SpellsCode n digits)
    (hn : 0xDC00 ≤ n ∧ n ≤ 0xDFFF) {c : Char}
    (hc : (high - 0xD800) * 0x400 + (n - 0xDC00) + 0x10000 = c.toNat) (rest : List Char) :
    readLowSurrogate high ('\\' :: 'u' :: (digits ++ rest)) = .ok (c, rest) := by
  rw [readLowSurrogate, readHex_of_spells h]
  simp only [bind, Except.bind, if_pos hn, pure, Except.pure, hc, Char.ofNat_toNat]

theorem readEscape_high {n : Nat} {digits : List Char} (h : SpellsCode n digits)
    (hn : 0xD800 ≤ n ∧ n ≤ 0xDBFF) (rest : List Char) :
    readEscape ('u' :: (digits ++ rest)) = readLowSurrogate n rest := by
  have h1 : ¬ (0xDC00 ≤ n ∧ n ≤ 0xDFFF) := by omega
  rw [readEscape, readHex_of_spells h]
  simp only [bind, Except.bind, if_neg h1, if_pos hn]

theorem readEscape_pair {c : Char} {high low : List Char} (hc : 0x10000 ≤ c.toNat)
    (hh : SpellsCode (0xD800 + (c.toNat - 0x10000) / 0x400) high)
    (hl : SpellsCode (0xDC00 + (c.toNat - 0x10000) % 0x400) low) (rest : List Char) :
    readEscape ('u' :: (high ++ '\\' :: 'u' :: (low ++ rest))) = .ok (c, rest) := by
  have h1 := toNat_valid c
  rw [readEscape_high hh (by omega)]
  exact readLowSurrogate_code hl (by omega) (by omega) rest

theorem readEscape_short {e c : Char} (h : (e, c) ∈ shortEscapes) (rest : List Char) :
    readEscape (e :: rest) = .ok (c, rest) := by
  have h1 : ∀ p ∈ shortEscapes, p.1 ≠ 'u' ∧ shortEscape? p.1 = some p.2 := by decide
  obtain ⟨hu, he⟩ := h1 _ h
  rw [readEscape, he]
  exact hu

theorem skipEscape_code {n : Nat} {digits : List Char} (h : SpellsCode n digits)
    (rest : List Char) : skipEscape ('u' :: (digits ++ rest)) = .ok rest := by
  rw [skipEscape, readHex_of_spells h]
  rfl

theorem skipEscape_short {e c : Char} (h : (e, c) ∈ shortEscapes) (rest : List Char) :
    skipEscape (e :: rest) = .ok rest := by
  have h1 : ∀ p ∈ shortEscapes, p.1 ≠ 'u' ∧ (shortEscape? p.1).isSome = true := by decide
  obtain ⟨hu, he⟩ := h1 _ h
  rw [skipEscape, if_pos he]
  exact hu

/-! ### characters -/

theorem readChars_escape {c : Char} {cs rest : List Char} (h : readEscape cs = .ok (c, rest)) :
    readChars ('\\' :: cs) = (readChars rest).map fun r => (c :: r.1, r.2) := by
  rw [readChars, if_neg (by decide), if_pos rfl]
  split
  · next he => rw [h] at he; cases he
  · next he =>
    rw [h] at he
    cases he
    cases readChars rest <;> rfl

theorem skipText_escape {cs rest : List Char} (h : skipEscape cs = .ok rest) :
    skipText ('\\' :: cs) = skipText rest := by
  rw [skipText, if_neg (by decide), if_pos rfl]
  split
  · next he => rw [h] at he; cases he
  · next he => rw [h] at he; cases he; rfl

theorem readChars_piece {c : Char} {text : List Char} (h : SpellsPiece (.char c) text)
    (rest : List Char) :
    readChars (text ++ rest) = (readChars rest).map fun r => (c :: r.1, r.2) := by
  cases h with
  | plain hq hb hc =>
    rw [List.singleton_append, readChars, if_neg hq, if_neg hb, if_neg (Nat.not_lt.mpr hc)]
    cases readChars rest <;> rfl
  | short h => exact readChars_escape (readEscape_short h rest)
  | code h => exact readChars_escape (readEscape_code h rest)
  | pair hc hh hl =>
    have h1 := readChars_escape (readEscape_pair hc hh hl rest)
    simpa only [List.cons_append, List.append_assoc] using h1

theorem skipText_piece {p : Piece} {text : List Char} (h : SpellsPiece p text) (rest : List Char) :
    skipText (text ++ rest) = skipText rest := by
  cases h with
  | plain hq hb hc =>
    rw [List.singleton_append, skipText, if_neg hq, if_neg hb, if_neg (Nat.not_lt.mpr hc)]
  | short h => exact skipText_escape (skipEscape_short h rest)
  | code h => exact skipText_escape (skipEscape_code h rest)
  | @pair _ high low _ hh hl =>
    have h1 := skipText_escape (skipEscape_code hh ('\\' :: 'u' :: (low ++ rest)))
    have h2 := skipText_escape (skipEscape_code hl rest)
    simpa only [List.cons_append, List.append_assoc] using h1.trans h2
  | half _ _ h => exact skipText_escape (skipEscape_code h rest)

/-! ### texts -/

/-- **A text is read from each of its spellings** -/
theorem readText_of_spells {t : String} {cs : List Char} (h : SpellsText (pieces t) cs) :
    ∃ text, cs = '"' :: text ∧ ∀ rest, readText (text ++ rest) = .ok (t, rest) := by
  have h1 : ∀ (l text : List Char) (rest : List Char), SpellsPieces (l.map .char) text →
      readChars (text ++ '"' :: rest) = .ok (l, rest) := by
    intro l
    induction l with
    | nil =>
      intro text rest hs
      cases hs
      rw [List.nil_append, readChars, if_pos rfl]
    | cons c l ih =>
      intro text rest hs
      cases hs with
      | cons hp hs =>
        rw [List.append_assoc, readChars_piece hp, ih _ rest hs]
        rfl
  cases h with
  | mk hs =>
    refine ⟨_, rfl, fun rest => ?_⟩
    rw [List.append_assoc, List.singleton_append, readText, h1 _ _ rest hs]
    simp only [bind, Except.bind, pure, Except.pure, String.ofList_toList]

theorem skipText_of_spells {ps : List Piece} {cs : List Char} (h : SpellsText ps cs) :
    ∃ text, cs = '"' :: text ∧ ∀ rest, skipText (text ++ rest) = .ok rest := by
  cases h with
  | mk hs =>
    refine ⟨_, rfl, fun rest => ?_⟩
    rw [List.append_assoc, List.singleton_append]
    induction hs with
    | nil => rw [List.nil_append, skipText, if_pos rfl]
    | cons hp _ ih => rw [List.append_assoc, skipText_piece hp, ih]

end MessageFlow.Json
