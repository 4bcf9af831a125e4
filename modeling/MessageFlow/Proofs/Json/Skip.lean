import MessageFlow.Json.Skip
import MessageFlow.Proofs.Json.Text

/-!
# Values are passed over as a whole

`skipValue` passes over any value to what follows it (`skipValue_of_spells`).  It goes through a list
or an object item by item, and every item takes at most two steps for each of its characters
(`Passes`), so that the fuel lasts for values of any depth.
-/

namespace MessageFlow.Json

/-- what may follow a value: nothing, white space, a comma or a closing bracket -/
def Stops (rest : List Char) : Prop :=
  ∀ c ∈ rest.head?, isSpace c = true ∨ c = ',' ∨ c = ']' ∨ c = '\x7d'

theorem Stops.nil : Stops [] := nofun

theorem Stops.cons {c : Char} (h : isSpace c = true ∨ c = ',' ∨ c = ']' ∨ c = '\x7d')
    (cs : List Char) : Stops (c :: cs) := by
  intro d hd
  cases hd
  exact h

theorem Stops.append {gap rest : List Char} (hg : IsGap gap) (hr : Stops rest) :
    Stops (gap ++ rest) := by
  cases gap with
  | nil => exact hr
  | cons c gap => exact .cons (.inl (isSpace_iff.mpr (hg c List.mem_cons_self))) _

/-! ### numbers -/

theorem Stops.no_digit {rest : List Char} (h : Stops rest) :
    ∀ c ∈ rest.head?, isDigit c = false ∧ c ≠ '.' ∧ c ≠ 'e' ∧ c ≠ 'E' := by
  intro c hc
  obtain h | rfl | rfl | rfl := h c hc
  · obtain rfl | rfl | rfl | rfl := isSpace_iff.mp h <;> decide
  all_goals decide

theorem readDigits_append {ds rest : List Char} (hd : IsDigits ds)
    (hr : ∀ c ∈ rest.head?, isDigit c = false) (atEnd : Fault) :
    readDigits atEnd (ds ++ rest) = .ok (ds, rest) := by
  obtain ⟨hne, hd⟩ := hd
  have hd : ∀ d ∈ ds, isDigit d = true := hd
  have h1 : (ds ++ rest).takeWhile isDigit = ds ∧ (ds ++ rest).dropWhile isDigit = rest := by
    rw [List.takeWhile_append_of_pos hd, List.dropWhile_append_of_pos hd]
    cases rest with
    | nil => exact ⟨List.append_nil ds, rfl⟩
    | cons c rest =>
      have hc : ¬ isDigit c = true := Bool.eq_false_iff.mp (hr c rfl)
      rw [List.takeWhile_cons_of_neg hc, List.dropWhile_cons_of_neg hc, List.append_nil]
      exact ⟨rfl, rfl⟩
  cases ds with
  | nil => exact absurd rfl hne
  | cons d ds =>
    rw [List.cons_append, readDigits, ← List.cons_append, h1.1, h1.2]
    exact if_pos (hd d List.mem_cons_self)

theorem readFraction_append {cs rest : List Char} (h : IsFraction cs)
    (hr : ∀ c ∈ rest.head?, isDigit c = false ∧ c ≠ '.') (atEnd : Fault) :
    ∃ ds, readFraction atEnd (cs ++ rest) = .ok (ds, rest) := by
  obtain rfl | ⟨ds, hd, rfl⟩ := h
  · refine ⟨[], ?_⟩
    rw [List.nil_append, readFraction]
    rintro cs rfl
    exact (hr '.' rfl).2 rfl
  · exact ⟨ds, readDigits_append hd (fun c hc => (hr c hc).1) atEnd⟩

theorem readExponent_append {cs rest : List Char} (h : IsExponent cs) (hr : Stops rest)
    (atEnd : Fault) : ∃ n, readExponent atEnd (cs ++ rest) = .ok (n, rest) := by
  have hrest : ∀ c ∈ rest.head?, isDigit c = false := fun c hc => (hr.no_digit c hc).1
  obtain rfl | ⟨e, sign, ds, he, hs, hd, rfl⟩ := h
  · cases rest with
    | nil => exact ⟨none, rfl⟩
    | cons c rest =>
      obtain ⟨-, -, h1, h2⟩ := hr.no_digit c rfl
      exact ⟨none, if_neg (not_or.mpr ⟨h1, h2⟩)⟩
  · have h1 := readDigits_append hd hrest atEnd
    rw [List.cons_append, List.append_assoc]
    obtain rfl | rfl | rfl := hs
    · -- a digit is no sign
      have h2 : ∀ c cs, isDigit c = false → ds ++ rest = c :: cs → False := by
        rintro c cs hc hcs
        obtain ⟨d, ds, rfl⟩ := List.exists_cons_of_ne_nil hd.1
        cases hcs
        exact Bool.eq_false_iff.mp hc (hd.2 c List.mem_cons_self)
      rw [List.nil_append, readExponent, if_pos he, h1]
      · exact ⟨_, rfl⟩
      · exact fun cs => h2 '-' cs (by decide)
      · exact fun cs => h2 '+' cs (by decide)
    · rw [List.singleton_append, readExponent, if_pos he, h1]
      exact ⟨_, rfl⟩
    · rw [List.singleton_append, readExponent, if_pos he, h1]
      exact ⟨_, rfl⟩

theorem IsExponent.no_digit {cs rest : List Char} (h : IsExponent cs) (hr : Stops rest) :
    ∀ c ∈ (cs ++ rest).head?, isDigit c = false ∧ c ≠ '.' := by
  obtain rfl | ⟨e, sign, ds, he, -, -, rfl⟩ := h
  · exact fun c hc => ⟨(hr.no_digit c hc).1, (hr.no_digit c hc).2.1⟩
  · intro c hc
    cases hc
    obtain rfl | rfl := he <;> decide

theorem IsFraction.no_digit {cs rest : List Char} (h : IsFraction cs)
    (hr : ∀ c ∈ rest.head?, isDigit c = false) : ∀ c ∈ (cs ++ rest).head?, isDigit c = false := by
  obtain rfl | ⟨ds, -, rfl⟩ := h
  · exact hr
  · intro c hc
    cases hc
    decide

/-- a number is read up to what follows it -/
theorem readNumeral_append {cs rest : List Char} (h : IsMagnitude cs) (hr : Stops rest)
    (atEnd : Fault) (negative : Bool) :
    ∃ d, readNumeral atEnd negative (cs ++ rest) = .ok (d, rest) := by
  obtain @⟨whole, fraction, exponent, hw, hz, hf, he⟩ := h
  obtain ⟨n, h1⟩ := readExponent_append he hr atEnd
  have h2 := he.no_digit hr
  obtain ⟨ds, h3⟩ := readFraction_append hf h2 atEnd
  have h4 := readDigits_append hw (hf.no_digit fun c hc => (h2 c hc).1) atEnd
  have h5 : ¬ (whole.head? = some '0' ∧ whole ≠ ['0']) := fun h => h.2 (hz h.1)
  refine ⟨⟨negative, whole, ds, n⟩, ?_⟩
  rw [readNumeral, List.append_assoc, List.append_assoc, readWhole, h4]
  simp only [bind, Except.bind, if_neg h5, pure, Except.pure, h3, h1]

/-! ### values that are neither lists nor objects -/

theorem IsMagnitude.head {cs : List Char} (h : IsMagnitude cs) :
    ∃ d ds, cs = d :: ds ∧ isDigit d = true := by
  obtain @⟨whole, fraction, exponent, hw, -, -, -⟩ := h
  obtain ⟨d, ds, rfl⟩ := List.exists_cons_of_ne_nil hw.1
  exact ⟨d, _, rfl, hw.2 d List.mem_cons_self⟩

/-- the value is no list and no object -/
def Value.IsScalar : Value → Prop
  | .list _ | .object _ => False
  | _ => True

theorem skipScalar_of_spells {v : Value} {cs rest : List Char} (h : Spells v cs) (hv : v.IsScalar)
    (hr : Stops rest) : ∃ c text, cs = c :: text
      ∧ (isSpace c = false ∧ c ≠ ']' ∧ c ≠ '[' ∧ c ≠ '\x7b')
      ∧ skipScalar c (text ++ rest) = .ok rest := by
  cases h with
  | null => exact ⟨_, _, rfl, by decide, rfl⟩
  | @boolean b => cases b <;> exact ⟨_, _, rfl, by decide, rfl⟩
  | text h =>
    obtain ⟨text, rfl, h1⟩ := skipText_of_spells h
    exact ⟨_, _, rfl, by decide, h1 rest⟩
  | number h =>
    cases h with
    | negative h =>
      obtain ⟨d, h1⟩ := readNumeral_append h hr .invalidNumber true
      refine ⟨_, _, rfl, by decide, ?_⟩
      rw [skipScalar, h1]
      rfl
    | positive h =>
      obtain ⟨n, h1⟩ := readNumeral_append h hr .invalidNumber false
      obtain ⟨d, ds, rfl, hd⟩ := h.head
      have h2 : ∀ c, isDigit c = false → d ≠ c := by
        rintro c hc rfl
        exact Bool.eq_false_iff.mp hc hd
      have h3 : isSpace d = false := by
        rw [Bool.eq_false_iff, ne_eq, isSpace_iff]
        rintro (h | h | h | h) <;> exact h2 _ (by decide) h
      refine ⟨d, ds, rfl, ⟨h3, h2 _ (by decide), h2 _ (by decide), h2 _ (by decide)⟩, ?_⟩
      rw [List.cons_append] at h1
      rw [skipScalar, if_pos hd, h1]
      · rfl
      all_goals exact h2 _ (by decide)
  | list => exact hv.elim
  | object => exact hv.elim

theorem skipFrom_scalar {c : Char} (hc : isSpace c = false ∧ c ≠ ']' ∧ c ≠ '[' ∧ c ≠ '\x7b')
    (fuel : Nat) (frames : List Frame) (cs : List Char) :
    skipFrom (fuel + 1) .value frames (c :: cs) =
      skipScalar c cs >>= skipFrom fuel .next frames := by
  rw [skipFrom, skipSpace_cons hc.1]
  split
  · next h => cases h
  · next h => cases h; exact absurd rfl hc.2.2.1
  · next h => cases h; exact absurd rfl hc.2.2.2
  · next h => cases h; rfl

/-! ### white space between the steps -/

section

variable {gap : List Char} (hg : IsGap gap) (fuel : Nat) (frame : Frame) (frames : List Frame)
  (cs : List Char)
include hg

theorem skipFrom_value_gap :
    skipFrom fuel .value frames (gap ++ cs) = skipFrom fuel .value frames cs := by
  cases fuel with
  | zero => rfl
  | succ fuel => rw [skipFrom, skipFrom, skipSpace_append hg]

theorem skipFrom_next_gap :
    skipFrom fuel .next (frame :: frames) (gap ++ cs) =
      skipFrom fuel .next (frame :: frames) cs := by
  cases fuel with
  | zero => rfl
  | succ fuel => rw [skipFrom, skipFrom, skipSpace_append hg]

theorem skipFrom_key_gap :
    (skipKey frame (gap ++ cs) >>= skipFrom fuel .value frames) =
      skipKey frame cs >>= skipFrom fuel .value frames := by
  cases frame with
  | list => exact skipFrom_value_gap hg fuel frames cs
  | object => rw [skipKey, skipKey, skipSpace_append hg]

theorem skipFrom_first_gap :
    skipFrom fuel .first (frame :: frames) (gap ++ cs) =
      skipFrom fuel .first (frame :: frames) cs := by
  cases fuel with
  | zero => rfl
  | succ fuel => rw [skipFrom, skipFrom, skipSpace_append hg]

theorem colon_gap : colon (gap ++ ':' :: cs) = .ok cs := by
  rw [colon, skipSpace_append hg, skipSpace_cons (by decide)]
  rfl

end

theorem Frame.close_not_space (frame : Frame) : isSpace frame.close = false ∧ frame.close ≠ ',' := by
  cases frame <;> decide

theorem Stops.close (frame : Frame) (cs : List Char) : Stops (frame.close :: cs) := by
  cases frame
  · exact .cons (.inr (.inr (.inl rfl))) cs
  · exact .cons (.inr (.inr (.inr rfl))) cs

theorem skipFrom_comma (fuel : Nat) (frame : Frame) (outer : List Frame) (cs : List Char) :
    skipFrom (fuel + 1) .next (frame :: outer) (',' :: cs) =
      skipKey frame cs >>= skipFrom fuel .value (frame :: outer) := by
  rw [skipFrom, skipSpace_cons (by decide)]
  rfl

theorem skipFrom_close (fuel : Nat) (frame : Frame) (outer : List Frame) (cs : List Char) :
    skipFrom (fuel + 1) .next (frame :: outer) (frame.close :: cs) =
      skipFrom fuel .next outer cs := by
  obtain ⟨h1, h2⟩ := frame.close_not_space
  rw [skipFrom, skipSpace_cons h1]
  dsimp only
  rw [if_neg h2, if_pos rfl]

theorem skipFrom_first_close (fuel : Nat) (frame : Frame) (outer : List Frame) (cs : List Char) :
    skipFrom (fuel + 1) .first (frame :: outer) (frame.close :: cs) =
      skipFrom fuel .next outer cs := by
  rw [skipFrom, skipSpace_cons frame.close_not_space.1]
  exact if_pos rfl

theorem skipFrom_first {c : Char} (fuel : Nat) {frame : Frame} (hs : isSpace c = false)
    (hc : c ≠ frame.close) (outer : List Frame) (cs : List Char) :
    skipFrom (fuel + 1) .first (frame :: outer) (c :: cs) =
      skipKey frame (c :: cs) >>= skipFrom fuel .value (frame :: outer) := by
  rw [skipFrom, skipSpace_cons hs]
  exact if_neg hc

/-! ### lists and objects -/

/-- an item of a list or an object is passed over in at most two steps for each character -/
structure Passes (frame : Frame) (text : List Char) : Prop where
  head : ∃ c cs, text = c :: cs ∧ isSpace c = false ∧ c ≠ frame.close
  steps (outer : List Frame) {rest : List Char} (hr : Stops rest) :
    ∃ k ≤ 2 * text.length, ∀ fuel,
      (skipKey frame (text ++ rest) >>= skipFrom (fuel + k) .value (frame :: outer)) =
        skipFrom fuel .next (frame :: outer) rest

section

variable {α : Type} {R : α → List Char → Prop} {frame : Frame}

/-- items are passed over one by one, up to the closing bracket -/
theorem Separated.passes {as : List α} {text : List Char} (h : Separated R as text)
    (hR : ∀ a t, R a t → t.length ≤ text.length → Passes frame t) (outer : List Frame)
    (rest : List Char) :
    ∃ k ≤ 2 * text.length + 1, ∀ fuel,
      (skipKey frame (text ++ frame.close :: rest) >>= skipFrom (fuel + k) .value (frame :: outer)) =
        skipFrom fuel .next outer rest := by
  induction h with
  | @single a before text after hb ha hg =>
    have hp := hR a text ha (by simp only [List.length_append]; omega)
    obtain ⟨k, hk, h1⟩ := hp.steps outer (.append hg (.close frame rest))
    refine ⟨1 + k, by simp only [List.length_append]; omega, fun fuel => ?_⟩
    rw [List.append_assoc, List.append_assoc, skipFrom_key_gap hb, ← Nat.add_assoc, h1,
      skipFrom_next_gap hg, skipFrom_close]
  | @cons a as before text after more hb ha hg hs ih =>
    have hp := hR a text ha (by simp only [List.length_append]; omega)
    obtain ⟨k, hk, h1⟩ := hp.steps outer
      (.append hg (.cons (.inr (.inl rfl)) (more ++ frame.close :: rest)))
    obtain ⟨l, hl, h2⟩ := ih fun a t ht hle => hR a t ht (by
      simp only [List.length_append, List.length_cons]; omega)
    refine ⟨l + 1 + k, by simp only [List.length_append, List.length_cons]; omega, fun fuel => ?_⟩
    rw [List.append_assoc, List.append_assoc, List.append_assoc, List.cons_append,
      skipFrom_key_gap hb, ← Nat.add_assoc, ← Nat.add_assoc, h1, skipFrom_next_gap hg,
      skipFrom_comma, h2]

/-- what stands between brackets is passed over with the closing one -/
theorem Enclosed.passes (frame : Frame) {opening : Char} {as : List α} {cs : List Char}
    (h : Enclosed R opening frame.close as cs)
    (hR : ∀ a t, R a t → t.length < cs.length → Passes frame t) :
    ∃ text, cs = opening :: text ∧ ∀ outer rest, ∃ k ≤ 2 * text.length, ∀ fuel,
      skipFrom (fuel + k) .first (frame :: outer) (text ++ rest) =
        skipFrom fuel .next outer rest := by
  cases h with
  | @empty gap hg =>
    refine ⟨_, rfl, fun outer rest => ⟨1, ?_, fun fuel => ?_⟩⟩
    · rw [List.length_append, List.length_singleton]
      omega
    · rw [List.append_assoc, List.singleton_append, skipFrom_first_gap hg, skipFrom_first_close]
  | @full as text hs =>
    have hR : ∀ a t, R a t → t.length ≤ text.length → Passes frame t := by
      intro a t ht hle
      refine hR a t ht ?_
      rw [List.length_cons, List.length_append]
      omega
    refine ⟨_, rfl, fun outer rest => ?_⟩
    obtain ⟨k, hk, h1⟩ := hs.passes hR outer rest
    obtain ⟨a, as, before, t, after, tail, -, hb, ha, -, rfl, -⟩ := hs.uncons
    obtain ⟨c, cs, rfl, hc, hclose⟩ := (hR a t ha (by simp only [List.length_append]; omega)).head
    refine ⟨k + 1, ?_, fun fuel => ?_⟩
    · rw [List.length_append, List.length_singleton]
      omega
    · rw [← h1 fuel]
      simp only [List.append_assoc, List.cons_append, List.nil_append]
      rw [skipFrom_first_gap hb, ← Nat.add_assoc, skipFrom_first _ hc hclose, skipFrom_key_gap hb]

end

/-! ### all values -/

theorem SpellsMember.passes {m : List Piece × Value} {text : List Char}
    (h : SpellsMember Spells m text)
    (hv : ∀ v t, Spells v t → t.length < text.length → ∀ (frames : List Frame) (rest : List Char),
      Stops rest → ∃ k ≤ 2 * t.length, ∀ fuel,
        skipFrom (fuel + k) .value frames (t ++ rest) = skipFrom fuel .next frames rest) :
    Passes .object text := by
  obtain @⟨k, v, key, before, after, t, hk, hb, ha, ht⟩ := h
  obtain ⟨body, rfl, h1⟩ := skipText_of_spells hk
  refine ⟨⟨'"', _, rfl, by decide, by decide⟩, fun outer rest hr => ?_⟩
  obtain ⟨n, hn, h2⟩ := hv v t ht (by simp only [List.length_append, List.length_cons]; omega)
    (.object :: outer) rest hr
  refine ⟨n, by simp only [List.length_append, List.length_cons]; omega, fun fuel => ?_⟩
  have h3 : skipKey .object ('"' :: body ++ before ++ ':' :: (after ++ t) ++ rest) =
      .ok (after ++ (t ++ rest)) := by
    simp only [List.cons_append, List.append_assoc]
    rw [skipKey, skipSpace_cons (by decide)]
    dsimp only
    rw [if_pos rfl, h1]
    exact colon_gap hb _
  rw [h3]
  exact (skipFrom_value_gap ha _ _ _).trans (h2 fuel)

theorem Enclosed.head {α : Type} {R : α → List Char → Prop} {opening closing : Char} {as : List α}
    {cs : List Char} (h : Enclosed R opening closing as cs) : ∃ text, cs = opening :: text := by
  cases h <;> exact ⟨_, rfl⟩

/-- a value begins with a character that is no white space and closes no list -/
theorem Spells.head {v : Value} {cs : List Char} (h : Spells v cs) :
    ∃ c text, cs = c :: text ∧ isSpace c = false ∧ c ≠ ']' := by
  have hscalar : v.IsScalar → ∃ c text, cs = c :: text ∧ isSpace c = false ∧ c ≠ ']' := by
    intro hv
    obtain ⟨c, text, rfl, hc, -⟩ := skipScalar_of_spells h hv .nil
    exact ⟨c, text, rfl, hc.1, hc.2.1⟩
  cases h with
  | list h =>
    obtain ⟨text, rfl⟩ := h.head
    exact ⟨_, _, rfl, by decide, by decide⟩
  | object h =>
    obtain ⟨text, rfl⟩ := h.head
    exact ⟨_, _, rfl, by decide, by decide⟩
  | _ => exact hscalar trivial

/-- a value is passed over in at most two steps for each of its characters -/
theorem Spells.skips {v : Value} {cs : List Char} (h : Spells v cs) (frames : List Frame)
    (rest : List Char) (hr : Stops rest) : ∃ k ≤ 2 * cs.length, ∀ fuel,
      skipFrom (fuel + k) .value frames (cs ++ rest) = skipFrom fuel .next frames rest := by
  -- what stands inside a value has a shorter spelling
  induction hn : cs.length using Nat.strongRecOn generalizing v cs frames rest with
  | ind n ih =>
    subst hn
    have hscalar : v.IsScalar → ∃ k ≤ 2 * cs.length, ∀ fuel,
        skipFrom (fuel + k) .value frames (cs ++ rest) = skipFrom fuel .next frames rest := by
      intro hv
      obtain ⟨c, text, rfl, hc, h1⟩ := skipScalar_of_spells h hv hr
      refine ⟨1, by rw [List.length_cons]; omega, fun fuel => ?_⟩
      rw [List.cons_append, skipFrom_scalar hc, h1]
      rfl
    cases h with
    | list h =>
      have hitem : ∀ v t, Spells v t → t.length < cs.length → Passes .list t := by
        intro v t ht hlt
        obtain ⟨c, text, rfl, hc⟩ := ht.head
        exact ⟨⟨c, text, rfl, hc⟩, fun outer rest hr => ih _ hlt ht (.list :: outer) rest hr rfl⟩
      obtain ⟨text, rfl, h1⟩ := Enclosed.passes .list h hitem
      obtain ⟨k, hk, h2⟩ := h1 frames rest
      refine ⟨k + 1, by rw [List.length_cons]; omega, fun fuel => ?_⟩
      rw [← h2 fuel, List.cons_append, ← Nat.add_assoc, skipFrom, skipSpace_cons (by decide)]
      rfl
    | object h =>
      have hmember : ∀ m t, SpellsMember Spells m t → t.length < cs.length → Passes .object t := by
        intro m t ht hlt
        exact ht.passes fun v u hu hle frames rest hr =>
          ih _ (Nat.lt_trans hle hlt) hu frames rest hr rfl
      obtain ⟨text, rfl, h1⟩ := Enclosed.passes .object h hmember
      obtain ⟨k, hk, h2⟩ := h1 frames rest
      refine ⟨k + 1, by rw [List.length_cons]; omega, fun fuel => ?_⟩
      rw [← h2 fuel, List.cons_append, ← Nat.add_assoc, skipFrom, skipSpace_cons (by decide)]
      rfl
    | _ => exact hscalar trivial

/-- **Every value is passed over as a whole**, whatever it is -/
theorem skipValue_of_spells {v : Value} {cs : List Char} (h : Spells v cs) {gap : List Char}
    (hg : IsGap gap) {rest : List Char} (hr : Stops rest) :
    skipValue (gap ++ (cs ++ rest)) = .ok rest := by
  obtain ⟨k, hk, h1⟩ := h.skips [] rest hr
  have h2 : 2 * (gap ++ (cs ++ rest)).length + 2 =
      (2 * (gap ++ (cs ++ rest)).length + 1 - k) + 1 + k := by
    simp only [List.length_append]
    omega
  rw [skipValue, skipFrom_value_gap hg, h2, h1]
  rfl

end MessageFlow.Json
