import MessageFlow.Proofs.Except
import MessageFlow.Proofs.Json.Value

/-!
# Values are read to their ends

A reader may refuse a value, for its kind or for what stands in it.  A reader that succeeds has read
the value to its end and nothing behind it, whatever the value is (`Exact`).

For a list or an object this is carried from item to item: `Open` says what is left of it before the
next item, and reading the item leaves something of the same form.
-/

namespace MessageFlow.Json

variable {α β σ : Type}

/-- when the reader succeeds on a value, it leaves what follows the value -/
def Exact (read : Reader α) : Prop :=
  ∀ ⦃v : Value⦄ ⦃gap cs rest : List Char⦄, IsGap gap → Spells v cs → Stops rest →
    ∀ ⦃a : α⦄ ⦃left : List Char⦄, read (gap ++ (cs ++ rest)) = .ok (a, left) → left = rest

/-! ### the first character of a value -/

/-- the characters that a value of this kind begins with -/
def Value.Begins : Value → Char → Prop
  | .null, c => c = 'n'
  | .boolean b, c => c = if b then 't' else 'f'
  | .number _, c => c = '-' ∨ isDigit c = true
  | .text _, c => c = '"'
  | .list _, c => c = '['
  | .object _, c => c = '\x7b'

theorem IsNumber.head {cs : List Char} (h : IsNumber cs) :
    ∃ c text, cs = c :: text ∧ (c = '-' ∨ isDigit c = true) := by
  cases h with
  | negative h => exact ⟨_, _, rfl, .inl rfl⟩
  | positive h =>
    obtain ⟨d, ds, rfl, hd⟩ := h.head
    exact ⟨d, ds, rfl, .inr hd⟩

theorem Spells.begins {v : Value} {cs : List Char} (h : Spells v cs) :
    ∃ c text, cs = c :: text ∧ v.Begins c := by
  cases h with
  | null => exact ⟨_, _, rfl, rfl⟩
  | @boolean b => cases b <;> exact ⟨_, _, rfl, rfl⟩
  | number h => exact h.head
  | text h =>
    cases h
    exact ⟨_, _, rfl, rfl⟩
  | list h =>
    obtain ⟨text, rfl⟩ := h.head
    exact ⟨_, _, rfl, rfl⟩
  | object h =>
    obtain ⟨text, rfl⟩ := h.head
    exact ⟨_, _, rfl, rfl⟩

/-- behind white space stands the first character of the value -/
theorem Spells.skipSpace {v : Value} {gap cs : List Char} (h : Spells v cs) (hg : IsGap gap)
    (rest : List Char) : ∃ c text, cs = c :: text ∧ v.Begins c
      ∧ Json.skipSpace (gap ++ (cs ++ rest)) = c :: (text ++ rest) := by
  obtain ⟨c, text, rfl, hb⟩ := h.begins
  obtain ⟨_, _, hl, hc, -⟩ := h.head
  cases hl
  exact ⟨c, text, rfl, hb, by rw [skipSpace_append hg, List.cons_append, skipSpace_cons hc]⟩

section

variable {v : Value}

theorem Value.Begins.null (h : v.Begins 'n') : v = .null := by
  cases v with
  | null => rfl
  | boolean b => cases b <;> simp [Begins] at h
  | _ => simp [Begins, isDigit] at h

theorem Value.Begins.text (h : v.Begins '"') : ∃ ps, v = .text ps := by
  cases v with
  | text ps => exact ⟨ps, rfl⟩
  | boolean b => cases b <;> simp [Begins] at h
  | _ => simp [Begins, isDigit] at h

theorem Value.Begins.list (h : v.Begins '[') : ∃ vs, v = .list vs := by
  cases v with
  | list vs => exact ⟨vs, rfl⟩
  | boolean b => cases b <;> simp [Begins] at h
  | _ => simp [Begins, isDigit] at h

theorem Value.Begins.object (h : v.Begins '\x7b') : ∃ ms, v = .object ms := by
  cases v with
  | object ms => exact ⟨ms, rfl⟩
  | boolean b => cases b <;> simp [Begins] at h
  | _ => simp [Begins, isDigit] at h

end

/-! ### texts -/

/-- the low half of a pair is an escape of its own for a reader that passes over the text -/
theorem skipEscape_of_readLowSurrogate {high : Nat} {cs rest : List Char} {c : Char}
    (h : readLowSurrogate high cs = .ok (c, rest)) :
    ∃ escape, cs = '\\' :: escape ∧ skipEscape escape = .ok rest := by
  unfold readLowSurrogate at h
  split at h
  · cases h
  · cases h
  · next digits =>
    obtain ⟨⟨low, left⟩, h1, h2⟩ := exists_of_bind_eq_ok h
    refine ⟨'u' :: digits, rfl, ?_⟩
    dsimp only at h2
    by_cases hl : 0xDC00 ≤ low ∧ low ≤ 0xDFFF
    · rw [if_pos hl] at h2
      obtain rfl : left = rest := congrArg Prod.snd (Except.ok.inj h2)
      rw [skipEscape, h1]
      rfl
    · rw [if_neg hl] at h2
      cases h2
  · cases h

theorem skipEscape_of_readEscape {cs rest : List Char} {c : Char}
    (h : readEscape cs = .ok (c, rest)) : ∃ left, skipEscape cs = .ok left
      ∧ (left = rest ∨ ∃ escape, left = '\\' :: escape ∧ skipEscape escape = .ok rest) := by
  unfold readEscape at h
  split at h
  · cases h
  · next cs =>
    obtain ⟨⟨n, left⟩, h1, h2⟩ := exists_of_bind_eq_ok h
    refine ⟨left, by rw [skipEscape, h1]; rfl, ?_⟩
    dsimp only at h2
    by_cases hlow : 0xDC00 ≤ n ∧ n ≤ 0xDFFF
    · rw [if_pos hlow] at h2
      cases h2
    rw [if_neg hlow] at h2
    by_cases hhigh : 0xD800 ≤ n ∧ n ≤ 0xDBFF
    · rw [if_pos hhigh] at h2
      exact .inr (skipEscape_of_readLowSurrogate h2)
    · rw [if_neg hhigh] at h2
      cases h2
      exact .inl rfl
  · next hu =>
    split at h
    · next he =>
      cases h
      refine ⟨_, ?_, .inl rfl⟩
      rw [skipEscape, he]
      · rfl
      · exact hu
    · cases h

/-- a text that is read is passed over in the same way -/
theorem skipText_of_readChars {cs chars rest : List Char} (h : readChars cs = .ok (chars, rest)) :
    skipText cs = .ok rest := by
  induction hn : cs.length using Nat.strongRecOn generalizing cs chars with
  | ind n ih =>
    subst hn
    cases cs with
    | nil =>
      rw [readChars] at h
      cases h
    | cons c cs =>
      rw [readChars] at h
      by_cases hq : c = '"'
      · rw [if_pos hq] at h
        cases h
        rw [skipText, if_pos hq]
      rw [if_neg hq] at h
      by_cases hb : c = '\\'
      · subst hb
        rw [if_pos rfl] at h
        split at h
        · cases h
        · next c left he =>
          obtain ⟨⟨more, _⟩, h1, h2⟩ := exists_of_bind_eq_ok h
          cases h2
          have hlt := length_readEscape he
          have h3 := ih _ (by rw [List.length_cons]; omega) h1 rfl
          obtain ⟨left', h4, rfl | ⟨escape, rfl, h5⟩⟩ := skipEscape_of_readEscape he
          · rw [skipText_escape h4, h3]
          · rw [skipText_escape h4, skipText_escape h5, h3]
      rw [if_neg hb] at h
      by_cases hc : c.toNat < 0x20
      · rw [if_pos hc] at h
        cases h
      · rw [if_neg hc] at h
        obtain ⟨⟨more, _⟩, h1, h2⟩ := exists_of_bind_eq_ok h
        cases h2
        rw [skipText, if_neg hq, if_neg hb, if_neg hc]
        exact ih _ (Nat.lt_succ_self _) h1 rfl

theorem skipText_of_readText {cs rest : List Char} {t : String} (h : readText cs = .ok (t, rest)) :
    skipText cs = .ok rest := by
  obtain ⟨⟨chars, _⟩, h1, h2⟩ := exists_of_bind_eq_ok h
  cases h2
  exact skipText_of_readChars h1

/-- a text ends at its own closing quote -/
theorem left_of_readText {ps : List Piece} {cs rest : List Char} (h : SpellsText ps ('"' :: cs))
    {t : String} {left : List Char} (hr : readText (cs ++ rest) = .ok (t, left)) : left = rest := by
  obtain ⟨text, hl, h1⟩ := skipText_of_spells h
  cases hl
  have h2 := skipText_of_readText hr
  rw [h1] at h2
  exact (Except.ok.inj h2).symm

theorem exact_text (expected : String) : Exact (text expected) := by
  intro v gap cs rest hg hs hr a left h
  obtain ⟨c, cs, rfl, hbegins, hspace⟩ := hs.skipSpace hg rest
  rw [text, hspace] at h
  split at h
  · next hl =>
    cases hl
    obtain ⟨ps, rfl⟩ := hbegins.text
    cases hs with
    | text hs => exact left_of_readText hs h
  · cases h

theorem Exact.optional {read : Reader α} (hread : Exact read) : Exact (optional read) := by
  intro v gap cs rest hg hs hr a left h
  obtain ⟨c, cs, rfl, hbegins, hspace⟩ := hs.skipSpace hg rest
  rw [Json.optional, hspace] at h
  split at h
  · next hl =>
    cases hl
    obtain rfl := hbegins.null
    cases hs
    cases h
    rfl
  · obtain ⟨⟨a, left⟩, h1, h2⟩ := exists_of_bind_eq_ok h
    cases h2
    exact hread .nil hs hr h1

/-! ### lists and objects between two items -/

/-- what is left of a list or an object before the next item, and then of the text: the closing
bracket, or an item and what is left behind it -/
inductive Open (R : β → List Char → Prop) (frame : Frame) (rest : List Char) :
    Bool → List Char → Prop
  | last {first : Bool} {gap : List Char} (hg : IsGap gap) :
      Open R frame rest first (gap ++ frame.close :: rest)
  | more {first : Bool} {gap before text tail : List Char} {b : β} (hg : IsGap gap)
      (hb : IsGap before) (h : R b text) (ht : Open R frame rest false tail) :
      Open R frame rest first (between first gap ++ (before ++ (text ++ tail)))

section

variable {R : β → List Char → Prop} {frame : Frame} {rest cs : List Char} {first : Bool}

/-- a value stops before what is left behind it -/
theorem Open.stops (h : Open R frame rest false cs) : Stops cs := by
  cases h with
  | last hg => exact .append hg (.close frame rest)
  | more hg hb h ht =>
    rw [between_false, List.append_assoc]
    exact .append hg (.cons (.inr (.inl rfl)) _)

theorem Separated.opened {bs : List β} (h : Separated R bs cs) {gap : List Char} (hg : IsGap gap)
    (first : Bool) (frame : Frame) (rest : List Char) :
    Open R frame rest first (between first gap ++ (cs ++ frame.close :: rest)) := by
  induction h generalizing gap first with
  | single hb h ha =>
    rw [List.append_assoc, List.append_assoc]
    exact .more hg hb h (.last ha)
  | cons hb h ha _ ih =>
    have h1 := ih ha false
    rw [between_false, List.append_assoc, List.singleton_append] at h1
    rw [List.append_assoc, List.append_assoc, List.append_assoc, List.cons_append]
    exact .more hg hb h h1

theorem Enclosed.opened (frame : Frame) {opening : Char} {bs : List β}
    (h : Enclosed R opening frame.close bs (opening :: cs)) (rest : List Char) :
    Open R frame rest true (cs ++ rest) := by
  cases h with
  | empty hg =>
    rw [List.append_assoc, List.singleton_append]
    exact .last hg
  | full h =>
    rw [List.append_assoc, List.singleton_append]
    exact h.opened .nil true frame rest

end

/-! ### lists -/

section

variable {read : Reader α} {first : Bool} {cs rest left : List Char}

theorem Open.item (h : Open Spells .list rest first cs) :
    item first cs = .ok (false, ']' :: rest) ∨ ∃ v text tail, Spells v text
      ∧ Open Spells .list rest false tail ∧ item first cs = .ok (true, text ++ tail) := by
  cases h with
  | last hg => exact .inl (item_end hg first rest)
  | more hg hb hv ht =>
    obtain ⟨c, text, rfl, hc, hl⟩ := hv.head
    exact .inr ⟨_, _, _, hv, ht, item_of_spells hg hb hc hl first _⟩

theorem Exact.left_of_items (hread : Exact read) (h : Open Spells .list rest first cs) {n : Nat}
    {as : List α} (hr : items read n first cs = .ok (as, left)) : left = rest := by
  induction n generalizing first cs as with
  | zero => cases hr
  | succ n ih =>
    rw [items] at hr
    obtain h1 | ⟨v, text, tail, hv, ht, h1⟩ := h.item
    · rw [h1] at hr
      cases hr
      rfl
    · rw [h1, ok_bind] at hr
      obtain ⟨⟨a, behind⟩, h2, h3⟩ := exists_of_bind_eq_ok hr
      obtain ⟨⟨more, behind'⟩, h4, h5⟩ := exists_of_bind_eq_ok h3
      cases h5
      obtain rfl := hread .nil hv ht.stops h2
      exact ih ht h4

theorem Exact.list (hread : Exact read) : Exact (list read) := by
  intro v gap cs rest hg hs hr a left h
  obtain ⟨c, cs, rfl, hbegins, hspace⟩ := hs.skipSpace hg rest
  rw [Json.list, hspace] at h
  split at h
  · next hl =>
    cases hl
    obtain ⟨vs, rfl⟩ := hbegins.list
    cases hs with
    | list hs => exact hread.left_of_items (Enclosed.opened .list hs rest) h
  · cases h

theorem Exact.open_of_slot (hread : Exact read) (h : Open Spells .list rest first cs)
    {o : Option α} (hr : slot first read cs = .ok (o, left)) :
    Open Spells .list rest false left := by
  rw [slot] at hr
  obtain h1 | ⟨v, text, tail, hv, ht, h1⟩ := h.item
  · rw [h1] at hr
    cases hr
    exact .last .nil
  · rw [h1, ok_bind] at hr
    obtain ⟨⟨a, behind⟩, h2, h3⟩ := exists_of_bind_eq_ok hr
    cases h3
    obtain rfl := hread .nil hv ht.stops h2
    exact ht

theorem left_of_closeList (h : Open Spells .list rest false cs) (hr : closeList cs = .ok left) :
    left = rest := by
  cases h with
  | last hg =>
    rw [closeList, skipSpace_append hg] at hr
    cases hr
    rfl
  | @more _ _ before text tail _ hg hb hv ht =>
    rw [between_false, List.append_assoc, closeList, skipSpace_append hg,
      List.singleton_append, skipSpace_cons (by decide)] at hr
    -- a comma is a fault, whatever follows it
    split at hr
    · cases hr
    · next hl => simp at hl
    · split at hr <;> cases hr
    · cases hr

end

/-! ### objects -/

/-- when the reader succeeds on what follows the key of a member, it leaves what follows the member -/
def ExactBehindKey (read : Reader α) : Prop :=
  ∀ ⦃v : Value⦄ ⦃before after cs rest : List Char⦄, IsGap before → IsGap after → Spells v cs →
    Stops rest → ∀ ⦃a : α⦄ ⦃left : List Char⦄,
      read (before ++ ':' :: (after ++ (cs ++ rest))) = .ok (a, left) → left = rest

theorem Exact.valueOf {read : Reader α} (hread : Exact read) : ExactBehindKey (valueOf read) := by
  intro v before after cs rest hb ha hs hr a left h
  rw [Json.valueOf, colon_gap hb] at h
  exact hread ha hs hr h

theorem Exact.once {read : Reader α} (hread : Exact read) (name : String) (o : Option α) :
    ExactBehindKey (once name o read) := by
  intro v before after cs rest hb ha hs hr a left h
  rw [Json.once] at h
  cases o with
  | none => exact hread.valueOf hb ha hs hr h
  | some => cases h

theorem exactBehindKey_ignore (draft : σ) : ExactBehindKey (ignore draft) := by
  intro v before after cs rest hb ha hs hr a left h
  rw [ignore_of_spells hb ha hs hr] at h
  cases h
  rfl

/-- what is made of the value makes no difference -/
theorem ExactBehindKey.map {read : Reader α} (hread : ExactBehindKey read) (f : α → β) :
    ExactBehindKey fun cs => read cs >>= fun r => pure (f r.1, r.2) := by
  intro v before after cs rest hb ha hs hr b left h
  obtain ⟨⟨a, behind⟩, h1, h2⟩ := exists_of_bind_eq_ok h
  cases h2
  exact hread hb ha hs hr h1

section

variable {member : σ → String → Reader σ} {first : Bool} {cs rest left : List Char}

/-- a key is the last one, or what is left behind it is the value of its member -/
theorem Open.key (h : Open (SpellsMember Spells) .object rest first cs) {k : Option String}
    (hr : key first cs = .ok (k, left)) : k = none ∧ left = '\x7d' :: rest
      ∨ ∃ name v before after text tail, k = some name ∧ IsGap before ∧ IsGap after ∧ Spells v text
        ∧ Open (SpellsMember Spells) .object rest false tail
        ∧ left = before ++ ':' :: (after ++ (text ++ tail)) := by
  cases h with
  | last hg =>
    rw [Json.key, skipSpace_append hg] at hr
    cases hr
    exact .inl ⟨rfl, rfl⟩
  | @more _ _ _ text tail _ hg hb hm ht =>
    obtain @⟨ps, v, name, before, after, text, hk, hb', ha, hv⟩ := hm
    obtain ⟨body, rfl, -⟩ := skipText_of_spells hk
    simp only [List.cons_append, List.append_assoc] at hr
    rw [key_of_spells hg hb] at hr
    cases hname : readText (body ++ (before ++ ':' :: (after ++ (text ++ tail)))) with
    | error f =>
      rw [hname] at hr
      cases hr
    | ok r =>
      obtain ⟨name, behind⟩ := r
      obtain rfl := left_of_readText hk hname
      rw [hname] at hr
      cases hr
      exact .inr ⟨name, v, before, after, text, tail, rfl, hb', ha, hv, ht, rfl⟩

theorem left_of_members (hm : ∀ d name, ExactBehindKey (member d name))
    (h : Open (SpellsMember Spells) .object rest first cs) {n : Nat} {draft next : σ}
    (hr : members member n first draft cs = .ok (next, left)) : left = '\x7d' :: rest := by
  induction n generalizing first cs draft with
  | zero => cases hr
  | succ n ih =>
    rw [members] at hr
    obtain ⟨⟨k, behind⟩, h1, h2⟩ := exists_of_bind_eq_ok hr
    obtain ⟨rfl, rfl⟩ | ⟨name, v, before, after, text, tail, rfl, hb, ha, hv, ht, rfl⟩ := h.key h1
    · cases h2
      rfl
    · obtain ⟨⟨draft, behind⟩, h3, h4⟩ := exists_of_bind_eq_ok h2
      obtain rfl := hm _ name hb ha hv ht.stops h3
      exact ih ht h4

theorem exact_object (hm : ∀ d name, ExactBehindKey (member d name)) (start : σ) :
    Exact (object member start) := by
  intro v gap cs rest hg hs hr a left h
  obtain ⟨c, cs, rfl, hbegins, hspace⟩ := hs.skipSpace hg rest
  rw [object, hspace] at h
  split at h
  · next hl =>
    cases hl
    obtain ⟨ms, rfl⟩ := hbegins.object
    cases hs with
    | object hs =>
      obtain ⟨⟨draft, behind⟩, h1, h2⟩ := exists_of_bind_eq_ok h
      obtain rfl := left_of_members hm (Enclosed.opened .object hs rest) h1
      cases h2
      rfl
  · cases h

theorem exact_fields (hm : ∀ d name, ExactBehindKey (member d name)) (expected : String) (start : σ)
    (finish : σ → Except Fault α) {ofList : Reader α}
    (hl : ∀ ⦃cs rest left : List Char⦄ ⦃a : α⦄, Open Spells .list rest true cs →
      ofList cs = .ok (a, left) → Open Spells .list rest false left) :
    Exact (fields expected member start finish ofList) := by
  intro v gap cs rest hg hs hr a left h
  obtain ⟨c, cs, rfl, hbegins, hspace⟩ := hs.skipSpace hg rest
  rw [fields, hspace] at h
  split at h
  · next hbrace =>
    cases hbrace
    obtain ⟨ms, rfl⟩ := hbegins.object
    cases hs with
    | object hs =>
      obtain ⟨⟨draft, behind⟩, h1, h2⟩ := exists_of_bind_eq_ok h
      obtain ⟨b, -, h3⟩ := exists_of_bind_eq_ok h2
      obtain rfl := left_of_members hm (Enclosed.opened .object hs rest) h1
      cases h3
      rfl
  · next hbracket =>
    cases hbracket
    obtain ⟨vs, rfl⟩ := hbegins.list
    cases hs with
    | list hs =>
      obtain ⟨⟨b, behind⟩, h1, h2⟩ := exists_of_bind_eq_ok h
      obtain ⟨behind', h3, h4⟩ := exists_of_bind_eq_ok h2
      obtain rfl := left_of_closeList (hl (Enclosed.opened .list hs rest) h1) h3
      cases h4
      rfl
  · cases h

end

/-! ### the members of an object that is read -/

/-- each member of these names makes the next draft of the one before it -/
inductive Steps (member : σ → String → Reader σ) : σ → List String → σ → Prop
  | nil (draft : σ) : Steps member draft [] draft
  | cons {draft next last : σ} {name : String} {names : List String} {cs left : List Char}
      (h : member draft name cs = .ok (next, left)) (hs : Steps member next names last) :
      Steps member draft (name :: names) last

section

variable {member : σ → String → Reader σ} (hm : ∀ d name, ExactBehindKey (member d name))
include hm

theorem steps_of_members {ms : List (String × Value)} {text : List Char}
    (hs : Separated (SpellsMember Spells) (ms.map fun m => (pieces m.1, m.2)) text) {n : Nat}
    {gap rest left : List Char} (hg : IsGap gap) {first : Bool} {draft last : σ}
    (hr : members member n first draft (between first gap ++ (text ++ '\x7d' :: rest)) =
      .ok (last, left)) : Steps member draft (ms.map Prod.fst) last := by
  induction ms generalizing n text gap first draft with
  | nil => cases hs
  | cons m ms ih =>
    cases n with
    | zero => cases hr
    | succ n =>
      obtain ⟨m', ms', before, t, after, tail, hl, hb, hmember, ha, rfl, htail⟩ := hs.uncons
      obtain ⟨rfl, rfl⟩ := List.cons.inj hl
      obtain ⟨b, a, cs, hb', ha', hv, h1⟩ := members_cons member hg hb hmember n first draft
      simp only [List.append_assoc] at hr
      rw [h1] at hr
      obtain ⟨⟨next, behind⟩, h2, h3⟩ := exists_of_bind_eq_ok hr
      obtain ⟨hms, rfl⟩ | ⟨more, hothers, rfl⟩ := htail
      · obtain rfl := List.map_eq_nil_iff.mp hms
        obtain rfl := hm _ _ hb' ha' hv (.append ha (.close .object rest)) h2
        cases n with
        | zero => cases h3
        | succ n =>
          cases (members_end ha member n false next rest).symm.trans h3
          exact .cons h2 (.nil _)
      · obtain rfl := hm _ _ hb' ha' hv (.append ha (.cons (.inr (.inl rfl)) _)) h2
        have h4 : members member n false next
            (between false after ++ (more ++ '\x7d' :: rest)) = .ok (last, left) := by
          rw [between_false, List.append_assoc]
          exact h3
        exact .cons h2 (ih hothers ha h4)

theorem steps_of_enclosed {ms : List (String × Value)} {text rest left : List Char}
    (hs : Enclosed (SpellsMember Spells) '\x7b' '\x7d' (ms.map fun m => (pieces m.1, m.2))
      ('\x7b' :: text)) {n : Nat} {draft last : σ}
    (hr : members member (n + 1) true draft (text ++ rest) = .ok (last, left)) :
    Steps member draft (ms.map Prod.fst) last := by
  generalize hl : ms.map (fun m => (pieces m.1, m.2)) = l at hs
  cases hs with
  | empty hg =>
    obtain rfl := List.map_eq_nil_iff.mp hl
    rw [List.append_assoc, List.singleton_append, members_end hg] at hr
    cases hr
    exact .nil draft
  | full hs =>
    subst hl
    rw [List.append_assoc, List.singleton_append] at hr
    exact steps_of_members hm hs .nil hr

/-- an object that is read has been read member by member -/
theorem steps_of_fields {ms : List (String × Value)} {gap cs rest left : List Char} (hg : IsGap gap)
    (hs : Spells (.ofMembers ms) cs) {expected : String} {start : σ} {finish : σ → Except Fault α}
    {ofList : Reader α} {a : α}
    (h : fields expected member start finish ofList (gap ++ (cs ++ rest)) = .ok (a, left)) :
    ∃ last, Steps member start (ms.map Prod.fst) last ∧ finish last = .ok a := by
  cases hs with
  | object hs =>
    obtain ⟨text, rfl⟩ := hs.head
    rw [fields, skipSpace_append hg, List.cons_append, skipSpace_cons (by decide)] at h
    obtain ⟨⟨last, behind⟩, h1, h2⟩ := exists_of_bind_eq_ok h
    obtain ⟨b, h3, h4⟩ := exists_of_bind_eq_ok h2
    cases h4
    exact ⟨last, steps_of_enclosed hm hs h1, h3⟩

end

/-! ### variants -/

theorem left_of_unit {v : Value} {gap cs rest left : List Char} (hg : IsGap gap) (hs : Spells v cs)
    (h : variant.unit (gap ++ (cs ++ rest)) = .ok left) : left = rest := by
  obtain ⟨c, cs, rfl, hbegins, hspace⟩ := hs.skipSpace hg rest
  rw [variant.unit, hspace] at h
  split at h
  · next hl =>
    cases hl
    obtain rfl := hbegins.null
    cases hs
    cases h
    rfl
  · cases h

/-- the name of a variant before its value -/
theorem left_of_variantName {cs rest left : List Char}
    (h : Open (SpellsMember Spells) .object rest true cs) {expected name : String}
    (hr : text expected cs = .ok (name, left)) : ∃ v before after text tail, IsGap before
      ∧ IsGap after ∧ Spells v text ∧ Open (SpellsMember Spells) .object rest false tail
      ∧ left = before ++ ':' :: (after ++ (text ++ tail)) := by
  cases h with
  | last hg =>
    rw [text, skipSpace_append hg] at hr
    cases hr
  | @more _ _ gap _ tail _ _ hb hm ht =>
    obtain @⟨ps, v, key, before, after, t, hk, hb', ha, hv⟩ := hm
    obtain ⟨body, rfl, -⟩ := skipText_of_spells hk
    simp only [between_true, List.nil_append, List.cons_append, List.append_assoc] at hr
    rw [text, skipSpace_append hb, skipSpace_cons (by decide)] at hr
    obtain rfl := left_of_readText hk hr
    exact ⟨v, before, after, t, tail, hb', ha, hv, ht, rfl⟩

theorem exact_variant (named : String → Except Fault α) : Exact (variant named) := by
  intro v gap cs rest hg hs hr a left h
  obtain ⟨c, cs, rfl, hbegins, hspace⟩ := hs.skipSpace hg rest
  rw [variant, hspace] at h
  split at h
  · cases h
  · next hl =>
    cases hl
    obtain ⟨ps, rfl⟩ := hbegins.text
    obtain ⟨⟨name, behind⟩, h1, h2⟩ := exists_of_bind_eq_ok h
    obtain ⟨b, -, h3⟩ := exists_of_bind_eq_ok h2
    cases h3
    cases hs with
    | text hs => exact left_of_readText hs h1
  · next hl =>
    cases hl
    obtain ⟨ms, rfl⟩ := hbegins.object
    obtain ⟨⟨name, behind⟩, h1, h2⟩ := exists_of_bind_eq_ok h
    obtain ⟨b, -, h3⟩ := exists_of_bind_eq_ok h2
    obtain ⟨behind₂, h4, h5⟩ := exists_of_bind_eq_ok h3
    obtain ⟨behind₃, h6, h7⟩ := exists_of_bind_eq_ok h5
    cases hs with
    | object hs =>
      obtain ⟨v, before, after, text, tail, hb, ha, hv, ht, rfl⟩ :=
        left_of_variantName (Enclosed.opened .object hs rest) h1
      rw [colon_gap hb] at h4
      cases h4
      obtain rfl := left_of_unit ha hv h6
      cases ht with
      | last hgap =>
        rw [skipSpace_append hgap] at h7
        cases h7
        rfl
      | more hgap =>
        rw [between_false, List.append_assoc, skipSpace_append hgap] at h7
        cases h7
  · cases h

end MessageFlow.Json
