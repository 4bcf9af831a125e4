import MessageFlow.Json.Value
import MessageFlow.Proofs.Json.Skip

/-!
# Values are read as they are spelled

What a reader makes of a value is the same for all its spellings (`Reads`): white space and escapes
make no difference, and what follows the value is left.  A reader of an object takes its members one
by one into a draft (`Run`), the first fault being the fault of the object.
-/

namespace MessageFlow.Json

variable {α σ : Type}

/-- what the reader makes of a value in any spelling; a value that is read is read to its end -/
def Reads (read : Reader α) (v : Value) (r : Except Fault α) : Prop :=
  ∀ ⦃gap cs rest : List Char⦄, IsGap gap → Spells v cs → Stops rest →
    read (gap ++ (cs ++ rest)) = r.map fun a => (a, rest)

theorem Reads.whole {read : Reader α} {v : Value} {r : Except Fault α} (h : Reads read v r)
    {text : String} (ht : Denotes text v) : Json.whole read text = r := by
  obtain @⟨before, cs, after, hb, hv, ha, ht⟩ := ht
  have h1 : skipSpace after = [] := by
    have h2 := skipSpace_append ha []
    rwa [List.append_nil] at h2
  have h3 : Stops after := by
    have h4 := Stops.append ha .nil
    rwa [List.append_nil] at h4
  rw [Json.whole, ht, List.append_assoc, h hb hv h3]
  cases r with
  | error f => rfl
  | ok a =>
    simp only [Except.map, bind, Except.bind, h1]
    rfl

/-! ### texts -/

theorem reads_text (expected t : String) : Reads (text expected) (.ofText t) (.ok t) := by
  intro gap cs rest hg hs _
  cases hs with
  | text hs =>
    obtain ⟨body, rfl, h1⟩ := readText_of_spells hs
    rw [text, skipSpace_append hg, List.cons_append, skipSpace_cons (by decide)]
    exact h1 rest

theorem reads_optional_null (read : Reader α) : Reads (optional read) .null (.ok none) := by
  intro gap cs rest hg hs _
  cases hs
  rw [optional, skipSpace_append hg]
  rfl

theorem Reads.optional {read : Reader α} {t : String} {a : α}
    (h : Reads read (.ofText t) (.ok a)) : Reads (optional read) (.ofText t) (.ok (some a)) := by
  intro gap cs rest hg hs hr
  have h1 : read (cs ++ rest) = .ok (a, rest) := h .nil hs hr
  cases hs with
  | text hs =>
    obtain ⟨body, rfl, -⟩ := readText_of_spells hs
    rw [List.cons_append] at h1
    rw [Json.optional, skipSpace_append hg, List.cons_append, skipSpace_cons (by decide)]
    show (read ('"' :: (body ++ rest)) >>= fun p => pure (some p.1, p.2)) = _
    rw [h1]
    rfl

theorem reads_variant {named : String → Except Fault α} {t : String} {a : α}
    (h : named t = .ok a) : Reads (variant named) (.ofText t) (.ok a) := by
  intro gap cs rest hg hs _
  cases hs with
  | text hs =>
    obtain ⟨body, rfl, h1⟩ := readText_of_spells hs
    rw [variant, skipSpace_append hg, List.cons_append, skipSpace_cons (by decide)]
    simp only [h1, bind, Except.bind, h]
    rfl

/-! ### lists -/

/-- what stands between the opening bracket or the last item and the next item -/
def between (first : Bool) (gap : List Char) : List Char := if first then [] else gap ++ [',']

theorem between_true (gap : List Char) : between true gap = [] := rfl

theorem between_false (gap : List Char) : between false gap = gap ++ [','] := rfl

theorem item_of_spells {gap before : List Char} (hg : IsGap gap) (hb : IsGap before) {c : Char}
    (hc : isSpace c = false) (hl : c ≠ ']') (first : Bool) (cs : List Char) :
    item first (between first gap ++ (before ++ c :: cs)) = .ok (true, c :: cs) := by
  have h1 : skipSpace (before ++ c :: cs) = c :: cs := by
    rw [skipSpace_append hb, skipSpace_cons hc]
  cases first with
  | true =>
    show item true (before ++ c :: cs) = _
    rw [item, h1]
    split
    · next h => cases h
    · next h => cases h; exact absurd rfl hl
    · next h => cases h; rfl
  | false =>
    show item false (gap ++ [','] ++ (before ++ c :: cs)) = _
    rw [item, List.append_assoc, skipSpace_append hg, List.singleton_append,
      skipSpace_cons (by decide)]
    split
    · next h => cases h
    · next h => cases h
    · next h =>
      cases h
      rw [if_neg Bool.false_ne_true, if_pos rfl, h1]
      split
      · next h => cases h
      · next h => cases h; exact absurd rfl hl
      · rfl

theorem item_end {gap : List Char} (hg : IsGap gap) (first : Bool) (rest : List Char) :
    item first (gap ++ ']' :: rest) = .ok (false, ']' :: rest) := by
  rw [item, skipSpace_append hg, skipSpace_cons (by decide)]
  rfl

theorem items_end {gap : List Char} (hg : IsGap gap) (read : Reader α) (n : Nat) (first : Bool)
    (rest : List Char) : items read (n + 1) first (gap ++ ']' :: rest) = .ok ([], rest) := by
  rw [items, item_end hg]
  rfl

/-- the next item is read, and then the others -/
theorem items_cons {read : Reader α} {v : Value} {a : α} (h : Reads read v (.ok a)) {gap before text
    rest : List Char} (hg : IsGap gap) (hb : IsGap before) (hv : Spells v text) (hr : Stops rest)
    (n : Nat) (first : Bool) :
    items read (n + 1) first (between first gap ++ (before ++ (text ++ rest))) =
      (items read n false rest).map fun r => (a :: r.1, r.2) := by
  obtain ⟨c, cs, rfl, hc, hl⟩ := hv.head
  have h1 : read (c :: cs ++ rest) = .ok (a, rest) := h .nil hv hr
  rw [List.cons_append] at h1 ⊢
  rw [items, item_of_spells hg hb hc hl]
  show (read (c :: (cs ++ rest)) >>= fun p => items read n false p.2 >>= fun q =>
    pure (p.1 :: q.1, q.2)) = _
  rw [h1]
  show (items read n false rest >>= fun q => pure (a :: q.1, q.2)) = _
  cases items read n false rest <;> rfl

theorem items_of_spells {read : Reader α} {vs : List Value} {as : List α} {text : List Char}
    (h : List.Forall₂ (fun v a => Reads read v (.ok a)) vs as) (hs : Separated Spells vs text)
    {n : Nat} (hn : vs.length < n) {gap : List Char} (hg : IsGap gap) (first : Bool)
    (rest : List Char) :
    items read n first (between first gap ++ (text ++ ']' :: rest)) = .ok (as, rest) := by
  induction hs generalizing n as gap first with
  | @single v before text after hb hv ha =>
    obtain ⟨m, rfl⟩ : ∃ m, n = m + 2 := ⟨n - 2, by rw [List.length_singleton] at hn; omega⟩
    obtain _ | ⟨h, ⟨⟩⟩ := h
    have hrest : Stops (after ++ ']' :: rest) := .append ha (.close .list rest)
    rw [List.append_assoc, List.append_assoc, items_cons h hg hb hv hrest, items_end ha]
    rfl
  | @cons v vs before text after more hb hv ha hs ih =>
    obtain ⟨m, rfl⟩ : ∃ m, n = m + 1 := ⟨n - 1, by rw [List.length_cons] at hn; omega⟩
    obtain _ | ⟨h, has⟩ := h
    have hrest : Stops (after ++ ',' :: (more ++ ']' :: rest)) :=
      .append ha (.cons (.inr (.inl rfl)) _)
    have h1 := ih has (Nat.lt_of_succ_lt_succ hn) ha false
    rw [between_false, List.append_assoc, List.singleton_append] at h1
    rw [List.append_assoc, List.append_assoc, List.append_assoc, List.cons_append,
      items_cons h hg hb hv hrest, h1]
    rfl

theorem Separated.length_le {β : Type} {R : β → List Char → Prop} {as : List β}
    {text : List Char} (h : Separated R as text) : as.length ≤ text.length + 1 := by
  induction h with
  | single => exact Nat.le_add_left 1 _
  | cons _ _ _ _ ih =>
    simp only [List.length_cons, List.length_append]
    omega

/-- **A list is read item by item**, in whatever spelling -/
theorem Reads.list {read : Reader α} {vs : List Value} {as : List α}
    (h : List.Forall₂ (fun v a => Reads read v (.ok a)) vs as) :
    Reads (Json.list read) (.list vs) (.ok as) := by
  intro gap cs rest hg hs _
  cases hs with
  | list hs =>
    rw [Json.list, skipSpace_append hg]
    cases hs with
    | empty hgap =>
      cases h
      rw [List.cons_append, skipSpace_cons (by decide), List.append_assoc, List.singleton_append]
      exact items_end hgap read _ true rest
    | @full _ text hs =>
      have hn : vs.length < (text ++ ']' :: rest).length + 1 := by
        have h1 := hs.length_le
        rw [List.length_append, List.length_cons]
        omega
      rw [List.cons_append, skipSpace_cons (by decide), List.append_assoc, List.singleton_append]
      exact items_of_spells h hs hn .nil true rest

/-! ### objects -/

theorem key_of_spells {gap before : List Char} (hg : IsGap gap) (hb : IsGap before) (first : Bool)
    (cs : List Char) : key first (between first gap ++ (before ++ '"' :: cs)) =
      (readText cs).map fun r => (some r.1, r.2) := by
  have h1 : skipSpace (before ++ '"' :: cs) = '"' :: cs := by
    rw [skipSpace_append hb, skipSpace_cons (by decide)]
  cases first with
  | true =>
    show key true (before ++ '"' :: cs) = _
    rw [key, h1]
    show (readText cs >>= fun r => pure (some r.1, r.2)) = _
    cases readText cs <;> rfl
  | false =>
    show key false (gap ++ [','] ++ (before ++ '"' :: cs)) = _
    rw [key, List.append_assoc, skipSpace_append hg, List.singleton_append,
      skipSpace_cons (by decide)]
    split
    · next h => cases h
    · next h => cases h
    · next h =>
      cases h
      rw [if_neg Bool.false_ne_true, if_pos rfl, h1]
      show (readText cs >>= fun r => pure (some r.1, r.2)) = _
      cases readText cs <;> rfl

theorem members_end {gap : List Char} (hg : IsGap gap) (member : σ → String → Reader σ) (n : Nat)
    (first : Bool) (draft : σ) (rest : List Char) :
    members member (n + 1) first draft (gap ++ '\x7d' :: rest) = .ok (draft, '\x7d' :: rest) := by
  have h1 : key first (gap ++ '\x7d' :: rest) = .ok (none, '\x7d' :: rest) := by
    rw [key, skipSpace_append hg, skipSpace_cons (by decide)]
    rfl
  rw [members, h1]
  rfl

/-- the value of a member turns a draft into another one -/
def Takes (member : σ → String → Reader σ) (draft : σ) (m : String × Value) (next : σ) : Prop :=
  ∀ ⦃before after cs rest : List Char⦄, IsGap before → IsGap after → Spells m.2 cs → Stops rest →
    member draft m.1 (before ++ ':' :: (after ++ (cs ++ rest))) = .ok (next, rest)

/-- what the members make of a draft, up to the first one that is refused for its name -/
inductive Run (member : σ → String → Reader σ) : σ → List (String × Value) → Except Fault σ → Prop
  | done (draft : σ) : Run member draft [] (.ok draft)
  | take {draft next : σ} {m : String × Value} {ms : List (String × Value)} {r : Except Fault σ}
      (h : Takes member draft m next) (hr : Run member next ms r) : Run member draft (m :: ms) r
  | refuse {draft : σ} {m : String × Value} {fault : Fault}
      (h : ∀ cs, member draft m.1 cs = .error fault) (ms : List (String × Value)) :
      Run member draft (m :: ms) (.error fault)

section

variable {member : σ → String → Reader σ}

/-- the next member is read as far as its key, and then what it makes of the draft -/
theorem members_cons (member : σ → String → Reader σ) {m : String × Value}
    {gap before text rest : List Char} (hg : IsGap gap) (hb : IsGap before)
    (hm : SpellsMember Spells (pieces m.1, m.2) text) (n : Nat) (first : Bool) (draft : σ) :
    ∃ b a cs, IsGap b ∧ IsGap a ∧ Spells m.2 cs
      ∧ members member (n + 1) first draft (between first gap ++ (before ++ (text ++ rest))) =
        member draft m.1 (b ++ ':' :: (a ++ (cs ++ rest))) >>=
          fun r => members member n false r.1 r.2 := by
  obtain @⟨k, v, key, b, a, cs, hk, hb', ha', hv⟩ := hm
  obtain ⟨body, rfl, h1⟩ := readText_of_spells hk
  refine ⟨b, a, cs, hb', ha', hv, ?_⟩
  simp only [List.cons_append, List.append_assoc]
  rw [members, key_of_spells hg hb, h1]
  rfl

theorem members_of_spells {ms : List (String × Value)} {draft : σ} {r : Except Fault σ}
    (h : Run member draft ms r) {text : List Char}
    (hs : Separated (SpellsMember Spells) (ms.map fun m => (pieces m.1, m.2)) text) {n : Nat}
    (hn : ms.length < n) {gap : List Char} (hg : IsGap gap) (first : Bool) (rest : List Char) :
    members member n first draft (between first gap ++ (text ++ '\x7d' :: rest)) =
      r.map fun d => (d, '\x7d' :: rest) := by
  induction h generalizing n text gap first with
  | done draft => cases hs
  | @take draft next m ms r h hr ih =>
    obtain ⟨n, rfl⟩ : ∃ k, n = k + 1 := ⟨n - 1, by rw [List.length_cons] at hn; omega⟩
    have hn := Nat.lt_of_succ_lt_succ hn
    obtain ⟨m', ms', before, t, after, tail, hl, hb, hm, ha, rfl, htail⟩ := hs.uncons
    obtain ⟨rfl, rfl⟩ := List.cons.inj hl
    -- a closing brace or a comma with the other members
    have hmore : Stops (after ++ (tail ++ '\x7d' :: rest))
        ∧ members member n false next (after ++ (tail ++ '\x7d' :: rest)) =
          r.map fun d => (d, '\x7d' :: rest) := by
      obtain ⟨hms, rfl⟩ | ⟨more, hothers, rfl⟩ := htail
      · obtain rfl := List.map_eq_nil_iff.mp hms
        cases hr
        obtain ⟨n, rfl⟩ := Nat.exists_eq_add_of_lt hn
        exact ⟨.append ha (.close .object rest), members_end ha member _ false next rest⟩
      · have h1 := ih hothers hn ha false
        rw [between_false, List.append_assoc] at h1
        exact ⟨.append ha (.cons (.inr (.inl rfl)) _), h1⟩
    obtain ⟨b, a, cs, hb', ha', hv, h1⟩ := members_cons member hg hb hm n first draft
    simp only [List.append_assoc]
    rw [h1, h hb' ha' hv hmore.1]
    exact hmore.2
  | @refuse draft m fault h ms =>
    obtain ⟨n, rfl⟩ : ∃ k, n = k + 1 := ⟨n - 1, by rw [List.length_cons] at hn; omega⟩
    obtain ⟨m', ms', before, t, after, tail, hl, hb, hm, -, rfl, -⟩ := hs.uncons
    obtain ⟨rfl, -⟩ := List.cons.inj hl
    obtain ⟨b, a, cs, -, -, -, h1⟩ := members_cons member hg hb hm n first draft
    simp only [List.append_assoc]
    rw [h1, h]
    rfl

/-- the members of an object up to its closing brace -/
theorem members_of_enclosed {ms : List (String × Value)} {draft : σ} {r : Except Fault σ}
    (h : Run member draft ms r) {cs : List Char}
    (hs : Enclosed (SpellsMember Spells) '\x7b' '\x7d' (ms.map fun m => (pieces m.1, m.2)) cs) :
    ∃ text, cs = '\x7b' :: text ∧ ∀ rest,
      members member ((text ++ rest).length + 1) true draft (text ++ rest) =
        r.map fun d => (d, '\x7d' :: rest) := by
  generalize hl : ms.map (fun m => (pieces m.1, m.2)) = l at hs
  cases hs with
  | @empty gap hg =>
    obtain rfl := List.map_eq_nil_iff.mp hl
    cases h
    refine ⟨_, rfl, fun rest => ?_⟩
    rw [List.append_assoc, List.singleton_append]
    exact members_end hg member _ true draft rest
  | @full _ text hs =>
    subst hl
    refine ⟨_, rfl, fun rest => ?_⟩
    have hn : ms.length < (text ++ '\x7d' :: rest).length + 1 := by
      have h1 := hs.length_le
      rw [List.length_map] at h1
      rw [List.length_append, List.length_cons]
      omega
    rw [List.append_assoc, List.singleton_append]
    exact members_of_spells h hs hn .nil true rest

/-- **An object is read member by member**, in whatever spelling -/
theorem Run.reads_object {ms : List (String × Value)} {start next : σ}
    (h : Run member start ms (.ok next)) :
    Reads (object member start) (.ofMembers ms) (.ok next) := by
  intro gap cs rest hg hs _
  cases hs with
  | object hs =>
    obtain ⟨text, rfl, h1⟩ := members_of_enclosed h hs
    rw [object, skipSpace_append hg, List.cons_append, skipSpace_cons (by decide)]
    simp only [h1]
    rfl

theorem Run.reads_fields {ms : List (String × Value)} {start : σ} {r : Except Fault σ}
    (h : Run member start ms r) (expected : String) (finish : σ → Except Fault α)
    (ofList : Reader α) :
    Reads (fields expected member start finish ofList) (.ofMembers ms) (r >>= finish) := by
  intro gap cs rest hg hs _
  cases hs with
  | object hs =>
    obtain ⟨text, rfl, h1⟩ := members_of_enclosed h hs
    rw [fields, skipSpace_append hg, List.cons_append, skipSpace_cons (by decide)]
    simp only [h1]
    cases r with
    | error f => rfl
    | ok d =>
      show (finish d >>= fun a => pure (a, rest)) = (finish d).map fun a => (a, rest)
      cases finish d <;> rfl

end

/-! ### members -/

section

variable {before after cs rest : List Char} (hb : IsGap before) (ha : IsGap after) {v : Value}
  (hs : Spells v cs) (hr : Stops rest)
include hb ha hs hr

theorem valueOf_of_reads {read : Reader α} {a : α} (h : Reads read v (.ok a)) :
    valueOf read (before ++ ':' :: (after ++ (cs ++ rest))) = .ok (a, rest) := by
  rw [valueOf, colon_gap hb]
  exact h ha hs hr

theorem once_of_reads {read : Reader α} {a : α} (h : Reads read v (.ok a)) (name : String) :
    once name none read (before ++ ':' :: (after ++ (cs ++ rest))) = .ok (a, rest) :=
  valueOf_of_reads hb ha hs hr h

theorem ignore_of_spells (draft : σ) :
    ignore draft (before ++ ':' :: (after ++ (cs ++ rest))) = .ok (draft, rest) := by
  rw [ignore, colon_gap hb]
  show (skipValue (after ++ (cs ++ rest)) >>= fun rest => pure (draft, rest)) = _
  rw [skipValue_of_spells hs ha hr]
  rfl

end

section

variable {member : σ → String → Reader σ} {draft : σ} {name : String} {v : Value}

/-- a field that has no value yet takes one -/
theorem Reads.takes {read : Reader α} {a : α} (h : Reads read v (.ok a)) (next : α → σ)
    (hm : ∀ cs, member draft name cs =
      once name none read cs >>= fun r => pure (next r.1, r.2)) :
    Takes member draft (name, v) (next a) := by
  intro before after cs rest hb ha hs hr
  rw [hm, once_of_reads hb ha hs hr h]
  rfl

/-- a member without a meaning leaves the draft as it is -/
theorem takes_ignore (hm : ∀ cs, member draft name cs = ignore draft cs) :
    Takes member draft (name, v) draft := by
  intro before after cs rest hb ha hs hr
  rw [hm, ignore_of_spells hb ha hs hr]

end

theorem Run.append {member : σ → String → Reader σ} {draft next : σ} {ms ns : List (String × Value)}
    {r : Except Fault σ} (h : Run member draft ms (.ok next)) (hr : Run member next ns r) :
    Run member draft (ms ++ ns) r := by
  generalize ho : Except.ok next = o at h
  induction h with
  | done draft => cases ho; exact hr
  | take h _ ih => exact .take h (ih ho)
  | refuse => cases ho

end MessageFlow.Json
