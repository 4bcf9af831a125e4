import Mathlib.Data.List.Basic
import MessageFlow.Text.Literal

/-!
# What JSON texts spell

A JSON text spells a `Value`, and one value has many spellings: white space may stand around all
values, keys and signs, a character may be written as it is or as an escape, and a character above
U+FFFF as the escapes of a surrogate pair.  `Spells` is the grammar, apart from any reader.

Spellings of lists and objects differ in their brackets and in what stands between the commas, so
they are put together from two forms: one or more things with commas between them (`Separated`), and
these between brackets (`Enclosed`).
-/

namespace MessageFlow.Json

/-- a character of a text, or half of a surrogate pair, which is written alone but is no character -/
inductive Piece where
  | char (c : Char)
  | half (code : Nat)

inductive Value where
  | null
  | boolean (value : Bool)
  | number (spelling : List Char)
  | text (pieces : List Piece)
  | list (values : List Value)
  | object (members : List (List Piece × Value))

/-- the pieces of a text without lone surrogates -/
def pieces (t : String) : List Piece := t.toList.map .char

namespace Value

/-- the value that is a text -/
def ofText (t : String) : Value := .text (pieces t)

/-- the object of some members -/
def ofMembers (ms : List (String × Value)) : Value := .object (ms.map fun m => (pieces m.1, m.2))

end Value

/-! ### forms -/

/-- white space that means nothing -/
def IsGap (cs : List Char) : Prop := ∀ c ∈ cs, c = ' ' ∨ c = '\n' ∨ c = '\t' ∨ c = '\r'

-- by the characters of the list, not by all there are
instance (cs : List Char) : Decidable (IsGap cs) :=
  List.decidableBAll (fun c => c = ' ' ∨ c = '\n' ∨ c = '\t' ∨ c = '\r') cs

section

variable {α : Type} (R : α → List Char → Prop)

inductive Separated : List α → List Char → Prop
  | single {a : α} {before text after : List Char} (hb : IsGap before) (h : R a text)
      (ha : IsGap after) : Separated [a] (before ++ text ++ after)
  | cons {a : α} {as : List α} {before text after more : List Char} (hb : IsGap before)
      (h : R a text) (ha : IsGap after) (hs : Separated as more) :
      Separated (a :: as) (before ++ text ++ after ++ ',' :: more)

variable {R} in
/-- the first thing, and what follows it -/
theorem Separated.uncons {l : List α} {text : List Char} (h : Separated R l text) :
    ∃ a as before t after tail, l = a :: as ∧ IsGap before ∧ R a t ∧ IsGap after
      ∧ text = before ++ (t ++ (after ++ tail))
      ∧ (as = [] ∧ tail = [] ∨ ∃ more, Separated R as more ∧ tail = ',' :: more) := by
  cases h with
  | @single a before t after hb h ha =>
    refine ⟨a, [], before, t, after, [], rfl, hb, h, ha, ?_, .inl ⟨rfl, rfl⟩⟩
    simp only [List.append_assoc, List.append_nil]
  | @cons a as before t after more hb h ha hs =>
    refine ⟨a, as, before, t, after, ',' :: more, rfl, hb, h, ha, ?_, .inr ⟨more, hs, rfl⟩⟩
    simp only [List.append_assoc]

inductive Enclosed (opening closing : Char) : List α → List Char → Prop
  | empty {gap : List Char} (h : IsGap gap) :
      Enclosed opening closing [] (opening :: (gap ++ [closing]))
  | full {as : List α} {text : List Char} (h : Separated R as text) :
      Enclosed opening closing as (opening :: (text ++ [closing]))

end

/-! ### texts -/

/-- a hexadecimal digit, a letter being small or large -/
def SpellsDigit (d : Nat) (c : Char) : Prop :=
  "0123456789abcdef".toList[d]? = some c ∨ "0123456789ABCDEF".toList[d]? = some c

instance (d : Nat) (c : Char) : Decidable (SpellsDigit d c) :=
  inferInstanceAs (Decidable (_ ∨ _))

inductive SpellsCode : Nat → List Char → Prop
  | mk {a b c d : Nat} {p q r s : Char} (ha : SpellsDigit a p) (hb : SpellsDigit b q)
      (hc : SpellsDigit c r) (hd : SpellsDigit d s) :
      SpellsCode (a * 0x1000 + b * 0x100 + c * 0x10 + d) [p, q, r, s]

/-- characters with an escape of their own -/
def shortEscapes : List (Char × Char) :=
  [('"', '"'), ('\\', '\\'), ('/', '/'), ('b', '\x08'), ('f', '\x0c'), ('n', '\n'), ('r', '\r'),
    ('t', '\t')]

inductive SpellsPiece : Piece → List Char → Prop
  | plain {c : Char} (hq : c ≠ '"') (hb : c ≠ '\\') (hc : 0x20 ≤ c.toNat) :
      SpellsPiece (.char c) [c]
  | short {e c : Char} (h : (e, c) ∈ shortEscapes) : SpellsPiece (.char c) ['\\', e]
  | code {c : Char} {digits : List Char} (h : SpellsCode c.toNat digits) :
      SpellsPiece (.char c) ('\\' :: 'u' :: digits)
  | pair {c : Char} {high low : List Char} (hc : 0x10000 ≤ c.toNat)
      (hh : SpellsCode (0xD800 + (c.toNat - 0x10000) / 0x400) high)
      (hl : SpellsCode (0xDC00 + (c.toNat - 0x10000) % 0x400) low) :
      SpellsPiece (.char c) ('\\' :: 'u' :: (high ++ '\\' :: 'u' :: low))
  | half {n : Nat} {digits : List Char} (hl : 0xD800 ≤ n) (hu : n ≤ 0xDFFF)
      (h : SpellsCode n digits) : SpellsPiece (.half n) ('\\' :: 'u' :: digits)

inductive SpellsPieces : List Piece → List Char → Prop
  | nil : SpellsPieces [] []
  | cons {p : Piece} {ps : List Piece} {text more : List Char} (h : SpellsPiece p text)
      (hs : SpellsPieces ps more) : SpellsPieces (p :: ps) (text ++ more)

inductive SpellsText : List Piece → List Char → Prop
  | mk {ps : List Piece} {text : List Char} (h : SpellsPieces ps text) :
      SpellsText ps ('"' :: (text ++ ['"']))

/-! ### numbers -/

/-- one digit or more -/
def IsDigits (cs : List Char) : Prop := cs ≠ [] ∧ ∀ c ∈ cs, c.isDigit = true

/-- a fraction with its point, if there is one -/
def IsFraction (cs : List Char) : Prop := cs = [] ∨ ∃ ds, IsDigits ds ∧ cs = '.' :: ds

/-- an exponent with its letter, if there is one -/
def IsExponent (cs : List Char) : Prop :=
  cs = [] ∨ ∃ e sign ds, (e = 'e' ∨ e = 'E') ∧ (sign = [] ∨ sign = ['+'] ∨ sign = ['-'])
    ∧ IsDigits ds ∧ cs = e :: (sign ++ ds)

/-- a number after its sign; only a zero begins with a zero -/
inductive IsMagnitude : List Char → Prop
  | mk {whole fraction exponent : List Char} (hw : IsDigits whole)
      (hz : whole.head? = some '0' → whole = ['0']) (hf : IsFraction fraction)
      (he : IsExponent exponent) : IsMagnitude (whole ++ fraction ++ exponent)

inductive IsNumber : List Char → Prop
  | positive {cs : List Char} (h : IsMagnitude cs) : IsNumber cs
  | negative {cs : List Char} (h : IsMagnitude cs) : IsNumber ('-' :: cs)

/-! ### values -/

inductive SpellsMember {α : Type} (R : α → List Char → Prop) : List Piece × α → List Char → Prop
  | mk {k : List Piece} {a : α} {key before after text : List Char} (hk : SpellsText k key)
      (hb : IsGap before) (ha : IsGap after) (h : R a text) :
      SpellsMember R (k, a) (key ++ before ++ ':' :: (after ++ text))

inductive Spells : Value → List Char → Prop
  | null : Spells .null ['n', 'u', 'l', 'l']
  | boolean {b : Bool} :
      Spells (.boolean b) (if b then ['t', 'r', 'u', 'e'] else ['f', 'a', 'l', 's', 'e'])
  | number {cs : List Char} (h : IsNumber cs) : Spells (.number cs) cs
  | text {ps : List Piece} {cs : List Char} (h : SpellsText ps cs) : Spells (.text ps) cs
  | list {vs : List Value} {cs : List Char} (h : Enclosed Spells '[' ']' vs cs) :
      Spells (.list vs) cs
  | object {ms : List (List Piece × Value)} {cs : List Char}
      (h : Enclosed (SpellsMember Spells) '\x7b' '\x7d' ms cs) : Spells (.object ms) cs

/-- the text spells a value and nothing else -/
inductive Denotes (text : String) (v : Value) : Prop
  | mk {before cs after : List Char} (hb : IsGap before) (h : Spells v cs) (ha : IsGap after)
      (ht : text.toList = before ++ cs ++ after) : Denotes text v

/-! ### spellings without white space -/

theorem IsGap.nil : IsGap [] := nofun

section

variable {α : Type} {R : α → List Char → Prop}

theorem Separated.compact {a : α} {text : List Char} (h : R a text) : Separated R [a] text := by
  have h1 := Separated.single .nil h .nil
  rwa [List.nil_append, List.append_nil] at h1

theorem Separated.compact_cons {a : α} {as : List α} {text more : List Char} (h : R a text)
    (hs : Separated R as more) : Separated R (a :: as) (text ++ ',' :: more) := by
  have h1 := Separated.cons .nil h .nil hs
  rwa [List.nil_append, List.append_nil] at h1

theorem SpellsMember.compact {k : List Piece} {a : α} {key text : List Char}
    (hk : SpellsText k key) (h : R a text) : SpellsMember R (k, a) (key ++ ':' :: text) := by
  have h1 := SpellsMember.mk hk .nil .nil h
  rwa [List.append_nil, List.nil_append] at h1

theorem exists_separated {a : α} {as : List α} (h : ∀ b ∈ a :: as, ∃ text, R b text) :
    ∃ text, Separated R (a :: as) text := by
  induction as generalizing a with
  | nil =>
    obtain ⟨text, ha⟩ := h a List.mem_cons_self
    exact ⟨text, .compact ha⟩
  | cons b as ih =>
    obtain ⟨text, ha⟩ := h a List.mem_cons_self
    obtain ⟨more, hs⟩ := ih fun c hc => h c (List.mem_cons_of_mem a hc)
    exact ⟨_, .compact_cons ha hs⟩

theorem exists_enclosed {as : List α} (h : ∀ a ∈ as, ∃ text, R a text) (opening closing : Char) :
    ∃ cs, Enclosed R opening closing as cs := by
  cases as with
  | nil => exact ⟨_, .empty .nil⟩
  | cons a as =>
    obtain ⟨text, hs⟩ := exists_separated h
    exact ⟨_, .full hs⟩

end

/-- neither a quote nor a backslash nor a control character -/
def isPlain (c : Char) : Bool := c != '"' && c != '\\' && 0x20 ≤ c.toNat

/-- a text of plain characters is written as it is -/
theorem SpellsText.plain (t : String) (h : t.toList.all isPlain = true) :
    SpellsText (pieces t) ('"' :: (t.toList ++ ['"'])) := by
  have h1 : ∀ l : List Char, (∀ c ∈ l, isPlain c = true) → SpellsPieces (l.map .char) l := by
    intro l hl
    induction l with
    | nil => exact .nil
    | cons c l ih =>
      obtain ⟨hc, hl⟩ := List.forall_mem_cons.mp hl
      simp only [isPlain, Bool.and_eq_true, bne_iff_ne, decide_eq_true_iff] at hc
      obtain ⟨⟨hq, hb⟩, hc⟩ := hc
      exact .cons (.plain hq hb hc) (ih hl)
  exact .mk (h1 t.toList (List.all_eq_true.mp h))

/-- a character is written as it is, unless it ends a text, begins an escape or is a control
character -/
theorem exists_spellsPiece (c : Char) : ∃ text, SpellsPiece (.char c) text := by
  by_cases hq : c = '"'
  · subst hq
    exact ⟨_, .short (e := '"') (by decide)⟩
  by_cases hb : c = '\\'
  · subst hb
    exact ⟨_, .short (e := '\\') (by decide)⟩
  by_cases hc : 0x20 ≤ c.toNat
  · exact ⟨_, .plain hq hb hc⟩
  · have hdigit : ∀ d, d < 16 → ∃ p, SpellsDigit d p := fun d hd =>
      ⟨"0123456789abcdef".toList[d], .inl (List.getElem?_eq_getElem hd)⟩
    obtain ⟨p, hp⟩ := hdigit 0 (by decide)
    obtain ⟨q, hq⟩ := hdigit (c.toNat / 16) (by omega)
    obtain ⟨r, hr⟩ := hdigit (c.toNat % 16) (by omega)
    have h1 : 0 * 0x1000 + 0 * 0x100 + c.toNat / 16 * 0x10 + c.toNat % 16 = c.toNat := by omega
    have h2 := SpellsCode.mk hp hp hq hr
    rw [h1] at h2
    exact ⟨_, .code h2⟩

theorem exists_spellsText (t : String) : ∃ cs, SpellsText (pieces t) cs := by
  have h1 : ∀ l : List Char, ∃ text, SpellsPieces (l.map .char) text := by
    intro l
    induction l with
    | nil => exact ⟨[], .nil⟩
    | cons c l ih =>
      obtain ⟨text, hc⟩ := exists_spellsPiece c
      obtain ⟨more, hl⟩ := ih
      exact ⟨_, .cons hc hl⟩
  obtain ⟨text, ht⟩ := h1 t.toList
  exact ⟨_, .mk ht⟩

namespace Value

theorem exists_spells_ofText (t : String) : ∃ cs, Spells (ofText t) cs := by
  obtain ⟨cs, h⟩ := exists_spellsText t
  exact ⟨cs, .text h⟩

theorem exists_spells_list {vs : List Value} (h : ∀ v ∈ vs, ∃ cs, Spells v cs) :
    ∃ cs, Spells (.list vs) cs := by
  obtain ⟨cs, h1⟩ := exists_enclosed h '[' ']'
  exact ⟨cs, .list h1⟩

theorem exists_spells_ofMembers {ms : List (String × Value)} (h : ∀ m ∈ ms, ∃ cs, Spells m.2 cs) :
    ∃ cs, Spells (ofMembers ms) cs := by
  have h1 : ∀ m ∈ ms.map (fun m => (pieces m.1, m.2)), ∃ text, SpellsMember Spells m text := by
    intro p hp
    obtain ⟨m, hm, rfl⟩ := List.mem_map.mp hp
    obtain ⟨key, hk⟩ := exists_spellsText m.1
    obtain ⟨text, hv⟩ := h m hm
    exact ⟨_, .compact hk hv⟩
  obtain ⟨cs, h2⟩ := exists_enclosed h1 '\x7b' '\x7d'
  exact ⟨cs, .object h2⟩

end Value

end MessageFlow.Json
