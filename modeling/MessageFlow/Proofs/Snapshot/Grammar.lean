import MessageFlow.Proofs.Except
import MessageFlow.Snapshot.Payload

/-!
# The grammar of payloads

Which bytes spell which item of a payload, said without a reader: `VarintForm` for numbers,
`TextForm`, `OptionForm`, `VertexForm`, `EdgeForm`, `ListForm` and `PayloadForm` for what is made of
them.  A number has up to four spellings, because a form that is wider than needed is allowed too;
all the rest of the grammar leaves no choice.

* `Reads read form`            the reader accepts the spellings of `form` and nothing else, and it
                               returns what follows the spelling;
* `Reads.payload`              the payload reader does so for the whole grammar;
* `payloadForm_writePayload`   what is written of a graph is a spelling of it, as long as all counts
                               and positions fit their fields.
-/

namespace MessageFlow.Snapshot

open Text (Bytes)

/-! ### spellings -/

/-- the spellings of a number: every width that holds it, but a position has at most four bytes -/
inductive VarintForm (f : Field) (n : Nat) : Bytes → Prop
  | one (h : n < 251) : VarintForm f n [UInt8.ofNat n]
  | two (h : n < 2 ^ 16) : VarintForm f n (251 :: littleEndian 2 n)
  | four (h : n < 2 ^ 32) : VarintForm f n (252 :: littleEndian 4 n)
  | eight (hf : f ≠ .position) (h : n < 2 ^ 64) : VarintForm f n (253 :: littleEndian 8 n)

/-- the number of bytes, then the bytes in UTF-8 -/
inductive TextForm (text : String) : Bytes → Prop
  | mk {v : Bytes} (hv : VarintForm .textLength (Text.utf8 text).length v) :
      TextForm text (v ++ Text.utf8 text)

/-- a byte that says whether the text is there, then the text -/
inductive OptionForm : Option String → Bytes → Prop
  | absent : OptionForm none [0]
  | present {text : String} {s : Bytes} (h : TextForm text s) : OptionForm (some text) (1 :: s)

inductive VertexForm (h : Handler) : Bytes → Prop
  | mk {s₁ s₂ s₃ s₄ : Bytes} (name : TextForm h.name s₁) (moduleKey : TextForm h.moduleKey s₂)
      (comment : OptionForm h.comment s₃) (entryPoint : OptionForm h.entryPoint s₄) :
      VertexForm h (s₁ ++ s₂ ++ s₃ ++ s₄)

inductive EdgeForm (e : Edge) : Bytes → Prop
  | mk {s₁ s₂ s₃ s₄ : Bytes} (source : VarintForm .position e.source s₁)
      (target : VarintForm .position e.target s₂) (name : TextForm e.message.name s₃)
      (comment : OptionForm e.message.comment s₄) : EdgeForm e (s₁ ++ s₂ ++ s₃ ++ s₄)

/-- the items one after the other -/
inductive ItemsForm {α : Type} (form : α → Bytes → Prop) : List α → Bytes → Prop
  | nil : ItemsForm form [] []
  | cons {x : α} {xs : List α} {s t : Bytes} (hx : form x s) (hxs : ItemsForm form xs t) :
      ItemsForm form (x :: xs) (s ++ t)

/-- the number of items, then the items -/
inductive ListForm {α : Type} (form : α → Bytes → Prop) (xs : List α) : Bytes → Prop
  | mk {v s : Bytes} (count : VarintForm .count xs.length v) (items : ItemsForm form xs s) :
      ListForm form xs (v ++ s)

/-- the list of the vertices, then the list of the edges -/
inductive PayloadForm (vertices : List Handler) (edges : List Edge) : Bytes → Prop
  | mk {s t : Bytes} (hv : ListForm VertexForm vertices s) (he : ListForm EdgeForm edges t) :
      PayloadForm vertices edges (s ++ t)

/-! ### bytes and numbers -/

theorem length_littleEndian (width n : Nat) : (littleEndian width n).length = width := by
  induction width generalizing n with
  | zero => rfl
  | succ width ih => rw [littleEndian, List.length_cons, ih]

theorem ofLittleEndian_littleEndian (width n : Nat) (h : n < 256 ^ width) :
    ofLittleEndian (littleEndian width n) = n := by
  induction width generalizing n with
  | zero =>
    have h1 : n = 0 := by simpa using h
    rw [h1]
    rfl
  | succ width ih =>
    have h1 : n / 256 < 256 ^ width := by
      rw [Nat.pow_succ] at h
      omega
    have h2 : (UInt8.ofNat n).toNat = n % 256 := UInt8.toNat_ofNat'
    rw [littleEndian, ofLittleEndian, ih _ h1, h2]
    omega

theorem ofLittleEndian_lt (ds : Bytes) : ofLittleEndian ds < 256 ^ ds.length := by
  induction ds with
  | nil => decide
  | cons d ds ih =>
    have h1 := d.toNat_lt
    rw [ofLittleEndian, List.length_cons, Nat.pow_succ]
    omega

theorem littleEndian_ofLittleEndian (ds : Bytes) :
    littleEndian ds.length (ofLittleEndian ds) = ds := by
  induction ds with
  | nil => rfl
  | cons d ds ih =>
    have h1 := d.toNat_lt
    have h2 : (d.toNat + 256 * ofLittleEndian ds) / 256 = ofLittleEndian ds := by omega
    have h3 : UInt8.ofNat (d.toNat + 256 * ofLittleEndian ds) = d := by
      apply UInt8.toNat.inj
      rw [UInt8.toNat_ofNat']
      omega
    rw [ofLittleEndian, List.length_cons, littleEndian, h2, h3, ih]

/-! ### readers that accept a form -/

/-- the reader accepts the spellings of the form and nothing else -/
structure Reads {α : Type} (read : Reader α) (form : α → Bytes → Prop) : Prop where
  complete : ∀ {x : α} {s : Bytes}, form x s → ∀ rest, read (s ++ rest) = .ok (x, rest)
  sound : ∀ {bytes : Bytes} {x : α} {rest : Bytes}, read bytes = .ok (x, rest) →
    ∃ s, form x s ∧ bytes = s ++ rest

theorem take_append (s rest : Bytes) : take s.length (s ++ rest) = .ok (s, rest) := by
  have h1 : ¬ (s ++ rest).length < s.length := by
    rw [List.length_append]
    omega
  rw [take, if_neg h1, List.take_left, List.drop_left]

theorem exists_of_take {n : Nat} {bytes s rest : Bytes} (h : take n bytes = .ok (s, rest)) :
    s.length = n ∧ bytes = s ++ rest := by
  unfold take at h
  split at h
  · cases h
  · rename_i hn
    cases h
    refine ⟨?_, (List.take_append_drop n bytes).symm⟩
    rw [List.length_take]
    omega

theorem Reads.fixed (width : Nat) :
    Reads (readFixed width) (fun n s => n < 256 ^ width ∧ s = littleEndian width n) where
  complete := by
    rintro n _ ⟨hn, rfl⟩ rest
    have h1 := take_append (littleEndian width n) rest
    rw [length_littleEndian] at h1
    rw [readFixed, h1, ok_bind]
    show Except.ok (ofLittleEndian (littleEndian width n), rest) = _
    rw [ofLittleEndian_littleEndian width n hn]
  sound := by
    intro bytes n rest h
    obtain ⟨⟨ds, rest'⟩, h1, h2⟩ := exists_of_bind_eq_ok h
    cases h2
    obtain ⟨rfl, rfl⟩ := exists_of_take h1
    exact ⟨ds, ⟨ofLittleEndian_lt ds, (littleEndian_ofLittleEndian ds).symm⟩, rfl⟩

theorem Reads.varint (f : Field) : Reads (readVarint f) (VarintForm f) where
  complete := by
    intro n s h rest
    cases h with
    | one h =>
      have h1 : (UInt8.ofNat n).toNat = n := by
        rw [UInt8.toNat_ofNat']
        omega
      have h2 : UInt8.ofNat n < 251 := by
        rw [UInt8.lt_iff_toNat_lt, h1]
        exact h
      show readVarint f (UInt8.ofNat n :: rest) = _
      rw [readVarint, if_pos h2, h1]
    | two h => exact (Reads.fixed 2).complete ⟨h, rfl⟩ rest
    | four h => exact (Reads.fixed 4).complete ⟨h, rfl⟩ rest
    | eight hf h =>
      show (if f = .position then _ else readFixed 8 (littleEndian 8 n ++ rest)) = _
      rw [if_neg hf]
      exact (Reads.fixed 8).complete ⟨h, rfl⟩ rest
  sound := by
    intro bytes n rest h
    cases bytes with
    | nil => cases h
    | cons b bytes =>
      rw [readVarint] at h
      split at h
      · rename_i hb
        cases h
        have h1 : [UInt8.ofNat b.toNat] = [b] := by rw [UInt8.ofNat_toNat]
        refine ⟨[UInt8.ofNat b.toNat], .one (UInt8.lt_iff_toNat_lt.mp hb), ?_⟩
        rw [h1]
        rfl
      · split at h
        · rename_i hb
          obtain ⟨_, ⟨hn, rfl⟩, rfl⟩ := (Reads.fixed 2).sound h
          exact ⟨_, .two hn, by rw [hb]; rfl⟩
        · split at h
          · rename_i hb
            obtain ⟨_, ⟨hn, rfl⟩, rfl⟩ := (Reads.fixed 4).sound h
            exact ⟨_, .four hn, by rw [hb]; rfl⟩
          · split at h
            · rename_i hb
              split at h
              · cases h
              · rename_i hf
                obtain ⟨_, ⟨hn, rfl⟩, rfl⟩ := (Reads.fixed 8).sound h
                exact ⟨_, .eight hf hn, by rw [hb]; rfl⟩
            · cases h

theorem eq_utf8_of_ofUtf8 {spelled : Bytes} {text : String} (h : Text.ofUtf8 spelled = .ok text) :
    spelled = Text.utf8 text := by
  unfold Text.ofUtf8 at h
  split at h
  · rename_i text' h'
    cases h
    rw [String.fromUTF8?] at h'
    split at h'
    · cases h'
      rw [← List.toByteArray_inj, Text.toByteArray_utf8]
      rfl
    · cases h'
  · cases h

theorem Reads.text : Reads readText TextForm where
  complete := by
    rintro text _ ⟨hv⟩ rest
    rw [readText, List.append_assoc, (Reads.varint .textLength).complete hv, ok_bind]
    show take (Text.utf8 text).length (Text.utf8 text ++ rest) >>= _ = _
    rw [take_append, ok_bind]
    dsimp only
    rw [Text.ofUtf8_utf8]
    rfl
  sound := by
    intro bytes text rest h
    obtain ⟨⟨n, bytes₁⟩, h1, h2⟩ := exists_of_bind_eq_ok h
    obtain ⟨⟨spelled, bytes₂⟩, h3, h4⟩ := exists_of_bind_eq_ok h2
    obtain ⟨v, hv, rfl⟩ := (Reads.varint .textLength).sound h1
    obtain ⟨hn, rfl⟩ := exists_of_take h3
    dsimp only at h4
    split at h4
    · rename_i text' h5
      cases h4
      have hs := eq_utf8_of_ofUtf8 h5
      rw [← hn, hs] at hv
      exact ⟨v ++ Text.utf8 text, .mk hv, by rw [hs, List.append_assoc]⟩
    · cases h4

theorem Reads.option : Reads readOption OptionForm where
  complete := by
    intro o s h rest
    cases h with
    | absent => rfl
    | present h =>
      show readText (_ ++ rest) >>= _ = _
      rw [Reads.text.complete h]
      rfl
  sound := by
    intro bytes o rest h
    cases bytes with
    | nil => cases h
    | cons b bytes =>
      rw [readOption] at h
      split at h
      · rename_i hb
        cases h
        exact ⟨[0], .absent, by rw [hb]; rfl⟩
      · split at h
        · rename_i hb
          obtain ⟨⟨text, bytes₁⟩, h1, h⟩ := exists_of_bind_eq_ok h
          cases h
          obtain ⟨s, hs, rfl⟩ := Reads.text.sound h1
          exact ⟨1 :: s, .present hs, by rw [hb]; rfl⟩
        · cases h

theorem Reads.vertex : Reads readVertex VertexForm where
  complete := by
    rintro v _ ⟨name, moduleKey, comment, entryPoint⟩ rest
    rw [readVertex, List.append_assoc, List.append_assoc, List.append_assoc,
      Reads.text.complete name, ok_bind]
    dsimp only
    rw [Reads.text.complete moduleKey, ok_bind]
    dsimp only
    rw [Reads.option.complete comment, ok_bind]
    dsimp only
    rw [Reads.option.complete entryPoint]
    rfl
  sound := by
    intro bytes v rest h
    obtain ⟨⟨name, bytes₁⟩, h1, h⟩ := exists_of_bind_eq_ok h
    obtain ⟨⟨moduleKey, bytes₂⟩, h2, h⟩ := exists_of_bind_eq_ok h
    obtain ⟨⟨comment, bytes₃⟩, h3, h⟩ := exists_of_bind_eq_ok h
    obtain ⟨⟨entryPoint, bytes₄⟩, h4, h⟩ := exists_of_bind_eq_ok h
    cases h
    obtain ⟨s₁, hs₁, rfl⟩ := Reads.text.sound h1
    obtain ⟨s₂, hs₂, rfl⟩ := Reads.text.sound h2
    obtain ⟨s₃, hs₃, rfl⟩ := Reads.option.sound h3
    obtain ⟨s₄, hs₄, rfl⟩ := Reads.option.sound h4
    exact ⟨s₁ ++ s₂ ++ s₃ ++ s₄, .mk hs₁ hs₂ hs₃ hs₄, by simp only [List.append_assoc]⟩

theorem Reads.edge : Reads readEdge EdgeForm where
  complete := by
    rintro e _ ⟨source, target, name, comment⟩ rest
    rw [readEdge, List.append_assoc, List.append_assoc, List.append_assoc,
      (Reads.varint .position).complete source, ok_bind]
    dsimp only
    rw [(Reads.varint .position).complete target, ok_bind]
    dsimp only
    rw [Reads.text.complete name, ok_bind]
    dsimp only
    rw [Reads.option.complete comment]
    rfl
  sound := by
    intro bytes e rest h
    obtain ⟨⟨source, bytes₁⟩, h1, h⟩ := exists_of_bind_eq_ok h
    obtain ⟨⟨target, bytes₂⟩, h2, h⟩ := exists_of_bind_eq_ok h
    obtain ⟨⟨name, bytes₃⟩, h3, h⟩ := exists_of_bind_eq_ok h
    obtain ⟨⟨comment, bytes₄⟩, h4, h⟩ := exists_of_bind_eq_ok h
    cases h
    obtain ⟨s₁, hs₁, rfl⟩ := (Reads.varint .position).sound h1
    obtain ⟨s₂, hs₂, rfl⟩ := (Reads.varint .position).sound h2
    obtain ⟨s₃, hs₃, rfl⟩ := Reads.text.sound h3
    obtain ⟨s₄, hs₄, rfl⟩ := Reads.option.sound h4
    exact ⟨s₁ ++ s₂ ++ s₃ ++ s₄, .mk hs₁ hs₂ hs₃ hs₄, by simp only [List.append_assoc]⟩

section
variable {α : Type} {read : Reader α} {form : α → Bytes → Prop}

theorem Reads.items (h : Reads read form) (n : Nat) :
    Reads (readItems read n) (fun xs s => xs.length = n ∧ ItemsForm form xs s) where
  complete := by
    rintro xs s ⟨rfl, hxs⟩ rest
    induction hxs with
    | nil => rfl
    | cons hx _ ih =>
      rw [List.length_cons, readItems, List.append_assoc, h.complete hx, ok_bind]
      dsimp only
      rw [ih]
      rfl
  sound := by
    induction n with
    | zero =>
      intro bytes xs rest h'
      cases h'
      exact ⟨[], ⟨rfl, .nil⟩, rfl⟩
    | succ n ih =>
      intro bytes xs rest h'
      obtain ⟨⟨x, bytes₁⟩, h1, h'⟩ := exists_of_bind_eq_ok h'
      obtain ⟨⟨xs, bytes₂⟩, h2, h'⟩ := exists_of_bind_eq_ok h'
      cases h'
      obtain ⟨s, hs, rfl⟩ := h.sound h1
      obtain ⟨t, ⟨ht, hxs⟩, rfl⟩ := ih h2
      refine ⟨s ++ t, ⟨?_, .cons hs hxs⟩, by rw [List.append_assoc]⟩
      rw [List.length_cons, ht]

theorem Reads.list (h : Reads read form) : Reads (readList read) (ListForm form) where
  complete := by
    rintro xs _ ⟨count, items⟩ rest
    rw [readList, List.append_assoc, (Reads.varint .count).complete count, ok_bind]
    exact (h.items xs.length).complete ⟨rfl, items⟩ rest
  sound := by
    intro bytes xs rest h'
    obtain ⟨⟨n, bytes₁⟩, h1, h2⟩ := exists_of_bind_eq_ok h'
    obtain ⟨v, hv, rfl⟩ := (Reads.varint .count).sound h1
    obtain ⟨s, ⟨rfl, hs⟩, rfl⟩ := (h.items n).sound h2
    exact ⟨v ++ s, .mk hv hs, by rw [List.append_assoc]⟩

end

/-- **The payload reader accepts the grammar and nothing else.** -/
theorem Reads.payload : Reads readPayload (fun d s => PayloadForm d.1 d.2 s) where
  complete := by
    rintro ⟨vertices, edges⟩ _ ⟨hv, he⟩ rest
    rw [readPayload, List.append_assoc, Reads.vertex.list.complete hv, ok_bind]
    dsimp only
    rw [Reads.edge.list.complete he]
    rfl
  sound := by
    intro bytes d rest h
    obtain ⟨⟨vertices, bytes₁⟩, h1, h⟩ := exists_of_bind_eq_ok h
    obtain ⟨⟨edges, bytes₂⟩, h2, h⟩ := exists_of_bind_eq_ok h
    cases h
    obtain ⟨s, hs, rfl⟩ := Reads.vertex.list.sound h1
    obtain ⟨t, ht, rfl⟩ := Reads.edge.list.sound h2
    exact ⟨s ++ t, .mk hs ht, by rw [List.append_assoc]⟩

/-! ### what is written -/

theorem varintForm_writeVarint {f : Field} {n : Nat} (h : n < 2 ^ 64)
    (hf : f = .position → n < 2 ^ 32) : VarintForm f n (writeVarint n) := by
  unfold writeVarint
  split
  · rename_i h1
    exact .one h1
  · split
    · rename_i h2
      exact .two h2
    · split
      · rename_i h3
        exact .four h3
      · rename_i h3
        exact .eight (fun he => h3 (hf he)) h

theorem length_writeVarint_pos (n : Nat) : 0 < (writeVarint n).length := by
  unfold writeVarint
  split
  · exact Nat.one_pos
  · split
    · exact Nat.succ_pos _
    · split <;> exact Nat.succ_pos _

theorem textForm_writeText {text : String} (h : (writeText text).length < 2 ^ 64) :
    TextForm text (writeText text) := by
  rw [writeText, List.length_append] at h
  exact .mk (varintForm_writeVarint (by omega) (fun he => by cases he))

theorem optionForm_writeOption {o : Option String} (h : (writeOption o).length < 2 ^ 64) :
    OptionForm o (writeOption o) := by
  cases o with
  | none => exact .absent
  | some text =>
    rw [writeOption, List.length_cons] at h
    exact .present (textForm_writeText (by omega))

theorem vertexForm_writeVertex {v : Handler} (h : (writeVertex v).length < 2 ^ 64) :
    VertexForm v (writeVertex v) := by
  simp only [writeVertex, List.length_append] at h
  exact .mk (textForm_writeText (by omega)) (textForm_writeText (by omega))
    (optionForm_writeOption (by omega)) (optionForm_writeOption (by omega))

theorem edgeForm_writeEdge {e : Edge} (hs : e.source < 2 ^ 32) (ht : e.target < 2 ^ 32)
    (h : (writeEdge e).length < 2 ^ 64) : EdgeForm e (writeEdge e) := by
  simp only [writeEdge, List.length_append] at h
  rw [writeEdge, Nat.mod_eq_of_lt hs, Nat.mod_eq_of_lt ht]
  exact .mk (varintForm_writeVarint (by omega) (fun _ => hs))
    (varintForm_writeVarint (by omega) (fun _ => ht)) (textForm_writeText (by omega))
    (optionForm_writeOption (by omega))

theorem length_writeVertex_pos (v : Handler) : 0 < (writeVertex v).length := by
  have h1 := length_writeVarint_pos (Text.utf8 v.name).length
  simp only [writeVertex, writeText, List.length_append]
  omega

theorem length_writeEdge_pos (e : Edge) : 0 < (writeEdge e).length := by
  have h1 := length_writeVarint_pos (e.source % 2 ^ 32)
  simp only [writeEdge, List.length_append]
  omega

section
variable {α : Type} {write : α → Bytes} {form : α → Bytes → Prop}

theorem itemsForm_flatMap {xs : List α}
    (hw : ∀ x ∈ xs, (write x).length < 2 ^ 64 → form x (write x))
    (h : (xs.flatMap write).length < 2 ^ 64) : ItemsForm form xs (xs.flatMap write) := by
  induction xs with
  | nil => exact .nil
  | cons x xs ih =>
    rw [List.flatMap_cons, List.length_append] at h
    rw [List.flatMap_cons]
    exact .cons (hw x List.mem_cons_self (by omega))
      (ih (fun y hy => hw y (List.mem_cons_of_mem _ hy)) (by omega))

theorem length_le_length_flatMap (hp : ∀ x, 0 < (write x).length) (xs : List α) :
    xs.length ≤ (xs.flatMap write).length := by
  induction xs with
  | nil => exact Nat.le_refl _
  | cons x xs ih =>
    have h1 := hp x
    rw [List.flatMap_cons, List.length_append, List.length_cons]
    omega

/-- no item is empty, so there are no more items than bytes -/
theorem listForm_writeList (hp : ∀ x, 0 < (write x).length) {xs : List α}
    (hw : ∀ x ∈ xs, (write x).length < 2 ^ 64 → form x (write x))
    (h : (writeList write xs).length < 2 ^ 64) : ListForm form xs (writeList write xs) := by
  have h1 := length_le_length_flatMap hp xs
  rw [writeList, List.length_append] at h
  exact .mk (varintForm_writeVarint (by omega) (fun he => by cases he))
    (itemsForm_flatMap hw (by omega))

end

theorem payloadForm_writePayload {g : Graph}
    (hp : ∀ e ∈ g.edges, e.source < 2 ^ 32 ∧ e.target < 2 ^ 32)
    (h : (writePayload g).length < 2 ^ 64) :
    PayloadForm g.vertices g.edges (writePayload g) := by
  rw [writePayload, List.length_append] at h
  exact .mk
    (listForm_writeList length_writeVertex_pos (fun _ _ => vertexForm_writeVertex) (by omega))
    (listForm_writeList length_writeEdge_pos
      (fun e he => edgeForm_writeEdge (hp e he).1 (hp e he).2) (by omega))

end MessageFlow.Snapshot
