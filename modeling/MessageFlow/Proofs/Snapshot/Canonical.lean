import MessageFlow.Proofs.Snapshot.RoundTrip

/-!
# The shortest snapshot of a graph

A graph has many snapshots, because an integer may be spelled wider than it needs.  Here a payload is
cut into pieces (`payloadPieces`): integers, which leave a choice, and bytes that leave none.

* `PayloadForm.cut`     every payload of a graph spells the same pieces, one after the other;
* `writePayload_eq`     what is written spells each of them as narrowly as it can be;
* `encode_shortest`     so what is written is the shortest snapshot of the graph, and every other one
                        differs from it in wider integers and what follows from them.
-/

namespace MessageFlow.Snapshot

open Text (Bytes)

/-! ### pieces -/

/-- a piece of a payload: an integer of any width, or bytes as they are -/
inductive Piece where
  | integer (f : Field) (n : Nat)
  | verbatim (bytes : Bytes)

namespace Piece

/-- the shortest spelling of a piece -/
def narrow : Piece → Bytes
  | integer _ n => writeVarint n
  | verbatim bytes => bytes

/-- a spelling of an integer that is longer than needed -/
inductive Wide : Piece → Bytes → Prop
  | integer {f : Field} {n : Nat} {v : Bytes} (hv : VarintForm f n v)
      (hlt : (writeVarint n).length < v.length) : Wide (.integer f n) v

/-- the spellings of a piece -/
def Spelling (p : Piece) (v : Bytes) : Prop := v = p.narrow ∨ p.Wide v

theorem Wide.length_lt {p : Piece} {v : Bytes} (h : p.Wide v) : p.narrow.length < v.length := by
  cases h with
  | integer _ hlt => exact hlt

end Piece

/-- the bytes are the spellings of the pieces, one after the other -/
def Cut (ps : List Piece) (s : Bytes) : Prop :=
  ∃ vs : List Bytes, s = vs.flatten ∧ List.Forall₂ Piece.Spelling ps vs

theorem Cut.nil : Cut [] [] := ⟨[], rfl, .nil⟩

theorem Cut.append {ps qs : List Piece} {s t : Bytes} (hs : Cut ps s) (ht : Cut qs t) :
    Cut (ps ++ qs) (s ++ t) := by
  obtain ⟨vs, rfl, h1⟩ := hs
  obtain ⟨ws, rfl, h2⟩ := ht
  exact ⟨vs ++ ws, List.flatten_append.symm, List.rel_append h1 h2⟩

theorem Cut.single {p : Piece} {v : Bytes} (h : p.Spelling v) : Cut [p] v :=
  ⟨[v], (List.append_nil v).symm, .cons h .nil⟩

/-- the narrow spellings are the shortest, and no others are as short -/
theorem narrow_shortest {ps : List Piece} {vs : List Bytes} (h : List.Forall₂ Piece.Spelling ps vs) :
    (ps.flatMap Piece.narrow).length ≤ vs.flatten.length
    ∧ ((ps.flatMap Piece.narrow).length = vs.flatten.length →
      vs.flatten = ps.flatMap Piece.narrow) := by
  induction h with
  | nil => exact ⟨Nat.le_refl _, fun _ => rfl⟩
  | @cons p v ps vs hp _ ih =>
    rw [List.flatMap_cons, List.flatten_cons, List.length_append, List.length_append]
    rcases hp with rfl | hw
    · refine ⟨by omega, fun h => ?_⟩
      rw [ih.2 (by omega)]
    · have h1 := hw.length_lt
      exact ⟨by omega, fun h => by omega⟩

/-! ### the pieces of a graph -/

def textPieces (text : String) : List Piece :=
  [.integer .textLength (Text.utf8 text).length, .verbatim (Text.utf8 text)]

def optionPieces : Option String → List Piece
  | none => [.verbatim [0]]
  | some text => .verbatim [1] :: textPieces text

def vertexPieces (h : Handler) : List Piece :=
  textPieces h.name ++ textPieces h.moduleKey ++ optionPieces h.comment ++ optionPieces h.entryPoint

def edgePieces (e : Edge) : List Piece :=
  [.integer .position e.source] ++ [.integer .position e.target] ++ textPieces e.message.name
    ++ optionPieces e.message.comment

def listPieces {α : Type} (pieces : α → List Piece) (items : List α) : List Piece :=
  .integer .count items.length :: items.flatMap pieces

/-- the pieces of a payload, which are the same for all payloads of a graph -/
def payloadPieces (g : Graph) : List Piece :=
  listPieces vertexPieces g.vertices ++ listPieces edgePieces g.edges

/-! ### every payload spells them -/

theorem VarintForm.lt {f : Field} {n : Nat} {v : Bytes} (h : VarintForm f n v) :
    n < 2 ^ 64 ∧ (f = .position → n < 2 ^ 32) := by
  cases h with
  | one h => omega
  | two h => omega
  | four h => omega
  | eight hf h => exact ⟨h, fun he => absurd he hf⟩

theorem length_writeVarint (n : Nat) : (writeVarint n).length =
    if n < 251 then 1 else if n < 2 ^ 16 then 3 else if n < 2 ^ 32 then 5 else 9 := by
  unfold writeVarint
  split_ifs <;> simp only [List.length_cons, length_littleEndian, List.length_nil]

/-- a form of an integer is the one that is written, or a longer one -/
theorem VarintForm.spelling {f : Field} {n : Nat} {v : Bytes} (h : VarintForm f n v) :
    (Piece.integer f n).Spelling v := by
  by_cases hv : v = writeVarint n
  · exact .inl hv
  · refine .inr (.integer h ?_)
    rw [length_writeVarint]
    -- a number that needs the width of its form is written in that form
    cases h with
    | one h => exact absurd (by rw [writeVarint, if_pos h]) hv
    | two h =>
      have h1 : n < 251 := by
        by_contra h1
        exact hv (by rw [writeVarint, if_neg h1, if_pos h])
      rw [if_pos h1, List.length_cons, length_littleEndian]
      omega
    | four h =>
      have h1 : n < 2 ^ 16 := by
        by_contra h1
        exact hv (by rw [writeVarint, if_neg (by omega), if_neg h1, if_pos h])
      rw [if_pos h1, List.length_cons, length_littleEndian]
      split_ifs <;> omega
    | eight _ h =>
      have h1 : n < 2 ^ 32 := by
        by_contra h1
        exact hv (by rw [writeVarint, if_neg (by omega), if_neg (by omega), if_neg h1])
      rw [if_pos h1, List.length_cons, length_littleEndian]
      split_ifs <;> omega

theorem cut_verbatim (s : Bytes) : Cut [.verbatim s] s := .single (.inl rfl)

theorem TextForm.cut {text : String} {s : Bytes} (h : TextForm text s) : Cut (textPieces text) s := by
  obtain ⟨hv⟩ := h
  exact (Cut.single hv.spelling).append (cut_verbatim _)

theorem OptionForm.cut {o : Option String} {s : Bytes} (h : OptionForm o s) :
    Cut (optionPieces o) s := by
  cases h with
  | absent => exact cut_verbatim [0]
  | present h => exact (cut_verbatim [1]).append h.cut

theorem VertexForm.cut {v : Handler} {s : Bytes} (h : VertexForm v s) : Cut (vertexPieces v) s := by
  obtain ⟨name, moduleKey, comment, entryPoint⟩ := h
  exact ((name.cut.append moduleKey.cut).append comment.cut).append entryPoint.cut

theorem EdgeForm.cut {e : Edge} {s : Bytes} (h : EdgeForm e s) : Cut (edgePieces e) s := by
  obtain ⟨source, target, name, comment⟩ := h
  exact (((Cut.single source.spelling).append (.single target.spelling)).append name.cut).append
    comment.cut

section
variable {α : Type} {form : α → Bytes → Prop} {pieces : α → List Piece}

theorem ItemsForm.cut (hf : ∀ x s, form x s → Cut (pieces x) s) {xs : List α} {s : Bytes}
    (h : ItemsForm form xs s) : Cut (xs.flatMap pieces) s := by
  induction h with
  | nil => exact .nil
  | cons hx _ ih =>
    rw [List.flatMap_cons]
    exact (hf _ _ hx).append ih

theorem ListForm.cut (hf : ∀ x s, form x s → Cut (pieces x) s) {xs : List α} {s : Bytes}
    (h : ListForm form xs s) : Cut (listPieces pieces xs) s := by
  obtain ⟨count, items⟩ := h
  exact (Cut.single count.spelling).append (items.cut hf)

end

/-- every payload of a graph spells its pieces -/
theorem PayloadForm.cut {g : Graph} {s : Bytes} (h : PayloadForm g.vertices g.edges s) :
    Cut (payloadPieces g) s := by
  obtain ⟨hv, he⟩ := h
  have h1 : Cut (listPieces vertexPieces g.vertices) _ := hv.cut fun _ _ h => h.cut
  have h2 : Cut (listPieces edgePieces g.edges) _ := he.cut fun _ _ h => h.cut
  rw [payloadPieces]
  exact h1.append h2

/-! ### what is written spells them narrowly -/

theorem writeText_eq (text : String) : writeText text = (textPieces text).flatMap Piece.narrow := by
  rw [writeText, textPieces, List.flatMap_cons, List.flatMap_singleton, Piece.narrow, Piece.narrow]

theorem writeOption_eq (o : Option String) :
    writeOption o = (optionPieces o).flatMap Piece.narrow := by
  cases o with
  | none => rfl
  | some text =>
    rw [writeOption, optionPieces, List.flatMap_cons, Piece.narrow, ← writeText_eq,
      List.singleton_append]

theorem writeVertex_eq (h : Handler) :
    writeVertex h = (vertexPieces h).flatMap Piece.narrow := by
  simp only [vertexPieces, writeVertex, List.flatMap_append, writeText_eq, writeOption_eq]

theorem writeEdge_eq {e : Edge} (h : e.source < 2 ^ 32 ∧ e.target < 2 ^ 32) :
    writeEdge e = (edgePieces e).flatMap Piece.narrow := by
  simp only [edgePieces, writeEdge, List.flatMap_append, List.flatMap_singleton, Piece.narrow,
    ← writeText_eq, ← writeOption_eq, Nat.mod_eq_of_lt h.1, Nat.mod_eq_of_lt h.2]

theorem writeList_eq {α : Type} {write : α → Bytes} {pieces : α → List Piece} {xs : List α}
    (h : ∀ x ∈ xs, write x = (pieces x).flatMap Piece.narrow) :
    writeList write xs = (listPieces pieces xs).flatMap Piece.narrow := by
  rw [writeList, listPieces, List.flatMap_cons, Piece.narrow, List.flatMap_assoc,
    List.flatMap_congr h]

/-- what is written of a graph spells its pieces narrowly, if the positions fit their field -/
theorem writePayload_eq {g : Graph} (h : ∀ e ∈ g.edges, e.source < 2 ^ 32 ∧ e.target < 2 ^ 32) :
    writePayload g = (payloadPieces g).flatMap Piece.narrow := by
  rw [writePayload, payloadPieces, List.flatMap_append,
    writeList_eq (fun v _ => writeVertex_eq v), writeList_eq (fun e he => writeEdge_eq (h e he))]

/-! ### the shortest snapshot -/

/-- the positions in a payload fit their field -/
theorem PayloadForm.positions_lt {vertices : List Handler} {edges : List Edge} {s : Bytes}
    (h : PayloadForm vertices edges s) : ∀ e ∈ edges, e.source < 2 ^ 32 ∧ e.target < 2 ^ 32 := by
  obtain ⟨_, ⟨_, items⟩⟩ := h
  clear * - items
  induction items with
  | nil => exact fun _ he => (List.not_mem_nil he).elim
  | cons hx _ ih =>
    obtain ⟨source, target, _, _⟩ := hx
    exact List.forall_mem_cons.mpr ⟨⟨source.lt.2 rfl, target.lt.2 rfl⟩, ih⟩

/-- what is written of an accepted graph is accepted, and it is as short as its payload is -/
theorem exists_cut_of_decode {bytes : Bytes} {g : Graph} (h : decode bytes = .ok g) :
    decode (encode g) = .ok g ∧ writePayload g = (payloadPieces g).flatMap Piece.narrow
    ∧ ∃ vs : List Bytes, bytes = envelope vs.flatten
      ∧ List.Forall₂ Piece.Spelling (payloadPieces g) vs := by
  obtain ⟨payload, hlt, rfl, hp, hg⟩ := (decode_eq_ok_iff_envelope bytes g).mp h
  have h1 := writePayload_eq hp.positions_lt
  obtain ⟨vs, rfl, hvs⟩ := hp.cut
  have h2 := (narrow_shortest hvs).1
  have h3 : (writePayload g).length + 32 < 2 ^ 64 := by
    rw [h1]
    omega
  refine ⟨?_, h1, vs, rfl, hvs⟩
  rw [decode_eq_ok_iff_envelope]
  exact ⟨writePayload g, h3, rfl, payloadForm_writePayload hp.positions_lt (by omega), hg⟩

theorem length_encode_le {bytes : Bytes} {g : Graph} (h : decode bytes = .ok g) :
    (encode g).length ≤ bytes.length
    ∧ ((encode g).length = bytes.length → bytes = encode g) := by
  obtain ⟨_, h1, vs, rfl, hvs⟩ := exists_cut_of_decode h
  obtain ⟨h2, h3⟩ := narrow_shortest hvs
  rw [encode, h1, length_envelope, length_envelope]
  refine ⟨by omega, fun h => ?_⟩
  rw [h3 (by omega)]

/-- **What is written is the shortest snapshot.**  Of all bytes that are accepted for a graph, those
that are written are the only ones of minimal length.  All others spell the same pieces between the
same signature and version, but some integers wider than needed, which changes the length and the
digest too. -/
theorem encode_shortest {bytes : Bytes} {g : Graph} (h : decode bytes = .ok g) :
    decode (encode g) = .ok g ∧ (encode g).length ≤ bytes.length
    ∧ ((encode g).length = bytes.length ↔ bytes = encode g)
    ∧ (∃! c, decode c = .ok g ∧ ∀ d, decode d = .ok g → c.length ≤ d.length)
    ∧ encode g = envelope ((payloadPieces g).flatMap Piece.narrow)
    ∧ ∃ vs : List Bytes, bytes = envelope vs.flatten
      ∧ List.Forall₂ (fun p v => v = p.narrow ∨ p.Wide v) (payloadPieces g) vs := by
  obtain ⟨hd, hw, vs, hb, hvs⟩ := exists_cut_of_decode h
  obtain ⟨hle, heq⟩ := length_encode_le h
  refine ⟨hd, hle, ⟨heq, fun h => by rw [← h]⟩, ?_, by rw [encode, hw], vs, hb, hvs⟩
  refine ⟨encode g, ⟨hd, fun d hd => (length_encode_le hd).1⟩, ?_⟩
  rintro c ⟨hc, hmin⟩
  have h1 := (length_encode_le hc).1
  have h2 := hmin (encode g) hd
  exact (length_encode_le hc).2 (by omega)

/-- two vertices and an edge between them -/
def pair : Graph :=
  ⟨[⟨"a", "", none, none⟩, ⟨"b", "", none, none⟩], [⟨0, 1, ⟨"m", none⟩⟩]⟩

/-- a snapshot of the pair that has the number of the vertices in nine bytes, the length of the first
name in three, and the source of the edge in five -/
def sprawling : Bytes :=
  envelope ((253 :: littleEndian 8 2) ++ (251 :: littleEndian 2 1) ++ [97, 0, 0, 0, 1, 98, 0, 0, 0]
    ++ 1 :: (252 :: littleEndian 4 0) ++ [1, 1, 109, 0])

theorem decode_sprawling : decode sprawling = .ok pair := by
  rw [decode, sprawling, (openEnvelope_eq_ok_iff _ _).mpr ⟨by decide, rfl⟩, ok_bind]
  decide +kernel

theorem encode_shortest_sprawling :
    decode sprawling = .ok pair ∧ decode (encode pair) = .ok pair
    ∧ (encode pair).length ≤ sprawling.length
    ∧ ((encode pair).length = sprawling.length ↔ sprawling = encode pair)
    ∧ (∃! c, decode c = .ok pair ∧ ∀ d, decode d = .ok pair → c.length ≤ d.length)
    ∧ encode pair = envelope ((payloadPieces pair).flatMap Piece.narrow)
    ∧ ∃ vs : List Bytes, sprawling = envelope vs.flatten
      ∧ List.Forall₂ (fun p v => v = p.narrow ∨ p.Wide v) (payloadPieces pair) vs :=
  ⟨decode_sprawling, encode_shortest decode_sprawling⟩

end MessageFlow.Snapshot
