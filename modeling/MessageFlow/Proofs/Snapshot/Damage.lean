import MessageFlow.Proofs.Snapshot.Acceptance

/-!
# Damaged snapshots

A snapshot that was cut short, continued or changed in one byte is refused, and the fault tells what
happened to it.  The fields of the envelope are checked in their order, so a changed byte is found
where it stands; but a changed length is not wrong in itself, it moves the end of the payload, and is
found by the number of bytes behind the header.

* `openEnvelope_take`, `openEnvelope_envelope_append`   cut short, continued;
* `openEnvelope_of_magic` and the lemmas after it       one field of the envelope replaced;
* `set_fields`                                          the field in which a byte is changed;
* `decode_damaged`                                      all three together, for the snapshot of a graph.
-/

namespace MessageFlow.Snapshot

open Text (Bytes)

/-- the version that a header tells -/
def statedVersion (bytes : Bytes) : Nat := ofLittleEndian ((bytes.drop 4).take 2)

/-- the length of the payload that a header tells -/
def statedLength (bytes : Bytes) : Nat := ofLittleEndian ((bytes.drop 6).take 8)

/-! ### a byte that changes -/

theorem ofLittleEndian_inj {a b : Bytes} (hl : a.length = b.length)
    (h : ofLittleEndian a = ofLittleEndian b) : a = b := by
  rw [← littleEndian_ofLittleEndian a, ← littleEndian_ofLittleEndian b, hl, h]

theorem set_ne_self {bytes : Bytes} {i : Nat} {x : UInt8} (hi : i < bytes.length)
    (hx : x ≠ bytes[i]) : bytes.set i x ≠ bytes := by
  intro h
  have h1 : (bytes.set i x)[i]? = bytes[i]? := by rw [h]
  rw [List.getElem?_set_self hi, List.getElem?_eq_getElem hi] at h1
  exact hx (Option.some.inj h1)

section
variable {m v n r : Bytes} (hm : m.length = 4) (hv : v.length = 2) (hn : n.length = 8)

include hm hv in
theorem statedVersion_append : statedVersion (m ++ v ++ n ++ r) = ofLittleEndian v := by
  rw [statedVersion, List.append_assoc, List.append_assoc, List.drop_left' hm, List.take_left' hv]

include hm hv hn in
theorem statedLength_append : statedLength (m ++ v ++ n ++ r) = ofLittleEndian n := by
  have hmv : (m ++ v).length = 6 := by rw [List.length_append, hm, hv]
  rw [statedLength, List.append_assoc, List.drop_left' hmv, List.take_left' hn]

include hm hv hn in
/-- a byte is changed in one of the fields of a header or behind it -/
theorem set_fields (i : Nat) (x : UInt8) : (m ++ v ++ n ++ r).set i x =
    if i < 4 then m.set i x ++ v ++ n ++ r
    else if i < 6 then m ++ v.set (i - 4) x ++ n ++ r
    else if i < 14 then m ++ v ++ n.set (i - 6) x ++ r
    else m ++ v ++ n ++ r.set (i - 14) x := by
  have hmv : (m ++ v).length = 6 := by rw [List.length_append, hm, hv]
  have hmvn : (m ++ v ++ n).length = 14 := by rw [List.length_append, hmv, hn]
  split_ifs with h1 h2 h3
  · rw [List.set_append_left _ _ (by omega), List.set_append_left _ _ (by omega),
      List.set_append_left _ _ (by omega)]
  · rw [List.set_append_left _ _ (by omega), List.set_append_left _ _ (by omega),
      List.set_append_right _ _ (by omega), hm]
  · rw [List.set_append_left _ _ (by omega), List.set_append_right _ _ (by omega), hmv]
  · rw [List.set_append_right _ _ (by omega), hmvn]

/-! ### one field of the envelope -/

include hm hv hn in
theorem openEnvelope_of_magic (h : m ≠ magic) :
    openEnvelope (m ++ v ++ n ++ r) = .error .badMagic := by
  rw [openEnvelope_append hm hv hn, if_pos h]

include hv hn in
theorem openEnvelope_of_version (h : ofLittleEndian v ≠ version) :
    openEnvelope (magic ++ v ++ n ++ r) = .error (.unsupportedVersion (ofLittleEndian v)) := by
  rw [openEnvelope_append rfl hv hn, if_neg (not_not.mpr rfl), if_pos h]

include hn in
/-- the checks that are left when the signature and the version are right -/
theorem openEnvelope_versioned :
    openEnvelope (magic ++ littleEndian 2 version ++ n ++ r) =
      if 2 ^ 64 ≤ ofLittleEndian n + 32 then .error .lengthOverflow
      else if r.length < ofLittleEndian n + 32 then
        .error (.truncated (min (14 + (ofLittleEndian n + 32)) (2 ^ 64 - 1)) (14 + r.length))
      else if ofLittleEndian n + 32 < r.length then
        .error (.trailingBytes (r.length - (ofLittleEndian n + 32)))
      else if Sha256.digest (r.take (ofLittleEndian n)) ≠ r.drop (ofLittleEndian n) then
        .error .checksumMismatch
      else .ok (r.take (ofLittleEndian n)) := by
  have hv : ofLittleEndian (littleEndian 2 version) = version := rfl
  rw [openEnvelope_append rfl (length_littleEndian 2 _) hn, if_neg (not_not.mpr rfl),
    if_neg (not_not.mpr hv)]

end

section
variable {payload : Bytes} (hlen : payload.length + 46 < 2 ^ 64)

theorem envelope_eq (payload : Bytes) : envelope payload =
    magic ++ littleEndian 2 version ++ littleEndian 8 payload.length
      ++ (payload ++ Sha256.digest payload) := List.append_assoc ..

include hlen in
/-- the bytes behind the header of an envelope are replaced -/
theorem openEnvelope_of_rest (r : Bytes) :
    openEnvelope (magic ++ littleEndian 2 version ++ littleEndian 8 payload.length ++ r) =
      if r.length < payload.length + 32 then
        .error (.truncated (payload.length + 46) (14 + r.length))
      else if payload.length + 32 < r.length then
        .error (.trailingBytes (r.length - (payload.length + 32)))
      else if Sha256.digest (r.take payload.length) ≠ r.drop payload.length then
        .error .checksumMismatch
      else .ok (r.take payload.length) := by
  have hn : ofLittleEndian (littleEndian 8 payload.length) = payload.length :=
    ofLittleEndian_littleEndian 8 _ (by omega)
  have hmin : min (14 + (payload.length + 32)) (2 ^ 64 - 1) = payload.length + 46 := by omega
  rw [openEnvelope_versioned (length_littleEndian 8 _), hn, hmin,
    if_neg (show ¬ 2 ^ 64 ≤ payload.length + 32 by omega)]

include hlen in
theorem openEnvelope_take {k : Nat} (hk : k < payload.length + 46) :
    openEnvelope ((envelope payload).take k)
      = .error (.truncated (if k < 14 then 14 else payload.length + 46) k) := by
  split_ifs with h14
  · have h1 : ((envelope payload).take k).length = k := by
      rw [List.length_take, length_envelope]
      omega
    rw [openEnvelope, h1, if_pos (show k < headerLength from h14)]
    rfl
  · have h1 : (magic ++ littleEndian 2 version ++ littleEndian 8 payload.length).length = 14 := by
      simp only [List.length_append, length_littleEndian]
      rfl
    have h2 : ((payload ++ Sha256.digest payload).take (k - 14)).length = k - 14 := by
      rw [List.length_take, List.length_append, Sha256.length_digest]
      omega
    rw [envelope_eq, List.take_append, List.take_of_length_le (by omega), h1,
      openEnvelope_of_rest hlen, h2, if_pos (by omega), show 14 + (k - 14) = k by omega]

include hlen in
theorem openEnvelope_envelope_append {extra : Bytes} (h : extra ≠ []) :
    openEnvelope (envelope payload ++ extra) = .error (.trailingBytes extra.length) := by
  have h0 : 0 < extra.length := List.length_pos_iff.mpr h
  have h1 : (payload ++ Sha256.digest payload ++ extra).length
      = payload.length + 32 + extra.length := by
    rw [List.length_append, List.length_append, Sha256.length_digest]
  rw [envelope_eq, List.append_assoc, openEnvelope_of_rest hlen, h1, if_neg (by omega),
    if_pos (by omega), Nat.add_sub_cancel_left]

/-- another length is written into the header -/
theorem openEnvelope_of_length {n : Bytes} (hn : n.length = 8)
    (hne : ofLittleEndian n ≠ payload.length) :
    openEnvelope (magic ++ littleEndian 2 version ++ n ++ (payload ++ Sha256.digest payload)) =
      .error (if 2 ^ 64 ≤ ofLittleEndian n + 32 then .lengthOverflow
        else if payload.length < ofLittleEndian n then
          .truncated (min (ofLittleEndian n + 46) (2 ^ 64 - 1)) (payload.length + 46)
        else .trailingBytes (payload.length - ofLittleEndian n)) := by
  have h1 : (payload ++ Sha256.digest payload).length = payload.length + 32 := by
    rw [List.length_append, Sha256.length_digest]
  rw [openEnvelope_versioned hn, h1]
  by_cases hover : 2 ^ 64 ≤ ofLittleEndian n + 32
  · rw [if_pos hover, if_pos hover]
  rw [if_neg hover, if_neg hover]
  by_cases hlt : payload.length < ofLittleEndian n
  · rw [if_pos (by omega), if_pos hlt,
      show 14 + (ofLittleEndian n + 32) = ofLittleEndian n + 46 by omega,
      show 14 + (payload.length + 32) = payload.length + 46 by omega]
  · rw [if_neg (by omega), if_pos (by omega), if_neg hlt, Nat.add_sub_add_right]

include hlen in
/-- the bytes behind the header are no longer a payload and its digest -/
theorem openEnvelope_of_digest {p d : Bytes} (hp : p.length = payload.length) (hd : d.length = 32)
    (h : Sha256.digest p ≠ d) :
    openEnvelope (magic ++ littleEndian 2 version ++ littleEndian 8 payload.length ++ (p ++ d))
      = .error .checksumMismatch := by
  have h1 : (p ++ d).length = payload.length + 32 := by rw [List.length_append, hp, hd]
  rw [openEnvelope_of_rest hlen, h1, List.take_left' hp, List.drop_left' hp,
    if_neg (Nat.lt_irrefl _), if_neg (Nat.lt_irrefl _), if_pos h]

/-! ### one byte of the envelope -/

theorem envelope_set (i : Nat) (x : UInt8) : (envelope payload).set i x =
    if i < 4 then
      magic.set i x ++ littleEndian 2 version ++ littleEndian 8 payload.length
        ++ (payload ++ Sha256.digest payload)
    else if i < 6 then
      magic ++ (littleEndian 2 version).set (i - 4) x ++ littleEndian 8 payload.length
        ++ (payload ++ Sha256.digest payload)
    else if i < 14 then
      magic ++ littleEndian 2 version ++ (littleEndian 8 payload.length).set (i - 6) x
        ++ (payload ++ Sha256.digest payload)
    else
      magic ++ littleEndian 2 version ++ littleEndian 8 payload.length
        ++ (payload ++ Sha256.digest payload).set (i - 14) x := by
  rw [envelope_eq, set_fields rfl (length_littleEndian 2 _) (length_littleEndian 8 _)]

variable {i : Nat} {x : UInt8} (hne : (envelope payload).set i x ≠ envelope payload)

include hne in
theorem openEnvelope_set_magic (hi : i < 4) :
    openEnvelope ((envelope payload).set i x) = .error .badMagic := by
  rw [envelope_set, if_pos hi, envelope_eq] at hne
  have hm : magic.set i x ≠ magic := fun h => hne (by rw [h])
  rw [envelope_set, if_pos hi]
  exact openEnvelope_of_magic (List.length_set ..) (length_littleEndian 2 _)
    (length_littleEndian 8 _) hm

include hne in
theorem openEnvelope_set_version (hi : 4 ≤ i) (hi' : i < 6) :
    openEnvelope ((envelope payload).set i x)
      = .error (.unsupportedVersion (statedVersion ((envelope payload).set i x))) := by
  have h4 : ¬ i < 4 := by omega
  rw [envelope_set, if_neg h4, if_pos hi', envelope_eq] at hne
  have hl : ((littleEndian 2 version).set (i - 4) x).length = 2 := by
    rw [List.length_set, length_littleEndian]
  have hv : ofLittleEndian ((littleEndian 2 version).set (i - 4) x) ≠ version := fun h => by
    have h1 : (littleEndian 2 version).set (i - 4) x = littleEndian 2 version :=
      ofLittleEndian_inj (List.length_set ..) h
    exact hne (by rw [h1])
  rw [envelope_set, if_neg h4, if_pos hi', statedVersion_append rfl hl]
  exact openEnvelope_of_version hl (length_littleEndian 8 _) hv

include hlen hne in
/-- a changed length is another one, and what it says of the bytes behind the header is wrong -/
theorem openEnvelope_set_length (hi : 6 ≤ i) (hi' : i < 14) :
    statedLength ((envelope payload).set i x) ≠ payload.length
    ∧ openEnvelope ((envelope payload).set i x) =
      .error (if 2 ^ 64 ≤ statedLength ((envelope payload).set i x) + 32 then .lengthOverflow
        else if payload.length < statedLength ((envelope payload).set i x) then
          .truncated (min (statedLength ((envelope payload).set i x) + 46) (2 ^ 64 - 1))
            (payload.length + 46)
        else .trailingBytes (payload.length - statedLength ((envelope payload).set i x))) := by
  have h4 : ¬ i < 4 := by omega
  have h6 : ¬ i < 6 := by omega
  rw [envelope_set, if_neg h4, if_neg h6, if_pos hi', envelope_eq] at hne
  have hl : ((littleEndian 8 payload.length).set (i - 6) x).length = 8 := by
    rw [List.length_set, length_littleEndian]
  have hn : ofLittleEndian ((littleEndian 8 payload.length).set (i - 6) x) ≠ payload.length := fun h => by
    have h0 := ofLittleEndian_littleEndian 8 payload.length (by omega)
    have h1 : (littleEndian 8 payload.length).set (i - 6) x = littleEndian 8 payload.length :=
      ofLittleEndian_inj (List.length_set ..) (h.trans h0.symm)
    exact hne (by rw [h1])
  rw [envelope_set, if_neg h4, if_neg h6, if_pos hi',
    statedLength_append rfl (length_littleEndian 2 _) hl]
  exact ⟨hn, openEnvelope_of_length hl hn⟩

include hlen hne in
/-- a changed byte of the digest is found at once, one of the payload if the digest sees it -/
theorem openEnvelope_set_rest (hi : 14 ≤ i)
    (hd : i < 14 + payload.length →
      Sha256.digest (payload.set (i - 14) x) ≠ Sha256.digest payload) :
    openEnvelope ((envelope payload).set i x) = .error .checksumMismatch := by
  have h4 : ¬ i < 4 := by omega
  have h6 : ¬ i < 6 := by omega
  have h14 : ¬ i < 14 := by omega
  rw [envelope_set, if_neg h4, if_neg h6, if_neg h14, envelope_eq] at hne
  rw [envelope_set, if_neg h4, if_neg h6, if_neg h14]
  by_cases hp : i - 14 < payload.length
  · rw [List.set_append_left _ _ hp]
    exact openEnvelope_of_digest hlen (List.length_set ..) (Sha256.length_digest payload)
      (hd (by omega))
  · rw [List.set_append_right _ _ (Nat.not_lt.mp hp)] at hne ⊢
    refine openEnvelope_of_digest hlen rfl ?_ fun h => hne (by rw [← h])
    rw [List.length_set, Sha256.length_digest]

end

/-! ### the snapshot of a graph -/

theorem decode_of_openEnvelope {bytes : Bytes} {fault : SnapshotFault}
    (h : openEnvelope bytes = .error fault) : decode bytes = .error fault := by
  rw [decode, h]
  rfl

/-- **Damaged snapshots are refused, with the fault that says how.**  A snapshot that is cut short is
truncated, one that is continued has trailing bytes.  One changed byte is found by the signature, the
version, the length or the digest, whichever it falls into or is seen by; a changed length is too
large for the bytes that are there, too small for them, or too large to be counted with the digest in
64 bits. -/
theorem decode_damaged {g : Graph} (hlen : (encode g).length < 2 ^ 64) :
    (∀ k < (encode g).length, decode ((encode g).take k)
      = .error (.truncated (if k < 14 then 14 else (encode g).length) k))
    ∧ (∀ extra : Bytes, extra ≠ [] →
      decode (encode g ++ extra) = .error (.trailingBytes extra.length))
    ∧ ∀ (i : Nat) (hi : i < (encode g).length) (x : UInt8), x ≠ (encode g)[i] →
      (i < 4 → decode ((encode g).set i x) = .error .badMagic)
      ∧ (i = 4 ∨ i = 5 → decode ((encode g).set i x)
          = .error (.unsupportedVersion (statedVersion ((encode g).set i x))))
      ∧ (6 ≤ i → i < 14 → ∀ length, statedLength ((encode g).set i x) = length →
          length ≠ (writePayload g).length
          ∧ (2 ^ 64 - 32 ≤ length → decode ((encode g).set i x) = .error .lengthOverflow)
          ∧ (length < 2 ^ 64 - 32 → (writePayload g).length < length →
            decode ((encode g).set i x)
              = .error (.truncated (min (length + 46) (2 ^ 64 - 1)) (encode g).length))
          ∧ (length < (writePayload g).length → decode ((encode g).set i x)
              = .error (.trailingBytes ((writePayload g).length - length))))
      ∧ (14 ≤ i → (i < 14 + (writePayload g).length →
            Sha256.digest ((writePayload g).set (i - 14) x) ≠ Sha256.digest (writePayload g)) →
          decode ((encode g).set i x) = .error .checksumMismatch) := by
  have hl : (encode g).length = (writePayload g).length + 46 := length_envelope _
  rw [hl] at hlen
  refine ⟨fun k hk => ?_, fun extra he => ?_, fun i hi x hx => ?_⟩
  · rw [hl] at hk ⊢
    exact decode_of_openEnvelope (openEnvelope_take hlen hk)
  · exact decode_of_openEnvelope (openEnvelope_envelope_append hlen he)
  have hne : (encode g).set i x ≠ encode g := set_ne_self hi hx
  refine ⟨fun h4 => ?_, fun h6 => ?_, ?_, fun h14 hd => ?_⟩
  · exact decode_of_openEnvelope (openEnvelope_set_magic hne h4)
  · exact decode_of_openEnvelope (openEnvelope_set_version hne (by omega) (by omega))
  · rintro h6 h14 length rfl
    obtain ⟨hn, h⟩ := openEnvelope_set_length hlen hne h6 h14
    rw [← encode] at hn h
    refine ⟨hn, fun hover => ?_, fun hover hlt => ?_, fun hlt => ?_⟩
    · rw [decode_of_openEnvelope h, if_pos (by omega)]
    · rw [decode_of_openEnvelope h, if_neg (by omega), if_pos hlt, hl]
    · rw [decode_of_openEnvelope h, if_neg (by omega), if_neg hlt.le.not_gt]
  · exact decode_of_openEnvelope (openEnvelope_set_rest hlen hne h14 hd)

/-- the snapshot of the empty graph, damaged in all these ways; its payload is two zeros -/
theorem decode_damaged_empty :
    (encode ∅).length < 2 ^ 64
    ∧ decode ((encode ∅).take 13) = .error (.truncated 14 13)
    ∧ decode ((encode ∅).take 47) = .error (.truncated 48 47)
    ∧ decode (encode ∅ ++ [0]) = .error (.trailingBytes 1)
    ∧ decode ((encode ∅).set 3 0x58) = .error .badMagic
    ∧ decode ((encode ∅).set 5 1) = .error (.unsupportedVersion 257)
    ∧ decode ((encode ∅).set 6 1) = .error (.trailingBytes 1)
    ∧ decode ((encode ∅).set 13 0x80) = .error (.truncated (2 ^ 63 + 48) 48)
    ∧ decode ((encode ∅).set 15 1) = .error .checksumMismatch := by
  have hl : (encode ∅).length = 48 := length_envelope _
  have hlen : (encode ∅).length < 2 ^ 64 := by rw [hl]; decide
  have hd : Sha256.digest [0, 1] ≠ Sha256.digest [0, 0] := by decide +kernel
  obtain ⟨hcut, hmore, hbyte⟩ := decode_damaged hlen
  have h13 := hcut 13 (by rw [hl]; decide)
  have h47 := hcut 47 (by rw [hl]; decide)
  rw [hl] at h47
  have hset : ∀ i < 16, ∀ x, (encode ∅)[i]? ≠ some x → _ := fun i hi x hx =>
    hbyte i (by omega) x fun h => hx (by rw [h, List.getElem?_eq_getElem])
  refine ⟨hlen, h13, h47, hmore [0] (by decide), ?_, ?_, ?_, ?_, ?_⟩
  · exact (hset 3 (by decide) 0x58 (by decide)).1 (by decide)
  · exact (hset 5 (by decide) 1 (by decide)).2.1 (by decide)
  · exact ((hset 6 (by decide) 1 (by decide)).2.2.1 (by decide) (by decide) _ rfl).2.2.2 (by decide)
  · have h := ((hset 13 (by decide) 0x80 (by decide)).2.2.1 (by decide) (by decide) _ rfl).2.2.1
      (by decide) (by decide)
    rwa [hl] at h
  · exact (hset 15 (by decide) 1 (by decide)).2.2.2 (by decide) fun _ => hd

end MessageFlow.Snapshot
