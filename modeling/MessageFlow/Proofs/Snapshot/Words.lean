import MessageFlow.Proofs.Snapshot.Damage

/-!
# The header in machine words

The length that a header states is any number of 64 bits.  A reader adds the length of the digest to
it, compares the sum with the number of bytes that are there, and cuts the bytes accordingly, all in
words of 64 bits: a sum may leave the range, a difference may be negative, and a cut may lie behind
the end.  `decodeWords` does the arithmetic of `decode` in such words and gives `none` where an
operation has no result.

* `decodeWords_eq`             in words every operation has its result, and the same graph or fault
                               comes out;
* `decodePayload_unread_iff`   what is left over is what the grammar of payloads does not take;
* `decode_cases`               the checks of `decode` by the stated length, in natural numbers;
* `decode_of_statedLength`     all together, exactly up to the limits of the range.
-/

namespace MessageFlow.Snapshot

open Text (Bytes)

/-! ### words -/

namespace Word

/-- the sum, unless it leaves the range; a sum that does is less than each summand -/
def add? (a b : UInt64) : Option UInt64 := if a + b < a then none else some (a + b)

/-- the sum, or the largest word where it leaves the range -/
def addUpTo (a b : UInt64) : UInt64 := (add? a b).getD (.ofNat (2 ^ 64 - 1))

/-- the difference, unless it is negative -/
def sub? (a b : UInt64) : Option UInt64 := if a < b then none else some (a - b)

/-- the number of bytes -/
def size (bytes : Bytes) : UInt64 := .ofNat bytes.length

/-- the bytes before a position and those from it on, unless it lies behind the end -/
def cut? (n : UInt64) (bytes : Bytes) : Option (Bytes × Bytes) :=
  if size bytes < n then none else some (bytes.take n.toNat, bytes.drop n.toNat)

theorem add?_eq (a b : UInt64) :
    add? a b = if a.toNat + b.toNat < 2 ^ 64 then some (.ofNat (a.toNat + b.toNat)) else none := by
  have ha := a.toNat_lt
  have hb := b.toNat_lt
  have h1 : a + b = .ofNat (a.toNat + b.toNat) := by
    apply UInt64.toNat.inj
    rw [UInt64.toNat_add, UInt64.toNat_ofNat']
  have h2 : a + b < a ↔ 2 ^ 64 ≤ a.toNat + b.toNat := by
    rw [UInt64.lt_iff_toNat_lt, UInt64.toNat_add]
    omega
  rw [add?, h1]
  by_cases h : a.toNat + b.toNat < 2 ^ 64
  · rw [if_pos h, if_neg (by rw [← h1, h2]; omega)]
  · rw [if_neg h, if_pos (by rw [← h1, h2]; omega)]

theorem toNat_addUpTo (a b : UInt64) :
    (addUpTo a b).toNat = min (a.toNat + b.toNat) (2 ^ 64 - 1) := by
  rw [addUpTo, add?_eq]
  split
  · rw [Option.getD_some, UInt64.toNat_ofNat']
    omega
  · rw [Option.getD_none, UInt64.toNat_ofNat']
    omega

theorem sub?_eq_some {a b : UInt64} (h : b.toNat ≤ a.toNat) :
    ∃ d : UInt64, sub? a b = some d ∧ d.toNat = a.toNat - b.toNat := by
  have h1 : b ≤ a := UInt64.le_iff_toNat_le.mpr h
  refine ⟨a - b, ?_, UInt64.toNat_sub_of_le _ _ h1⟩
  rw [sub?, if_neg (UInt64.not_lt.mpr h1)]

theorem toNat_size {bytes : Bytes} (h : bytes.length < 2 ^ 64) :
    (size bytes).toNat = bytes.length :=
  UInt64.toNat_ofNat_of_lt' h

theorem cut?_eq_some {n : UInt64} {bytes : Bytes} (h : bytes.length < 2 ^ 64)
    (hn : n.toNat ≤ bytes.length) :
    cut? n bytes = some (bytes.take n.toNat, bytes.drop n.toNat) := by
  rw [cut?, if_neg]
  rw [UInt64.lt_iff_toNat_lt, toNat_size h]
  omega

end Word

/-! ### reading in words -/

/-- the payload and its digest behind a header that states a length, in `total` bytes -/
def openRest (total length : UInt64) (rest : Bytes) : Option (Except SnapshotFault Bytes) :=
  match Word.add? length 32 with
  | none => some (.error .lengthOverflow)
  | some expected =>
    if Word.size rest < expected then
      some (.error (.truncated (Word.addUpTo 14 expected).toNat total.toNat))
    else if expected < Word.size rest then do
      let surplus ← Word.sub? (Word.size rest) expected
      some (.error (.trailingBytes surplus.toNat))
    else do
      let (payload, digest) ← Word.cut? length rest
      if Sha256.digest payload ≠ digest then some (.error .checksumMismatch)
      else some (.ok payload)

/-- the payload of a snapshot, as `openEnvelope` finds it -/
def openWords (bytes : Bytes) : Option (Except SnapshotFault Bytes) :=
  if Word.size bytes < 14 then some (.error (.truncated 14 (Word.size bytes).toNat))
  else do
    let (header, rest) ← Word.cut? 14 bytes
    if header.take 4 ≠ magic then some (.error .badMagic)
    else if statedVersion header ≠ version then
      some (.error (.unsupportedVersion (statedVersion header)))
    else openRest (Word.size bytes) (.ofNat (statedLength header)) rest

/-- the graph of a payload, where the reader counts the bytes that it takes -/
def decodePayloadWords (payload : Bytes) : Option (Except SnapshotFault Graph) :=
  match readPayload payload with
  | .error fault => some (.error (.payload fault))
  | .ok ((vertices, edges), rest) => do
    let consumed ← Word.sub? (Word.size payload) (Word.size rest)
    if consumed ≠ Word.size payload then do
      let left ← Word.sub? (Word.size payload) consumed
      some (.error (.unread left.toNat))
    else match restore vertices edges with
      | .error fault => some (.error (.corrupt fault))
      | .ok g => some (.ok g)

/-- the graph of a snapshot, if no operation on words is without a result -/
def decodeWords (bytes : Bytes) : Option (Except SnapshotFault Graph) := do
  match ← openWords bytes with
  | .error fault => some (.error fault)
  | .ok payload => decodePayloadWords payload

theorem openRest_eq {total length : UInt64} {rest : Bytes} (h : rest.length < 2 ^ 64) :
    openRest total length rest = some (
      if 2 ^ 64 ≤ length.toNat + 32 then .error .lengthOverflow
      else if rest.length < length.toNat + 32 then
        .error (.truncated (min (14 + (length.toNat + 32)) (2 ^ 64 - 1)) total.toNat)
      else if length.toNat + 32 < rest.length then
        .error (.trailingBytes (rest.length - (length.toNat + 32)))
      else if Sha256.digest (rest.take length.toNat) ≠ rest.drop length.toNat then
        .error .checksumMismatch
      else .ok (rest.take length.toNat)) := by
  have hsize := Word.toNat_size h
  rw [openRest, Word.add?_eq, UInt64.toNat_ofNat]
  by_cases h1 : length.toNat + 32 < 2 ^ 64
  · have h2 : (UInt64.ofNat (length.toNat + 32)).toNat = length.toNat + 32 :=
      UInt64.toNat_ofNat_of_lt' h1
    have h3 : (Word.addUpTo 14 (.ofNat (length.toNat + 32))).toNat =
        min (14 + (length.toNat + 32)) (2 ^ 64 - 1) := by
      rw [Word.toNat_addUpTo, h2]
      rfl
    rw [if_pos (by exact h1), if_neg (Nat.not_le.mpr h1)]
    simp only [UInt64.lt_iff_toNat_lt, hsize, h2, h3]
    split_ifs with h4 h5 h6
    · rfl
    · have h7 : (UInt64.ofNat (length.toNat + 32)).toNat ≤ (Word.size rest).toNat := by
        rw [h2, hsize]
        omega
      obtain ⟨d, hd, hn⟩ := Word.sub?_eq_some h7
      rw [hd, Option.bind_eq_bind, Option.bind_some, hn, h2, hsize]
    · rw [Word.cut?_eq_some h (by omega)]
      exact if_pos h6
    · rw [Word.cut?_eq_some h (by omega)]
      exact if_neg h6
  · rw [if_neg (by exact h1), if_pos (Nat.not_lt.mp h1)]

theorem openWords_eq {bytes : Bytes} (h : bytes.length < 2 ^ 64) :
    openWords bytes = some (openEnvelope bytes) := by
  have hsize := Word.toNat_size h
  have hheader : Word.size bytes < 14 ↔ bytes.length < headerLength := by
    rw [UInt64.lt_iff_toNat_lt, hsize]
    rfl
  by_cases hl : bytes.length < headerLength
  · rw [openWords, if_pos (hheader.mpr hl), hsize, openEnvelope, if_pos hl]
    rfl
  · have h14 : (14 : UInt64).toNat ≤ bytes.length := Nat.not_lt.mp hl
    have hcut := Word.cut?_eq_some h h14
    rw [openWords, if_neg (mt hheader.mp hl)]
    obtain ⟨m, v, n, r, hm, hv, hn, rfl⟩ := exists_header (Nat.not_lt.mp hl)
    have hmvn : (m ++ v ++ n).length = 14 := by
      simp only [List.length_append, hm, hv, hn]
    have hr : (m ++ v ++ n ++ r).length = 14 + r.length := by rw [List.length_append, hmvn]
    rw [show (14 : UInt64).toNat = 14 from rfl, List.take_left' hmvn, List.drop_left' hmvn] at hcut
    have hlength : (UInt64.ofNat (ofLittleEndian n)).toNat = ofLittleEndian n := by
      have h1 := ofLittleEndian_lt n
      rw [hn] at h1
      exact UInt64.toNat_ofNat_of_lt' h1
    have h1 : (m ++ v ++ n).take 4 = m := by
      rw [List.append_assoc, List.take_left' hm]
    have h2 : statedVersion (m ++ v ++ n) = ofLittleEndian v := by
      have := statedVersion_append (n := n) (r := []) hm hv
      rwa [List.append_nil] at this
    have h3 : statedLength (m ++ v ++ n) = ofLittleEndian n := by
      have := statedLength_append (r := []) hm hv hn
      rwa [List.append_nil] at this
    have hrest : r.length < 2 ^ 64 := by omega
    have h4 := @openRest_eq (Word.size (m ++ v ++ n ++ r)) (.ofNat (ofLittleEndian n)) r hrest
    rw [hlength, hsize, hr] at h4
    rw [openEnvelope_append hm hv hn, hcut, Option.bind_eq_bind, Option.bind_some]
    dsimp only
    rw [h1, h2, h3, h4]
    by_cases h5 : m ≠ magic
    · rw [if_pos h5, if_pos h5]
    · rw [if_neg h5, if_neg h5]
      by_cases h6 : ofLittleEndian v ≠ version
      · rw [if_pos h6, if_pos h6]
      · rw [if_neg h6, if_neg h6]

/-- a reader leaves a part of what it is given -/
theorem length_rest_le {payload : Bytes} {d : List Handler × List Edge} {rest : Bytes}
    (h : readPayload payload = .ok (d, rest)) : rest.length ≤ payload.length := by
  obtain ⟨s, -, rfl⟩ := Reads.payload.sound h
  rw [List.length_append]
  omega

theorem decodePayloadWords_eq {payload : Bytes} (h : payload.length < 2 ^ 64) :
    decodePayloadWords payload = some (decodePayload payload) := by
  unfold decodePayloadWords decodePayload
  cases hread : readPayload payload with
  | error fault => rfl
  | ok d =>
    obtain ⟨⟨vertices, edges⟩, rest⟩ := d
    have hle := length_rest_le hread
    have hsize := Word.toNat_size h
    have hfits : rest.length < 2 ^ 64 := by omega
    have hrest := Word.toNat_size hfits
    obtain ⟨consumed, h1, h2⟩ := Word.sub?_eq_some (a := Word.size payload) (b := Word.size rest)
      (by omega)
    obtain ⟨left, h3, h4⟩ := Word.sub?_eq_some (a := Word.size payload) (b := consumed) (by omega)
    have h5 : left.toNat = rest.length := by omega
    have h6 : consumed ≠ Word.size payload ↔ rest ≠ [] := by
      rw [ne_eq, ← UInt64.toNat_inj, ne_eq, ← List.length_eq_zero_iff]
      omega
    dsimp only
    rw [h1, Option.bind_eq_bind, Option.bind_some, h3, Option.bind_some, h5]
    by_cases hr : rest = []
    · rw [if_neg (mt h6.mp (not_not.mpr hr)), if_neg (not_not.mpr hr)]
      cases restore vertices edges <;> rfl
    · rw [if_pos (h6.mpr hr), if_pos hr]

/-- **In words every operation has its result**, and what comes out is what comes out of numbers
without a limit. -/
theorem decodeWords_eq {bytes : Bytes} (h : bytes.length < 2 ^ 64) :
    decodeWords bytes = some (decode bytes) := by
  rw [decodeWords, openWords_eq h, decode]
  cases ho : openEnvelope bytes with
  | error fault => rfl
  | ok payload =>
    obtain ⟨-, rfl⟩ := (openEnvelope_eq_ok_iff bytes payload).mp ho
    rw [length_envelope] at h
    exact decodePayloadWords_eq (by omega)

/-! ### the checks by the stated length -/

/-- a payload is refused for no reason that lies in its envelope -/
theorem fault_of_decodePayload {payload : Bytes} {fault : SnapshotFault}
    (h : decodePayload payload = .error fault) :
    (∃ f, fault = .payload f) ∨ (∃ n, fault = .unread n) ∨ ∃ f, fault = .corrupt f := by
  unfold decodePayload at h
  split at h
  · cases h
    exact .inl ⟨_, rfl⟩
  · split_ifs at h with hr
    · cases h
      exact .inr (.inl ⟨_, rfl⟩)
    · split at h <;> cases h
      exact .inr (.inr ⟨_, rfl⟩)

/-- what is left over is what the grammar of payloads does not take -/
theorem decodePayload_unread_iff {payload : Bytes} {count : Nat} :
    decodePayload payload = .error (.unread count) ↔
      ∃ vertices edges consumed, PayloadForm vertices edges consumed ∧ consumed <+: payload
        ∧ consumed.length < payload.length ∧ count = payload.length - consumed.length := by
  constructor
  · intro h
    unfold decodePayload at h
    split at h
    · cases h
    · rename_i vertices edges rest hread
      split_ifs at h with hr
      · cases h
        obtain ⟨s, hs, rfl⟩ := Reads.payload.sound hread
        have hpos := List.length_pos_iff.mpr hr
        refine ⟨vertices, edges, s, hs, List.prefix_append s rest, ?_, ?_⟩ <;>
          rw [List.length_append] <;> omega
      · split at h <;> cases h
  · rintro ⟨vertices, edges, s, hs, ⟨rest, rfl⟩, hlt, rfl⟩
    have h1 : readPayload (s ++ rest) = .ok ((vertices, edges), rest) :=
      Reads.payload.complete (x := (vertices, edges)) hs rest
    rw [List.length_append] at hlt
    have hr : rest ≠ [] := List.length_pos_iff.mp (by omega)
    rw [decodePayload, h1, List.length_append, Nat.add_sub_cancel_left]
    dsimp only
    rw [if_pos hr]

/-- the bytes behind the header, as many as it states -/
def statedPayload (bytes : Bytes) : Bytes := (bytes.drop 14).take (statedLength bytes)

/-- the bytes behind the stated payload -/
def statedDigest (bytes : Bytes) : Bytes := bytes.drop (14 + statedLength bytes)

theorem statedLength_lt {bytes : Bytes} (hl : 14 ≤ bytes.length) : statedLength bytes < 2 ^ 64 := by
  have h1 := ofLittleEndian_lt ((bytes.drop 6).take 8)
  have h2 : ((bytes.drop 6).take 8).length = 8 := by
    rw [List.length_take, List.length_drop]
    omega
  rw [h2] at h1
  exact h1

/-- the checks of a snapshot whose signature and version are right -/
theorem decode_cases {bytes : Bytes} (hl : 14 ≤ bytes.length) (hm : bytes.take 4 = magic)
    (hv : statedVersion bytes = version) :
    (2 ^ 64 ≤ statedLength bytes + 32 ∧ decode bytes = .error .lengthOverflow)
    ∨ (statedLength bytes + 32 < 2 ^ 64 ∧ bytes.length < 14 + statedLength bytes + 32
      ∧ decode bytes =
        .error (.truncated (min (14 + statedLength bytes + 32) (2 ^ 64 - 1)) bytes.length))
    ∨ (statedLength bytes + 32 < 2 ^ 64 ∧ 14 + statedLength bytes + 32 < bytes.length
      ∧ decode bytes = .error (.trailingBytes (bytes.length - 14 - statedLength bytes - 32)))
    ∨ (statedLength bytes + 32 < 2 ^ 64 ∧ bytes.length = 14 + statedLength bytes + 32
      ∧ Sha256.digest (statedPayload bytes) ≠ statedDigest bytes
      ∧ decode bytes = .error .checksumMismatch)
    ∨ (statedLength bytes + 32 < 2 ^ 64 ∧ bytes.length = 14 + statedLength bytes + 32
      ∧ Sha256.digest (statedPayload bytes) = statedDigest bytes
      ∧ decode bytes = decodePayload (statedPayload bytes)) := by
  obtain ⟨m, v, n, r, hm', hv', hn, rfl⟩ := exists_header hl
  have hmvn : (m ++ v ++ n).length = 14 := by simp only [List.length_append, hm', hv', hn]
  have hmagic : m = magic := by
    rwa [List.append_assoc, List.append_assoc, List.take_left' hm'] at hm
  rw [statedVersion_append hm' hv'] at hv
  rw [statedPayload, statedDigest, statedLength_append hm' hv' hn, ← List.drop_drop,
    List.drop_left' hmvn, decode, openEnvelope_append hm' hv' hn, List.length_append, hmvn,
    if_neg (not_not.mpr hmagic), if_neg (not_not.mpr hv)]
  have h3 : 14 + (ofLittleEndian n + 32) = 14 + ofLittleEndian n + 32 := (Nat.add_assoc _ _ _).symm
  have h4 : r.length - (ofLittleEndian n + 32) = 14 + r.length - 14 - ofLittleEndian n - 32 := by
    omega
  rw [h3, h4]
  split_ifs with h5 h6 h7 h8
  · exact .inl ⟨h5, rfl⟩
  · exact .inr (.inl ⟨by omega, by omega, rfl⟩)
  · exact .inr (.inr (.inl ⟨by omega, by omega, rfl⟩))
  · exact .inr (.inr (.inr (.inl ⟨by omega, by omega, h8, rfl⟩)))
  · exact .inr (.inr (.inr (.inr ⟨by omega, by omega, not_not.mp h8, rfl⟩)))

/-- **A snapshot is checked by the length that its header states, exactly up to the limits of 64
bits.**  The length and that of the digest must not make more than a word holds, and all bytes must
be there and no more; then the digest of exactly the stated bytes counts, and what is told to be
left over is what the payload does not take of them.  In words the same comes out: no sum wraps
around, no difference is negative and no cut lies behind the end. -/
theorem decode_of_statedLength {bytes : Bytes} (hl : 14 ≤ bytes.length) (hm : bytes.take 4 = magic)
    (hv : statedVersion bytes = version) :
    statedLength bytes < 2 ^ 64
    ∧ (decode bytes = .error .lengthOverflow ↔ 2 ^ 64 ≤ statedLength bytes + 32)
    ∧ (∀ expected found, decode bytes = .error (.truncated expected found) ↔
        statedLength bytes + 32 < 2 ^ 64 ∧ bytes.length < 14 + statedLength bytes + 32
          ∧ expected = min (14 + statedLength bytes + 32) (2 ^ 64 - 1) ∧ found = bytes.length)
    ∧ (∀ count, decode bytes = .error (.trailingBytes count) ↔
        statedLength bytes + 32 < 2 ^ 64 ∧ 14 + statedLength bytes + 32 < bytes.length
          ∧ count = bytes.length - 14 - statedLength bytes - 32)
    ∧ (statedLength bytes + 32 < 2 ^ 64 → bytes.length = 14 + statedLength bytes + 32 →
        (statedPayload bytes).length = statedLength bytes ∧ (statedDigest bytes).length = 32
        ∧ bytes.drop 14 = statedPayload bytes ++ statedDigest bytes
        ∧ (Sha256.digest (statedPayload bytes) = statedDigest bytes →
            decode bytes = decodePayload (statedPayload bytes)))
    ∧ (decode bytes = .error .checksumMismatch ↔
        statedLength bytes + 32 < 2 ^ 64 ∧ bytes.length = 14 + statedLength bytes + 32
          ∧ Sha256.digest (statedPayload bytes) ≠ statedDigest bytes)
    ∧ (∀ count, decode bytes = .error (.unread count) ↔
        statedLength bytes + 32 < 2 ^ 64 ∧ bytes.length = 14 + statedLength bytes + 32
          ∧ Sha256.digest (statedPayload bytes) = statedDigest bytes
          ∧ ∃ vertices edges consumed, PayloadForm vertices edges consumed
            ∧ consumed <+: statedPayload bytes ∧ consumed.length < statedLength bytes
            ∧ count = statedLength bytes - consumed.length)
    ∧ (bytes.length < 2 ^ 64 → decodeWords bytes = some (decode bytes)) := by
  have hcut : bytes.drop 14 = statedPayload bytes ++ statedDigest bytes := by
    rw [statedPayload, statedDigest, ← List.drop_drop, List.take_append_drop]
  have hpayload : bytes.length = 14 + statedLength bytes + 32 →
      (statedPayload bytes).length = statedLength bytes := by
    intro he
    rw [statedPayload, List.length_take, List.length_drop]
    omega
  have hdigest : bytes.length = 14 + statedLength bytes + 32 → (statedDigest bytes).length = 32 := by
    intro he
    rw [statedDigest, List.length_drop]
    omega
  -- the five cases exclude each other, and a payload is never refused for its envelope
  have hcases := decode_cases hl hm hv
  have hfault := @fault_of_decodePayload (statedPayload bytes)
  have hunread := @decodePayload_unread_iff (statedPayload bytes)
  refine ⟨statedLength_lt hl, ?_, fun expected found => ?_, fun count => ?_, fun h1 h2 =>
    ⟨hpayload h2, hdigest h2, hcut, fun h3 => ?_⟩, ?_, fun count => ?_, decodeWords_eq⟩
  · grind
  · grind
  · grind
  · grind
  · grind
  · grind

/-- a header alone, which states the largest length that leaves room for the digest -/
def farHeader : Bytes := magic ++ littleEndian 2 version ++ littleEndian 8 (2 ^ 64 - 33)

theorem decode_of_statedLength_far :
    14 ≤ farHeader.length ∧ farHeader.take 4 = magic ∧ statedVersion farHeader = version
    ∧ decode farHeader = .error (.truncated (2 ^ 64 - 1) 14)
    ∧ decodeWords farHeader = some (.error (.truncated (2 ^ 64 - 1) 14)) := by
  have h1 : 14 ≤ farHeader.length := by decide
  have h2 : farHeader.take 4 = magic := by decide
  have h3 : statedVersion farHeader = version := by decide
  have h4 : statedLength farHeader = 2 ^ 64 - 33 := by decide
  have h5 := decode_of_statedLength h1 h2 h3
  rw [h4] at h5
  obtain ⟨-, -, htruncated, -, -, -, -, hwords⟩ := h5
  have h6 := (htruncated (2 ^ 64 - 1) 14).mpr (by decide)
  exact ⟨h1, h2, h3, h6, h6 ▸ hwords (by decide)⟩

end MessageFlow.Snapshot
