import MessageFlow.Proofs.Graph.Operations
import MessageFlow.Proofs.Snapshot.Grammar
import MessageFlow.Snapshot.Envelope

/-!
# Which bytes are a snapshot

`decode_eq_ok_iff` characterises the bytes that are accepted: the signature, the version, the length
of the payload, a payload of the grammar (`PayloadForm`) and its digest, where the payload describes
a well-formed graph.  The graph has what the payload describes, in the same order.

* `restore_eq_ok_iff`         a description is restored if and only if it is well-formed;
* `openEnvelope_append`       the checks on the envelope, for bytes cut into the fields of a header;
* `openEnvelope_eq_ok_iff`    the envelope is opened if and only if it is the one of its payload.

The digest is never looked into: only its length matters.
-/

namespace MessageFlow.Snapshot

open Text (Bytes)

/-! ### from the description to the graph -/

theorem restoreVertex_of_mem {g : Graph} {v : Handler}
    (h : v.name ∈ g.vertices.map Handler.name) :
    restoreVertex g v = .error (.duplicateVertex v.name) := by
  rw [restoreVertex, if_pos (Graph.contains_iff.mpr h)]

theorem restoreVertex_of_notMem {g : Graph} {v : Handler}
    (h : v.name ∉ g.vertices.map Handler.name) :
    restoreVertex g v = .ok { g with vertices := g.vertices ++ [v] } := by
  rw [restoreVertex, if_neg (fun hc => h (Graph.contains_iff.mp hc)),
    Graph.addVertex_of_absent (Graph.position?_eq_none_iff.mpr h)]

/-- the vertices before `vs` have distinct names already -/
theorem foldlM_restoreVertex_eq_ok_iff (vs : List Handler) {g g' : Graph}
    (hg : (g.vertices.map Handler.name).Nodup) :
    vs.foldlM restoreVertex g = .ok g' ↔ ((g.vertices ++ vs).map Handler.name).Nodup
      ∧ g' = { g with vertices := g.vertices ++ vs } := by
  induction vs generalizing g with
  | nil =>
    rw [List.append_nil]
    constructor
    · intro h
      cases h
      exact ⟨hg, rfl⟩
    · rintro ⟨_, rfl⟩
      rfl
  | cons v vs ih =>
    rw [List.foldlM_cons]
    by_cases h : v.name ∈ g.vertices.map Handler.name
    · rw [restoreVertex_of_mem h]
      constructor
      · intro h'
        cases h'
      · rintro ⟨hn, _⟩
        rw [List.map_append, List.map_cons] at hn
        exact absurd rfl ((List.nodup_append.mp hn).2.2 _ h _ List.mem_cons_self)
    · have h1 : ((g.vertices ++ [v]).map Handler.name).Nodup := by
        rw [List.map_append, List.map_singleton, ← List.concat_eq_append]
        exact hg.concat h
      rw [restoreVertex_of_notMem h, ok_bind, ih h1]
      simp only [List.append_assoc, List.singleton_append]

theorem restoreEdge_of_not_lt {g : Graph} {e : Edge}
    (h : ¬ (e.source < g.vertices.length ∧ e.target < g.vertices.length)) :
    restoreEdge g e = .error (.missingVertex e.source e.target) := by
  rw [restoreEdge, if_neg h]

theorem restoreEdge_of_mem {g : Graph} {e : Edge}
    (h : e.source < g.vertices.length ∧ e.target < g.vertices.length)
    (hk : e.key ∈ g.edges.map Edge.key) :
    restoreEdge g e = .error (.duplicateEdge e.message.name) := by
  obtain ⟨i, _, _, _, h1⟩ := Graph.addEdge_of_present h.1 h.2 hk
  rw [restoreEdge, if_pos h, h1]

theorem restoreEdge_of_notMem {g : Graph} {e : Edge}
    (h : e.source < g.vertices.length ∧ e.target < g.vertices.length)
    (hk : e.key ∉ g.edges.map Edge.key) :
    restoreEdge g e = .ok { g with edges := g.edges ++ [e] } := by
  rw [restoreEdge, if_pos h, Graph.addEdge_of_absent h.1 h.2 hk]

/-- the edges before `es` have distinct keys already -/
theorem foldlM_restoreEdge_eq_ok_iff (es : List Edge) {g g' : Graph}
    (hg : (g.edges.map Edge.key).Nodup) :
    es.foldlM restoreEdge g = .ok g' ↔
      (∀ e ∈ es, e.source < g.vertices.length ∧ e.target < g.vertices.length)
      ∧ ((g.edges ++ es).map Edge.key).Nodup ∧ g' = { g with edges := g.edges ++ es } := by
  induction es generalizing g with
  | nil =>
    rw [List.append_nil]
    constructor
    · intro h
      cases h
      exact ⟨fun _ he => (List.not_mem_nil he).elim, hg, rfl⟩
    · rintro ⟨_, _, rfl⟩
      rfl
  | cons e es ih =>
    rw [List.foldlM_cons]
    by_cases h : e.source < g.vertices.length ∧ e.target < g.vertices.length
    · by_cases hk : e.key ∈ g.edges.map Edge.key
      · rw [restoreEdge_of_mem h hk]
        constructor
        · intro h'
          cases h'
        · rintro ⟨_, hn, _⟩
          rw [List.map_append, List.map_cons] at hn
          exact absurd rfl ((List.nodup_append.mp hn).2.2 _ hk _ List.mem_cons_self)
      · have h1 : ((g.edges ++ [e]).map Edge.key).Nodup := by
          rw [List.map_append, List.map_singleton, ← List.concat_eq_append]
          exact hg.concat hk
        rw [restoreEdge_of_notMem h hk, ok_bind, ih h1, List.forall_mem_cons]
        simp only [List.append_assoc, List.singleton_append, h, true_and]
    · rw [restoreEdge_of_not_lt h]
      constructor
      · intro h'
        cases h'
      · rintro ⟨hlt, _, _⟩
        exact absurd (hlt e List.mem_cons_self) h

/-- **A description is restored if and only if it is well-formed, and then as it stands.** -/
theorem restore_eq_ok_iff (vertices : List Handler) (edges : List Edge) (g : Graph) :
    restore vertices edges = .ok g ↔ g = ⟨vertices, edges⟩ ∧ g.WellFormed := by
  constructor
  · intro h
    obtain ⟨g₁, h1, h2⟩ := exists_of_bind_eq_ok h
    obtain ⟨hn, rfl⟩ := (foldlM_restoreVertex_eq_ok_iff vertices (g := ∅) List.nodup_nil).mp h1
    obtain ⟨hlt, hk, rfl⟩ :=
      (foldlM_restoreEdge_eq_ok_iff edges (g := ⟨vertices, []⟩) List.nodup_nil).mp h2
    exact ⟨rfl, hn, fun e he => (hlt e he).1, fun e he => (hlt e he).2, hk⟩
  · rintro ⟨rfl, hg⟩
    have h1 : vertices.foldlM restoreVertex (∅ : Graph) = .ok ⟨vertices, []⟩ :=
      (foldlM_restoreVertex_eq_ok_iff vertices (g := ∅) List.nodup_nil).mpr ⟨hg.names_nodup, rfl⟩
    rw [restore, h1, ok_bind]
    exact (foldlM_restoreEdge_eq_ok_iff edges (g := ⟨vertices, []⟩) List.nodup_nil).mpr
      ⟨fun e he => ⟨hg.source_lt e he, hg.target_lt e he⟩, hg.keys_nodup, rfl⟩

/-! ### the envelope -/

/-- bytes that are long enough begin with the fields of a header -/
theorem exists_header {bytes : Bytes} (h : headerLength ≤ bytes.length) :
    ∃ m v n r : Bytes, m.length = 4 ∧ v.length = 2 ∧ n.length = 8 ∧ bytes = m ++ v ++ n ++ r := by
  have h1 : 14 ≤ bytes.length := h
  refine ⟨bytes.take 4, (bytes.drop 4).take 2, (bytes.drop 6).take 8, bytes.drop 14, ?_, ?_, ?_, ?_⟩
  · rw [List.length_take]
    omega
  · rw [List.length_take, List.length_drop]
    omega
  · rw [List.length_take, List.length_drop]
    omega
  · have h2 : bytes.drop 14 = (bytes.drop 6).drop 8 := by rw [List.drop_drop]
    have h3 : bytes.drop 6 = (bytes.drop 4).drop 2 := by rw [List.drop_drop]
    rw [List.append_assoc, h2, List.take_append_drop, List.append_assoc, h3, List.take_append_drop,
      List.take_append_drop]

theorem length_envelope (payload : Bytes) : (envelope payload).length = payload.length + 46 := by
  simp only [envelope, List.length_append, length_littleEndian, Sha256.length_digest, magic,
    List.length_cons, List.length_nil]
  omega

/-- the checks on an envelope, in their order, for bytes cut into the fields of a header -/
theorem openEnvelope_append {m v n r : Bytes} (hm : m.length = 4) (hv : v.length = 2)
    (hn : n.length = 8) : openEnvelope (m ++ v ++ n ++ r) =
      if m ≠ magic then .error .badMagic
      else if ofLittleEndian v ≠ version then .error (.unsupportedVersion (ofLittleEndian v))
      else if 2 ^ 64 ≤ ofLittleEndian n + 32 then .error .lengthOverflow
      else if r.length < ofLittleEndian n + 32 then
        .error (.truncated (min (14 + (ofLittleEndian n + 32)) (2 ^ 64 - 1)) (14 + r.length))
      else if ofLittleEndian n + 32 < r.length then
        .error (.trailingBytes (r.length - (ofLittleEndian n + 32)))
      else if Sha256.digest (r.take (ofLittleEndian n)) ≠ r.drop (ofLittleEndian n) then
        .error .checksumMismatch
      else .ok (r.take (ofLittleEndian n)) := by
  have hl : (m ++ v ++ n ++ r).length = 14 + r.length := by
    simp only [List.length_append]
    omega
  have h1 : (m ++ v ++ n ++ r).take 4 = m := by
    rw [List.append_assoc, List.append_assoc, List.take_left' hm]
  have h2 : ((m ++ v ++ n ++ r).drop 4).take 2 = v := by
    rw [List.append_assoc, List.append_assoc, List.drop_left' hm, List.take_left' hv]
  have hmv : (m ++ v).length = 6 := by rw [List.length_append, hm, hv]
  have h3 : ((m ++ v ++ n ++ r).drop 6).take 8 = n := by
    rw [List.append_assoc, List.drop_left' hmv, List.take_left' hn]
  have hmvn : (m ++ v ++ n).length = 14 := by rw [List.length_append, hmv, hn]
  have h4 : (m ++ v ++ n ++ r).drop headerLength = r := List.drop_left' hmvn
  have hlt : ¬ (m ++ v ++ n ++ r).length < headerLength := by
    rw [hl]
    exact Nat.not_lt.mpr (Nat.le_add_right 14 r.length)
  rw [openEnvelope, if_neg hlt, h1]
  dsimp only
  rw [h2, h3, h4, hl]
  rfl

/-- an envelope is opened if and only if it is the one of its payload -/
theorem openEnvelope_eq_ok_iff (bytes payload : Bytes) :
    openEnvelope bytes = .ok payload ↔
      payload.length + 32 < 2 ^ 64 ∧ bytes = envelope payload := by
  constructor
  · intro h
    by_cases hl : bytes.length < headerLength
    · rw [openEnvelope, if_pos hl] at h
      cases h
    · obtain ⟨m, v, n, r, hm, hv, hn, rfl⟩ := exists_header (Nat.not_lt.mp hl)
      rw [openEnvelope_append hm hv hn] at h
      split_ifs at h with h1 h2 h3 h4 h5 h6
      cases h
      have hr : (r.take (ofLittleEndian n)).length = ofLittleEndian n := by
        rw [List.length_take]
        omega
      have hvn : littleEndian 2 version = v := by
        rw [← not_not.mp h2, ← hv]
        exact littleEndian_ofLittleEndian v
      have hnn : littleEndian 8 (ofLittleEndian n) = n := by
        rw [← hn]
        exact littleEndian_ofLittleEndian n
      refine ⟨by rw [hr]; omega, ?_⟩
      rw [envelope, hr, hvn, hnn, not_not.mp h1, not_not.mp h6, List.append_assoc _ (List.take _ _),
        List.take_append_drop]
  · rintro ⟨hlt, rfl⟩
    have hn : ofLittleEndian (littleEndian 8 payload.length) = payload.length :=
      ofLittleEndian_littleEndian 8 _ (by omega)
    have hv : ofLittleEndian (littleEndian 2 version) = version := rfl
    have hd := Sha256.length_digest payload
    have hr : (payload ++ Sha256.digest payload).length = payload.length + 32 := by
      rw [List.length_append, hd]
    rw [envelope, List.append_assoc _ payload,
      openEnvelope_append rfl (length_littleEndian 2 _) (length_littleEndian 8 _), hn, hv, hr,
      List.take_left, List.drop_left, if_neg (not_not.mpr rfl), if_neg (not_not.mpr rfl),
      if_neg (Nat.not_le.mpr hlt), if_neg (Nat.lt_irrefl _), if_neg (Nat.lt_irrefl _),
      if_neg (not_not.mpr rfl)]

/-! ### acceptance -/

theorem decodePayload_eq_ok_iff (payload : Bytes) (g : Graph) :
    decodePayload payload = .ok g ↔ PayloadForm g.vertices g.edges payload ∧ g.WellFormed := by
  constructor
  · intro h
    unfold decodePayload at h
    split at h
    · cases h
    · rename_i vertices edges rest hread
      split_ifs at h with hrest
      split at h
      · cases h
      · rename_i g' hg
        cases h
        obtain ⟨rfl, hw⟩ := (restore_eq_ok_iff vertices edges g).mp hg
        obtain ⟨s, hs, rfl⟩ := Reads.payload.sound hread
        rw [not_not.mp hrest, List.append_nil]
        exact ⟨hs, hw⟩
  · rintro ⟨hp, hw⟩
    have h1 : readPayload payload = .ok ((g.vertices, g.edges), []) := by
      have h2 := Reads.payload.complete (x := (g.vertices, g.edges)) hp []
      rwa [List.append_nil] at h2
    have h3 : restore g.vertices g.edges = .ok g := (restore_eq_ok_iff _ _ g).mpr ⟨rfl, hw⟩
    rw [decodePayload, h1]
    dsimp only
    rw [if_neg (not_not.mpr rfl), h3]

theorem decode_eq_ok_iff_envelope (bytes : Bytes) (g : Graph) :
    decode bytes = .ok g ↔ ∃ payload, payload.length + 32 < 2 ^ 64 ∧ bytes = envelope payload
      ∧ PayloadForm g.vertices g.edges payload ∧ g.WellFormed := by
  constructor
  · intro h
    obtain ⟨payload, h1, h2⟩ := exists_of_bind_eq_ok h
    obtain ⟨hlt, hb⟩ := (openEnvelope_eq_ok_iff bytes payload).mp h1
    exact ⟨payload, hlt, hb, (decodePayload_eq_ok_iff payload g).mp h2⟩
  · rintro ⟨payload, hlt, hb, hp⟩
    rw [decode, (openEnvelope_eq_ok_iff bytes payload).mpr ⟨hlt, hb⟩, ok_bind]
    exact (decodePayload_eq_ok_iff payload g).mpr hp

/-- **The bytes that are accepted, and the graph that they give.**  The length of the payload and of
its digest is counted in 64 bits, which every string of bytes in memory keeps. -/
theorem decode_eq_ok_iff (bytes : Bytes) (g : Graph) :
    decode bytes = .ok g ↔ ∃ payload : Bytes, payload.length + 32 < 2 ^ 64
      ∧ bytes = [0x4D, 0x46, 0x47, 0x52] ++ [1, 0] ++ littleEndian 8 payload.length ++ payload
        ++ Sha256.digest payload
      ∧ PayloadForm g.vertices g.edges payload
      ∧ (g.vertices.map Handler.name).Nodup
      ∧ (∀ e ∈ g.edges, e.source < g.vertices.length ∧ e.target < g.vertices.length)
      ∧ (g.edges.map fun e => (e.source, e.target, e.message.name)).Nodup := by
  rw [decode_eq_ok_iff_envelope]
  constructor
  · rintro ⟨payload, hlt, hb, hp, hg⟩
    exact ⟨payload, hlt, hb, hp, hg.names_nodup, fun e he => ⟨hg.source_lt e he, hg.target_lt e he⟩,
      hg.keys_nodup⟩
  · rintro ⟨payload, hlt, hb, hp, hn, he, hk⟩
    exact ⟨payload, hlt, hb, hp, hn, fun e h => (he e h).1, fun e h => (he e h).2, hk⟩

end MessageFlow.Snapshot
