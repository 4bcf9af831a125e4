import MessageFlow.Proofs.Graph.Obtainable
import MessageFlow.Proofs.Graph.Sorted

/-!
# Snapshots are read back

A graph that the operations give is what its snapshot gives: the same vertices and the same edges in
the same order (`decode_encode`).  The positions of the vertices must fit into the four bytes that an
edge has for them, and the length of the snapshot into the eight bytes of its header.
-/

namespace MessageFlow

namespace Graph

/-- the ends of an edge are among the vertices, so their positions are as small as these are few -/
theorem WellFormed.positions_lt {g : Graph} (hg : g.WellFormed) {n : Nat} (hn : g.vertexCount ≤ n) :
    ∀ e ∈ g.edges, e.source < n ∧ e.target < n := fun e he =>
  ⟨Nat.lt_of_lt_of_le (hg.source_lt e he) hn, Nat.lt_of_lt_of_le (hg.target_lt e he) hn⟩

end Graph

namespace Snapshot

theorem decode_encode_of_wellFormed {g : Graph} (hg : g.WellFormed) (hn : g.vertexCount ≤ 2 ^ 32)
    (hlen : (writePayload g).length + 32 < 2 ^ 64) : decode (encode g) = .ok g := by
  rw [decode_eq_ok_iff_envelope]
  have h1 : PayloadForm g.vertices g.edges (writePayload g) :=
    payloadForm_writePayload (hg.positions_lt hn) (by omega)
  exact ⟨writePayload g, hlen, rfl, h1, hg⟩

/-- a snapshot that is small enough to be read from a file is read back, since its vertices are not
more than its bytes -/
theorem decodeBounded_encode {g : Graph} (hg : g.WellFormed)
    (hlen : (encode g).length ≤ maxLength) : decodeBounded (encode g) = .ok g := by
  have h1 := length_envelope (writePayload g)
  have h2 := length_le_length_flatMap length_writeVertex_pos g.vertices
  have h3 : (g.vertices.flatMap writeVertex).length ≤ (writePayload g).length := by
    simp only [writePayload, writeList, List.length_append]
    omega
  rw [encode, h1, maxLength] at hlen
  rw [decodeBounded, if_neg (by rw [encode, h1, maxLength]; omega)]
  exact decode_encode_of_wellFormed hg (by rw [Graph.vertexCount]; omega) (by omega)

/-- bytes of bounded size give no other graphs than well-formed ones -/
theorem wellFormed_of_decodeBounded {bytes : Text.Bytes} {g : Graph}
    (h : decodeBounded bytes = .ok g) : g.WellFormed := by
  rw [decodeBounded] at h
  split at h
  · cases h
  · obtain ⟨_, _, _, _, hg⟩ := (decode_eq_ok_iff_envelope bytes g).mp h
    exact hg

/-- **Snapshots are read back.**  The snapshot of any graph that is not too large is accepted and
gives its vertices and its edges, in their order and with all their remarks; so the graph that is
read is the one that was written, and it has the same snapshot. -/
theorem decode_encode {g : Graph} (hg : g.Obtainable) (hn : g.vertexCount ≤ 2 ^ 32)
    (hlen : (writePayload g).length + 32 < 2 ^ 64) :
    ∃ h, decode (encode g) = .ok h ∧ h.vertices = g.vertices ∧ h.edges = g.edges
      ∧ (h == g) = true ∧ encode h = encode g :=
  ⟨g, decode_encode_of_wellFormed hg.wellFormed hn hlen, rfl, rfl, hg.wellFormed.agrees_self, rfl⟩

/-- a blank comment, a comment that is not there, and module keys that no name begins with -/
def remarked : Graph := ((∅ : Graph).addFlow
  ⟨⟨"shop.a", "other", some " ", none⟩, ⟨"é", "", none, some "start"⟩, ⟨"m", some ""⟩⟩).1

theorem decode_encode_remarked :
    remarked.Obtainable ∧ remarked.vertexCount ≤ 2 ^ 32
    ∧ (writePayload remarked).length + 32 < 2 ^ 64
    ∧ ∃ h, decode (encode remarked) = .ok h ∧ h.vertices = remarked.vertices
      ∧ h.edges = remarked.edges ∧ (h == remarked) = true ∧ encode h = encode remarked := by
  have h1 : remarked.Obtainable := .addFlow .empty _
  have h2 : remarked.vertexCount ≤ 2 ^ 32 := by decide
  have h3 : (writePayload remarked).length + 32 < 2 ^ 64 := by decide
  exact ⟨h1, h2, h3, decode_encode h1 h2 h3⟩

end Snapshot

end MessageFlow
