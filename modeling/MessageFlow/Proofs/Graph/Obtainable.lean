import MessageFlow.Proofs.Graph.Join
import MessageFlow.Proofs.Graph.Walk
import MessageFlow.Proofs.Snapshot.Acceptance

/-!
# The graphs that there are

`Obtainable g` says that some composition of the operations on graphs gives `g`: beginning with the
empty graph, with the join of two observation maps or with a snapshot that is accepted, vertices and
edges are added, and the result is narrowed.  Every such graph is well-formed
(`Obtainable.wellFormed`), so that what is proved of well-formed graphs holds whenever it is used.
-/

namespace MessageFlow.Graph

/-- some composition of the operations gives this graph -/
inductive Obtainable : Graph → Prop
  | empty : Obtainable ∅
  | addVertex {g : Graph} (hg : Obtainable g) (v : Handler) : Obtainable (g.addVertex v).1
  | addEdge {g : Graph} (hg : Obtainable g) {source target : Nat}
      (hs : source < g.vertices.length) (ht : target < g.vertices.length) (m : Message) :
      Obtainable (g.addEdge source target m).1
  | addFlow {g : Graph} (hg : Obtainable g) (f : Flow) : Obtainable (g.addFlow f).1
  | join (producers consumers : ObservationMap) : Obtainable (join producers consumers)
  | walkFrom {g : Graph} (hg : Obtainable g) (start : String) : Obtainable (g.walkFrom start)
  | interModule {g : Graph} (hg : Obtainable g) : Obtainable g.interModule
  | decode {g : Graph} {bytes : Text.Bytes} (h : Snapshot.decode bytes = .ok g) : Obtainable g

/-- no operation makes a graph ill-formed, and no ill-formed graph is read -/
theorem Obtainable.wellFormed {g : Graph} (hg : Obtainable g) : g.WellFormed := by
  induction hg with
  | empty => exact WellFormed.empty
  | addVertex _ v ih => exact ih.addVertex v
  | addEdge _ _ _ m ih => exact ih.addEdge _ _ m
  | addFlow _ f ih => exact ih.addFlow f
  | join producers consumers => exact WellFormed.join producers consumers
  | walkFrom _ start _ => exact WellFormed.walkFrom _ start
  | interModule _ _ => exact WellFormed.interModule _
  | decode h =>
    obtain ⟨_, _, _, _, hg⟩ := (Snapshot.decode_eq_ok_iff_envelope _ _).mp h
    exact hg

end MessageFlow.Graph
