import Mathlib.Data.List.Perm.Subperm
import Mathlib.Data.List.Sort
import Mathlib.Data.Prod.Lex
import MessageFlow.Proofs.Graph.Operations
import MessageFlow.Proofs.Roster

/-!
# Sorted views of a graph

Vertices are sorted by name, flows by the names of source, target and message, and the modules are a
list without repetition.

* `sortedVertices_perm`, `sortedFlows_perm`, `mem_modules`   what the views hold;
* `WellFormed.sortedVertices_strict`, `WellFormed.sortedFlows_strict`, `modules_ascending`   in which
  order;
* `WellFormed.perm_of_agrees`   graphs that agree have the same vertices;
* `WellFormed.sortedVertices_of_perm`, `modules_of_perm`, `labels_of_agrees`   so the views of graphs
  that agree are the same.
-/

namespace MessageFlow

namespace Flow

/-- flows are sorted by source, then by target, then by message -/
def rank (f : Flow) : String ×ₗ String ×ₗ String :=
  toLex (f.source.name, toLex (f.target.name, f.message.name))

theorem le_iff_rank {f g : Flow} : f.le g = true ↔ f.rank ≤ g.rank := by
  simp only [le, rank, Prod.Lex.toLex_le_toLex, Bool.or_eq_true, Bool.and_eq_true, beq_iff_eq,
    decide_eq_true_eq]

theorem key_eq_of_rank {f g : Flow} (h : f.rank = g.rank) : f.key = g.key := by
  simpa only [rank, key, EmbeddingLike.apply_eq_iff_eq, Prod.mk.injEq] using h

end Flow

namespace Graph

variable {g h : Graph}

/-! ### what the views hold -/

theorem sortedVertices_perm (g : Graph) : g.sortedVertices.Perm g.vertices :=
  List.mergeSort_perm _ _

theorem sortedVertices_ascending (g : Graph) :
    g.sortedVertices.Pairwise (fun v w => v.name ≤ w.name) := by
  have h1 : g.sortedVertices.Pairwise (fun v w => decide (v.name ≤ w.name) = true) := by
    apply List.pairwise_mergeSort
    · intro u v w huv hvw
      rw [decide_eq_true_eq] at huv hvw ⊢
      exact huv.trans hvw
    · intro v w
      rw [Bool.or_eq_true, decide_eq_true_eq, decide_eq_true_eq]
      exact le_total v.name w.name
  exact h1.imp fun hvw => of_decide_eq_true hvw

theorem sortedFlows_perm (g : Graph) : g.sortedFlows.Perm g.flows :=
  List.mergeSort_perm _ _

theorem sortedFlows_ascending (g : Graph) :
    g.sortedFlows.Pairwise (fun f f' => f.rank ≤ f'.rank) := by
  have h1 : g.sortedFlows.Pairwise (fun f f' => f.le f' = true) := by
    apply List.pairwise_mergeSort
    · intro a b c hab hbc
      rw [Flow.le_iff_rank] at hab hbc ⊢
      exact hab.trans hbc
    · intro a b
      rw [Bool.or_eq_true, Flow.le_iff_rank, Flow.le_iff_rank]
      exact le_total a.rank b.rank
  exact h1.imp Flow.le_iff_rank.mp

/-- flows with different keys are not only in order but strictly so -/
theorem WellFormed.sortedFlows_strict (hg : g.WellFormed) :
    g.sortedFlows.Pairwise (fun f f' => f.rank < f'.rank) := by
  have h1 : (g.sortedFlows.map Flow.key).Nodup :=
    (g.sortedFlows_perm.map Flow.key).nodup_iff.mpr hg.flow_keys_nodup
  have h2 := g.sortedFlows_ascending.and (List.pairwise_map.mp h1)
  exact h2.imp fun h => lt_of_le_of_ne h.1 fun he => h.2 (Flow.key_eq_of_rank he)

/-- strict order leaves one way to sort -/
theorem sortedFlows_eq {fs : List Flow} (hp : fs.Perm g.flows)
    (hs : fs.Pairwise (fun f f' => f.rank < f'.rank)) : g.sortedFlows = fs := by
  have h1 : (fs.map Flow.rank).Nodup := List.pairwise_map.mpr (hs.imp fun h => ne_of_lt h)
  have h2 : g.sortedFlows.Perm fs := g.sortedFlows_perm.trans hp.symm
  refine h2.eq_of_pairwise ?_ g.sortedFlows_ascending (hs.imp fun h => le_of_lt h)
  intro f f' hf hf' h3 h4
  exact List.inj_on_of_nodup_map h1 (h2.mem_iff.mp hf) hf' (le_antisymm h3 h4)

theorem WellFormed.sortedVertices_strict (hg : g.WellFormed) :
    g.sortedVertices.Pairwise (fun v w => v.name < w.name) := by
  have h1 : (g.sortedVertices.map Handler.name).Nodup :=
    (g.sortedVertices_perm.map Handler.name).nodup_iff.mpr hg.names_nodup
  have h2 := g.sortedVertices_ascending.and (List.pairwise_map.mp h1)
  exact h2.imp fun h => lt_of_le_of_ne h.1 h.2

theorem mem_modules {key : String} : key ∈ g.modules ↔ key ∈ g.vertices.map Handler.moduleKey :=
  mem_distinct

theorem modules_ascending (g : Graph) : g.modules.Pairwise (· < ·) := distinct_ascending _

theorem modules_nodup (g : Graph) : g.modules.Nodup := g.modules_ascending.imp fun h => ne_of_lt h

/-! ### graphs that agree -/

theorem agrees_iff : g.agrees h = true ↔
    g.vertices.length = h.vertices.length ∧ g.edges.length = h.edges.length
      ∧ (∀ v ∈ g.vertices, h.vertex? v.name = some v)
      ∧ g.sortedFlows.map Flow.label = h.sortedFlows.map Flow.label := by
  simp only [agrees, vertexCount, edgeCount, Bool.and_eq_true, beq_iff_eq, List.all_eq_true,
    and_assoc]

/-- a well-formed graph has the content that it has -/
theorem WellFormed.agrees_self (hg : g.WellFormed) : g.agrees g = true := by
  have h1 : g.vertices.all (fun v => g.vertex? v.name == some v) = true := by
    rw [List.all_eq_true]
    intro v hv
    rw [hg.vertex?_of_mem hv]
    exact beq_self_eq_true (some v)
  rw [agrees, h1, beq_self_eq_true, beq_self_eq_true, beq_self_eq_true]
  rfl

theorem labels_of_agrees (ha : g.agrees h = true) :
    g.sortedFlows.map Flow.label = h.sortedFlows.map Flow.label :=
  (agrees_iff.mp ha).2.2.2

theorem WellFormed.nodup_vertices (hg : g.WellFormed) : g.vertices.Nodup := hg.names_nodup.of_map _

/-- graphs that agree have the same vertices, in whatever order -/
theorem WellFormed.perm_of_agrees (hg : g.WellFormed) (ha : g.agrees h = true) :
    g.vertices.Perm h.vertices := by
  obtain ⟨h1, -, h2, -⟩ := agrees_iff.mp ha
  have h3 : g.vertices ⊆ h.vertices := fun v hv => (vertex?_eq_some (h2 v hv)).1
  exact (hg.nodup_vertices.subperm h3).perm_of_length_le h1.ge

theorem modules_of_perm (hp : g.vertices.Perm h.vertices) : g.modules = h.modules := by
  apply g.modules_ascending.eq_of_mem_iff h.modules_ascending
  intro key
  rw [mem_modules, mem_modules, (hp.map Handler.moduleKey).mem_iff]

theorem WellFormed.sortedVertices_of_perm (hg : g.WellFormed) (hp : g.vertices.Perm h.vertices) :
    g.sortedVertices = h.sortedVertices := by
  have h1 : g.sortedVertices.Perm h.sortedVertices :=
    (g.sortedVertices_perm.trans hp).trans h.sortedVertices_perm.symm
  refine h1.eq_of_pairwise ?_ g.sortedVertices_ascending h.sortedVertices_ascending
  intro v w hv hw hvw hwv
  have hv' : v ∈ g.vertices := g.sortedVertices_perm.mem_iff.mp hv
  have hw' : w ∈ g.vertices := hp.mem_iff.mpr (h.sortedVertices_perm.mem_iff.mp hw)
  exact hg.vertex_inj hv' hw' (le_antisymm hvw hwv)

end Graph

end MessageFlow
