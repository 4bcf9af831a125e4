import MessageFlow.Diagram.Dot
import MessageFlow.Proofs.Graph.Sorted

/-!
# Drawings depend on content only

A diagram shows modules, handlers and flows in the order of their names, so that graphs that agree
are drawn alike (`dot_eq_of_agrees`), in whatever order they were built.
-/

namespace MessageFlow.Graph

variable {g h : Graph}

theorem WellFormed.ofGraph_of_agrees (hg : g.WellFormed) (ha : g.agrees h = true)
    (s : DiagramSettings) (highlight : Option String) :
    Diagram.ofGraph s g highlight = Diagram.ofGraph s h highlight := by
  have h1 := hg.perm_of_agrees ha
  -- an arrow shows nothing of a flow but its label
  have h2 : Diagram.arrow =
      (fun l : String × String × Message => (⟨l.1, l.2.1, l.2.2.short, l.2.2.comment⟩ : Arrow))
        ∘ Flow.label := rfl
  have h3 : g.sortedFlows.map Diagram.arrow = h.sortedFlows.map Diagram.arrow := by
    rw [h2, ← List.map_map, labels_of_agrees ha, List.map_map]
  rw [Diagram.ofGraph, Diagram.ofGraph, h3, hg.sortedVertices_of_perm h1]
  simp only [ModulePalette.ofGraph, modules_of_perm h1]

/-- **Drawings depend on content only.**  Graphs that agree, in whatever order their vertices and
edges were added, have the same drawing under all settings, whichever handler is highlighted. -/
theorem dot_eq_of_agrees (hg : g.WellFormed) (ha : (g == h) = true) (s : DiagramSettings)
    (highlight : Option String) : g.dot s highlight = h.dot s highlight := by
  rw [dot, dot, hg.ofGraph_of_agrees ha]

/-- a request and its answer, added in this order or in the other -/
def exchange (answerFirst : Bool) : Graph :=
  let a : Handler := ⟨"shop.a", "shop", some "asks", none⟩
  let b : Handler := ⟨"bank.b", "bank", none, some "payment"⟩
  let request : Flow := ⟨a, b, ⟨"pay", some "now"⟩⟩
  let answer : Flow := ⟨b, a, ⟨"paid", none⟩⟩
  (∅ : Graph).addFlows (if answerFirst then [answer, request] else [request, answer])

theorem dot_exchange :
    (exchange true).WellFormed ∧ (exchange true == exchange false) = true
    ∧ exchange true ≠ exchange false
    ∧ (exchange true).dot DiagramSettings.standard (some "bank.b") =
        (exchange false).dot DiagramSettings.standard (some "bank.b") := by
  have h1 : (exchange true).WellFormed := by decide
  have h2 : ∀ answerFirst, (exchange answerFirst).sortedFlows = (exchange true).flows := by
    intro answerFirst
    refine sortedFlows_eq ?_ (by decide)
    cases answerFirst <;> decide
  have h3 : (exchange true).sortedFlows.map Flow.label =
      (exchange false).sortedFlows.map Flow.label := by
    rw [h2, h2]
  have h4 : (exchange true == exchange false) = true :=
    agrees_iff.mpr ⟨by decide, by decide, by decide, h3⟩
  exact ⟨h1, h4, by decide, dot_eq_of_agrees h1 h4 _ _⟩

end MessageFlow.Graph
