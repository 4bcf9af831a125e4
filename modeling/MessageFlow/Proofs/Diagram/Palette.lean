import MessageFlow.Diagram.Document
import MessageFlow.Proofs.Graph.Sorted

/-!
# The colours of modules

Bisection finds every text of an ascending list (`search?_eq_some_iff`), so every module of a graph
has the colour of its number (`color_ofGraph`), and the colour for everything else is never asked for.
-/

namespace MessageFlow

namespace ModulePalette

variable {keys : List String} {key : String} {i j first size : Nat}

/-- in an ascending list the greater text stands behind the smaller one -/
theorem lt_of_getElem_lt (h : keys.Pairwise (· < ·)) (hi : i < keys.length) (hj : j < keys.length)
    (hij : keys[i] < keys[j]) : i < j := by
  rcases Nat.lt_trichotomy i j with hlt | rfl | hgt
  · exact hlt
  · exact absurd hij (lt_irrefl _)
  · exact absurd (List.pairwise_iff_getElem.mp h j i hj hi hgt) hij.not_gt

/-- the position of the text stays in the range until it is alone there -/
theorem bisect_eq (h : keys.Pairwise (· < ·)) (hj : j < keys.length) (hfirst : first ≤ j)
    (hlast : j < first + size) (hsize : first + size ≤ keys.length) :
    bisect keys keys[j] first size = j := by
  fun_induction bisect keys keys[j] first size with
  | case1 first size hle => omega
  | case2 first size hlt half middle ih =>
    have hmiddle : middle < keys.length := by omega
    have hm : keys[middle]?.getD "" = keys[middle] := by
      rw [List.getElem?_eq_getElem hmiddle, Option.getD_some]
    rw [hm] at ih ⊢
    by_cases hkey : keys[j] < keys[middle]
    · have hjm : j < middle := lt_of_getElem_lt h hj hmiddle hkey
      rw [dif_pos hkey] at ih
      rw [if_pos hkey]
      exact ih hfirst (by omega) (by omega)
    · have hjm : middle ≤ j := by
        by_contra hlt
        exact hkey (List.pairwise_iff_getElem.mp h j middle hj hmiddle (Nat.not_le.mp hlt))
      rw [dif_neg hkey] at ih
      rw [if_neg hkey]
      exact ih hjm (by omega) (by omega)

/-- **Bisection finds what is there**, and at its position. -/
theorem search?_eq_some_iff (h : keys.Pairwise (· < ·)) :
    search? keys key = some i ↔ keys[i]? = some key := by
  constructor
  · intro hs
    rw [search?] at hs
    split at hs
    · rename_i hi
      rwa [← Option.some.inj hs]
    · cases hs
  · intro hi
    obtain ⟨hlt, rfl⟩ := List.getElem?_eq_some_iff.mp hi
    have hb : bisect keys keys[i] 0 keys.length = i :=
      bisect_eq h hlt (Nat.zero_le i) (by omega) (by omega)
    rw [search?, hb, if_pos hi]

/-- the colour of the module with a number, from a palette that has colours -/
theorem color_ofGraph {g : Graph} {colors : List String} (unknown : String) (hc : colors ≠ [])
    (hi : g.modules[i]? = some key) :
    colors[i % colors.length]? = some ((ofGraph g colors unknown).color key) := by
  have hlt : i % colors.length < colors.length := Nat.mod_lt _ (List.length_pos_iff.mpr hc)
  have hs : search? (ofGraph g colors unknown).modules key = some i :=
    (search?_eq_some_iff g.modules_ascending).mpr hi
  rw [color, hs]
  dsimp only
  rw [List.getElem?_eq_getElem hlt]
  exact congrArg some (by rw [ofGraph, List.getElem?_eq_getElem hlt, Option.getD_some])

end ModulePalette

end MessageFlow
