import MessageFlow.Name

/-!
# Segments of names

The segments of a name are what the dots split it into (`segments_eq_splitOn`), and a module key is
the first of them with the dots between them (`toList_moduleKey`).  No segment has a dot, so a module
key has these segments and no others (`segments_moduleKey`), and the shorter keys of a name can be
told from the longer ones (`moduleKey_moduleKey`).
-/

namespace MessageFlow.Name

theorem segments_eq_splitOn (cs : List Char) : segments cs = cs.splitOn '.' := by
  induction cs with
  | nil => rfl
  | cons c cs ih =>
    rw [segments, List.splitOn, List.splitOnP_cons_eq_if_modifyHead, ← List.splitOn, ← ih]
    by_cases hc : c = '.'
    · rw [if_pos hc, if_pos (by simpa using hc)]
    · rw [if_neg hc, if_neg (by simpa using hc)]
      cases h : segments cs with
      | nil => exact absurd h (segments_ne_nil cs)
      | cons s ss => rfl

theorem toList_moduleKey (depth : Nat) (name : String) :
    (moduleKey depth name).toList =
      List.intercalate ['.'] ((name.toList.splitOn '.').take (max depth 1)) := by
  rw [moduleKey, String.toList_ofList, segments_eq_splitOn]

theorem dot_notMem_of_mem_segments {cs s : List Char} (h : s ∈ segments cs) : '.' ∉ s := by
  induction cs generalizing s with
  | nil =>
    rw [segments, List.mem_singleton] at h
    rw [h]
    exact List.not_mem_nil
  | cons c cs ih =>
    by_cases hc : c = '.'
    · rw [hc, segments_dot, List.mem_cons] at h
      rcases h with rfl | h
      · exact List.not_mem_nil
      · exact ih h
    · rw [segments, if_neg hc] at h
      cases hs : segments cs with
      | nil => exact absurd hs (segments_ne_nil cs)
      | cons t ts =>
        rw [hs] at h ih
        rcases List.mem_cons.mp h with rfl | h
        · rw [List.mem_cons, not_or]
          exact ⟨Ne.symm hc, ih List.mem_cons_self⟩
        · exact ih (List.mem_cons_of_mem t h)

theorem segments_moduleKey (depth : Nat) (name : String) :
    segments (moduleKey depth name).toList = (segments name.toList).take (max depth 1) := by
  rw [moduleKey, String.toList_ofList, segments_eq_splitOn]
  apply List.splitOn_intercalate
  · intro s hs
    exact dot_notMem_of_mem_segments (List.mem_of_mem_take hs)
  · rw [ne_eq, List.take_eq_nil_iff, not_or]
    exact ⟨by omega, segments_ne_nil _⟩

/-- the module key of a module key is that of the smaller depth -/
theorem moduleKey_moduleKey (d e : Nat) (name : String) :
    moduleKey d (moduleKey e name) = moduleKey (min (max d 1) (max e 1)) name := by
  have h1 : max (min (max d 1) (max e 1)) 1 = min (max d 1) (max e 1) := by omega
  rw [moduleKey, segments_moduleKey, List.take_take, moduleKey, h1]

/-- a module key is told by any longer one of the same name -/
theorem moduleKey_moduleKey_of_le {d e : Nat} (h : d ≤ e) (name : String) :
    moduleKey d (moduleKey e name) = moduleKey d name := by
  have h1 : min (max d 1) (max e 1) = max d 1 := by omega
  have h2 : max (max d 1) 1 = max d 1 := by omega
  rw [moduleKey_moduleKey, h1, moduleKey, moduleKey, h2]

end MessageFlow.Name
