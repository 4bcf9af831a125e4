import Mathlib.Tactic.SplitIfs
import MessageFlow.Settings.Load

/-!
# Settings without problems

Settings that are read from a file have no problem, and no override gives them one, since it sets
nothing that could be a problem.
-/

namespace MessageFlow.Settings

variable {s : Settings}

/-- what settings without a problem are -/
theorem problem?_eq_none_iff : s.problem? = none ↔
    s.moduleDepth ≠ 0 ∧ s.diagram.palette ≠ [] ∧ s.manifestSuffix ≠ ""
      ∧ Text.blank s.layoutEngine = false := by
  rw [problem?]
  split_ifs with h1 h2 h3 h4 <;> simp_all

@[simp] theorem problem?_override (s : Settings) (o : Overrides) :
    (s.override o).problem? = s.problem? := rfl

theorem problem?_of_ofText {text : String} (h : ofText text = .ok s) : s.problem? = none := by
  rw [ofText] at h
  cases hr : readEntries text with
  | error fault => rw [hr] at h; cases h
  | ok s₁ =>
    rw [hr] at h
    dsimp only [bind, Except.bind] at h
    split at h
    · rename_i hp
      cases h
      exact hp
    · cases h

theorem problem?_of_ofBytes {bytes : Text.Bytes} (h : ofBytes bytes = .ok s) :
    s.problem? = none := by
  unfold ofBytes at h
  split at h
  · cases h
  · rename_i text _
    cases hr : ofText text with
    | error fault => rw [hr] at h; cases h
    | ok s₁ =>
      rw [hr] at h
      cases h
      exact problem?_of_ofText hr

end MessageFlow.Settings
