import MessageFlow.Diagram.Layout
import MessageFlow.Proofs.Host.Session

/-!
# What writing a diagram changes

A diagram is written by a session itself or by a layout engine.  However that ends, nothing is
changed but the output, and directories above it may be new (`Diagram.write_ends`).

* `FileTree.WritesOnly`      at most the file that a path is written to has changed;
* `FileTree.Drawn`           besides, there may be new directories;
* `Session.EnginesWriteOnly` what is expected of the programs that lay out an image.
-/

namespace MessageFlow

open Text (Bytes)

theorem Target.ofPath_eq_dot {path : String} (h : Path.extension? path = some "dot") :
    Target.ofPath path = .dot := by
  have h1 : "dot".map Char.toLower = "dot" := by
    apply String.ext
    rw [String.toList_map]
    decide
  rw [ofPath, h, ofExtension?, h1]
  rfl

namespace FileTree

/-- at most the file that is written by a path has changed, or was taken away -/
def WritesOnly (t t' : FileTree) (base : Place) (path : String) : Prop :=
  (∀ q, t'.find? q = t.find? q)
    ∨ ∃ p, t.Written linkLimit base path p ∧ t.AgreesOff t' p ∧ ∀ e, t'.find? p = some e → ¬ e.IsWay

theorem WritesOnly.keepsWays {t t' : FileTree} {base : Place} {path : String}
    (h : t.WritesOnly t' base path) : t.KeepsWays t' := by
  rcases h with h | ⟨p, hw, ha, _⟩
  · exact fun q e hq _ => (h q).trans hq
  · exact ha.keepsWays fun _ => hw.not_isWay

theorem WritesOnly.find?_eq {t t' : FileTree} {base : Place} {path : String}
    (h : t.WritesOnly t' base path) (q : Place) :
    t'.find? q = t.find? q ∨ t'.Written linkLimit base path q := by
  rcases h with h1 | ⟨p, hw, ha, hp⟩
  · exact .inl (h1 q)
  · by_cases hq : q = p
    · subst hq
      exact .inr (hw.of_keepsWays (ha.keepsWays fun _ => hw.not_isWay) hp)
    · exact .inl (ha q hq)

theorem writesOnly_of_write {t t' : FileTree} {base : Place} {path : String} {content : Bytes}
    (h : t.write base path content = .ok t') : t.WritesOnly t' base path := by
  obtain ⟨p, hw, rfl⟩ := write_spec h
  obtain ⟨x, hx⟩ := find?_put_self t p content hw.ne_nil
  refine .inr ⟨p, hw, agreesOff_put t p content hw.ne_nil, fun e he hway => ?_⟩
  rw [hx] at he
  cases he
  exact hway

/-- a tree after something was written by a path, or after less -/
structure Drawn (t t' : FileTree) (base : Place) (path : String) : Prop where
  ways : t.KeepsWays t'
  find?_eq : ∀ q, t'.find? q = t.find? q ∨ t.find? q = none ∧ t'.find? q = some .directory
    ∨ t'.Written linkLimit base path q

theorem Drawn.of_extends {t t' : FileTree} {base base' : Place} {path : String}
    {paths : List String} (h : t.Extends t' base paths) : t.Drawn t' base' path :=
  ⟨h.keepsWays, fun q => (h.find?_eq q).imp_right .inl⟩

/-- room is made, and then something is written -/
theorem Drawn.of_writesOnly {t t₁ t' : FileTree} {base base' : Place} {path : String}
    {paths : List String} (h : t.Extends t₁ base' paths) (h' : t₁.WritesOnly t' base path) :
    t.Drawn t' base path where
  ways := h.keepsWays.trans h'.keepsWays
  find?_eq q := by
    rcases h'.find?_eq q with h1 | h1
    · rw [h1]
      exact (h.find?_eq q).imp_right .inl
    · exact .inr (.inr h1)

end FileTree

namespace Session

variable {s : Session}

theorem write_ends {path : String} {bytes : Bytes} :
    Ends (Host.write path bytes) s
      (fun _ s' => s.At (fun t => s.tree.write s.base path bytes = .ok t) s')
      (fun _ s' => s.At (s.tree.WritesOnly · s.base path) s') := by
  refine change_ends.mono (fun _ _ h => h.mono fun t ht => ?_) fun _ _ h => h.mono fun t ht => ?_
  · obtain ⟨_, h1, h2⟩ := exists_of_bind_eq_ok ht
    cases h2
    exact h1
  · rcases ht with rfl | ⟨n, ht⟩
    · exact .inl fun _ => rfl
    · exact FileTree.writesOnly_of_write ht

/-- a program does what it does with all of its input or with less, unless it is not started -/
theorem run_ends {name : String} {arguments : List String} {input : Bytes} {P : FileTree → Prop}
    (hsame : P s.tree) (hrun : ∀ p taken, s.program s.tree s.base name = .ok p →
      P (p name arguments taken s.tree s.base).tree) :
    Ends (Host.run name arguments input) s (fun _ s' => s.At P s') (fun _ s' => s.At P s') := by
  have hplan : s.At P { s with plan := s.plan.tail } := .of_next hsame
  have hdone : ∀ p taken, s.program s.tree s.base name = .ok p →
      s.At P { s with plan := s.plan.tail, tree := (p name arguments taken s.tree s.base).tree } :=
    fun p taken hp => .of_next (hrun p taken hp)
  refine Ends.of_snd (x := Session.run name arguments input) ?_
  unfold Session.run next
  simp only [StateT.run_bind, StateT.run_get, pure_bind, StateT.run_set, StateT.run_pure]
  -- either the program is not started, or it has done its part
  repeat' split
  all_goals first | exact hplan | exact hdone _ _ ‹_›

/-- the programs of the session change nothing but the image that they are asked for -/
def EnginesWriteOnly (s : Session) (output : String) : Prop :=
  ∀ format, Target.ofPath output = .image format → ∀ t name p, s.program t s.base name = .ok p →
    ∀ input, t.WritesOnly (p name (Diagram.engineArguments format output) input t s.base).tree
      s.base output

theorem enginesWriteOnly_of_dot {output : String} (h : Target.ofPath output = .dot) :
    s.EnginesWriteOnly output := by
  intro format hformat
  rw [h] at hformat
  cases hformat

end Session

namespace Diagram

open Session

variable {s : Session}

theorem makeRoom_ends (path : String) :
    Ends (makeRoom path) s (fun _ s' => ∃ paths, s.Grown paths s')
      (fun _ s' => ∃ paths, s.Grown paths s') := by
  unfold makeRoom
  split
  · exact (makeDirectories_ends _).mono (fun _ _ h => ⟨_, h⟩) fun _ _ h => ⟨_, h⟩
  · exact .pure_ok ⟨[], .refl s _⟩

/-- **Writing a diagram changes nothing but the output**, however it ends, and makes directories.
Where it succeeds and no image is asked for, the text is in the output. -/
theorem write_ends {engine dot output : String} (hs : s.EnginesWriteOnly output) :
    Ends (write engine dot output) s
      (fun _ s' => s.At (s.tree.Drawn · s.base output) s'
        ∧ (Target.ofPath output = .dot → s'.tree.Wrote s.base output (Text.utf8 dot)))
      (fun _ s' => s.At (s.tree.Drawn · s.base output) s') := by
  refine (makeRoom_ends output).cases (fun _ s₁ h1 => ?_) fun _ s₁ h1 => ?_
  · obtain ⟨paths, h1⟩ := h1
    have hdrawn : ∀ {s' : Session}, s₁.At (s₁.tree.WritesOnly · s₁.base output) s' →
        s.At (s.tree.Drawn · s.base output) s' :=
      fun h => At.trans h1 h fun _ ht ht' => .of_writesOnly ht (h1.base ▸ ht')
    have hs₁ : s₁.EnginesWriteOnly output := by
      obtain ⟨_, _, rfl, _⟩ := h1
      exact hs
    dsimp only
    split <;> rename_i htarget
    · refine Session.write_ends.cases (fun _ s₂ h2 => .pure_ok ⟨?_, fun _ => ?_⟩)
        fun _ _ h => .pure_error (hdrawn h)
      · exact hdrawn (h2.mono fun _ => FileTree.writesOnly_of_write)
      · rw [← h1.base]
        exact FileTree.wrote_of_write h2.tree
    · rename_i format
      have hrun : Ends (layOut engine dot format output) s₁
          (fun _ s' => s.At (s.tree.Drawn · s.base output) s')
          (fun _ s' => s.At (s.tree.Drawn · s.base output) s') := by
        refine (run_ends (.inl fun _ => rfl) fun p taken hp => hs₁ format htarget _ _ p hp taken).cases
          (fun ending _ h => ?_) fun _ _ h => .pure_error (hdrawn h)
        dsimp only
        split
        · exact .pure_ok (hdrawn h)
        · exact .pure_error (hdrawn h)
      refine hrun.cases (fun _ _ h => .pure_ok ⟨h, fun h' => ?_⟩) fun _ _ h => .pure_error h
      rw [htarget] at h'
      cases h'
  · obtain ⟨paths, h1⟩ := h1
    exact .pure_error (h1.mono fun _ => .of_extends)

end Diagram

end MessageFlow
