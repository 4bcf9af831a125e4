import MessageFlow.Proofs.Host.Session
import MessageFlow.Snapshot.Store

/-!
# Stored graphs are all there or not at all

`save_all_or_nothing`: whatever goes wrong while a graph is stored, all that was there before is
there still, and nothing is new but directories that the path needs; if nothing does, the file at the
path is the snapshot, and all else is as before.

A staged file that is published takes the place that its path names (`Saved`).  A link there is
replaced, not followed.
-/

namespace MessageFlow

open Text (Bytes)

namespace FileTree

theorem find?_put_of_file {t : FileTree} {p : Place} {content content' : Bytes} {executable : Bool}
    (hp : p ≠ []) (h : t.find? p = some (.file content executable)) :
    (t.put p content').find? p = some (.file content' executable) := by
  unfold put
  rw [h]
  dsimp only
  rw [find?_set _ _ _ _ hp, if_pos rfl]

/-- a tree in which a file was put at the place that a path names, over what was there before, after
directories were made -/
structure Saved (t t' : FileTree) (base : Place) (path : String) (content : Bytes) (p : Place) :
    Prop where
  /-- the tree before the file was put there -/
  before : ∃ t₁ d name, t.Extends t₁ base (Path.ancestors (Snapshot.directoryOf path))
    ∧ t₁.tip base path = .ok (.named d name false) ∧ p = d ++ [name]
    ∧ t₁.find? p ≠ some .directory ∧ t₁.AgreesOff t' p
  content : t'.find? p = some (.file content false)

theorem Saved.find?_eq {t t' : FileTree} {base p : Place} {path : String} {content : Bytes}
    (h : t.Saved t' base path content p) (q : Place) (hq : q ≠ p) :
    t'.find? q = t.find? q ∨ t.find? q = none ∧ t'.find? q = some .directory := by
  obtain ⟨t₁, d, name, hext, _, _, _, ha⟩ := h.before
  rw [ha q hq]
  exact hext.find?_eq q

theorem Saved.directory {t t' : FileTree} {base p : Place} {path : String} {content : Bytes}
    (h : t.Saved t' base path content p) {q : Place} (hq : t.find? q = some .directory) :
    t'.find? q = some .directory := by
  have hp : q ≠ p := by
    rintro rfl
    obtain ⟨_, _, _, hext, _, _, hd, _⟩ := h.before
    exact hd (hext.kept q _ hq)
  rcases h.find?_eq q hp with h1 | ⟨h1, _⟩
  · exact h1.trans hq
  · rw [hq] at h1
    cases h1

/-- the path still names the place, if no link was there that the way to it may lead over -/
theorem Saved.names {t t' : FileTree} {base p : Place} {path : String} {content : Bytes}
    (h : t.Saved t' base path content p) (hl : ∀ target, t.find? p ≠ some (.link target)) :
    t'.Names base path p := by
  obtain ⟨t₁, d, name, hext, htip, hp, hd, ha⟩ := h.before
  have hk : t₁.KeepsWays t' := by
    refine ha.keepsWays fun e he hway => ?_
    cases e with
    | directory => exact hd he
    | file _ _ => exact hway
    | link target =>
      rcases hext.find?_eq p with h1 | h1
      · exact hl target (h1.symm.trans he)
      · rw [h1.2] at he
        cases he
  exact Names.of_keepsWays hk ⟨d, name, false, htip, hp⟩

/-- the path leads to the file in every tree in which it names its place -/
theorem Saved.follow {t t' t'' : FileTree} {base p : Place} {path : String} {content content' : Bytes}
    {executable : Bool} (h : t.Saved t' base path content p) (hn : t''.Names base path p)
    (hp : t''.find? p = some (.file content' executable)) : t''.follow base path = .ok p := by
  obtain ⟨t₁, _, _, _, htip, _⟩ := h.before
  obtain ⟨_, htip⟩ := tip_eq_ok_iff.mp htip
  obtain ⟨_, hs, _⟩ := approach_eq_named_iff.mp htip
  obtain ⟨d, name, slash, ht, rfl⟩ := hn
  obtain ⟨left, ht⟩ := tip_eq_ok_iff.mp ht
  obtain ⟨_, hs', _⟩ := approach_eq_named_iff.mp ht
  rw [hs', ← hs] at ht
  have hw : t''.Written linkLimit base path (d ++ [name]) :=
    .here ht fun e he hway => by rw [hp] at he; cases he; exact hway
  exact hw.follow (holds_of_file hp)

end FileTree

namespace Snapshot

open Session

variable {s : Session}

/-- a file that is not yet published -/
structure Staged (t t' : FileTree) (p : Place) (content : Bytes) : Prop where
  ne_nil : p ≠ []
  absent : t.find? p = none
  content : t'.find? p = some (.file content false)
  agrees : t.AgreesOff t' p

theorem stage_ends {directory : String} :
    Ends (Host.stage directory) s (fun p s' => s.At (Staged s.tree · p []) s')
      (fun _ s' => s.At (· = s.tree) s') := by
  refine changeWholly_ends.mono (fun p _ h => h.mono fun t ht => ?_) fun _ _ h => h
  obtain ⟨hp, ha, hf⟩ := FileTree.stage_spec ht
  exact ⟨hp, ha, by rw [hf, if_pos rfl], fun q hq => by rw [hf, if_neg hq]⟩

theorem fill_ends {p : Place} {bytes : Bytes} (hp : p ≠ []) :
    Ends (Host.fill (m := StateM Session) p bytes) s (fun _ s' => s.At (· = s.tree.put p bytes) s')
      (fun _ s' => s.At (s.tree.AgreesOff · p) s') := by
  refine change_ends.mono (fun _ _ h => h.mono fun t ht => ?_) fun _ _ h => h.mono fun t ht => ?_
  · cases ht
    rfl
  · rcases ht with rfl | ⟨n, ht⟩
    · exact fun _ _ => rfl
    · cases ht
      exact FileTree.agreesOff_put _ _ _ hp

theorem publish_ends {p : Place} {path : String} :
    Ends (Host.publish (m := StateM Session) p path) s
      (fun _ s' => s.At (fun t => s.tree.move p s.base path = .ok t) s')
      (fun _ s' => s.At (· = s.tree) s') := by
  refine changeWholly_ends.mono (fun _ _ h => h.mono fun t ht => ?_) fun _ _ h => h
  obtain ⟨_, h1, h2⟩ := exists_of_bind_eq_ok ht
  cases h2
  exact h1

/-- the staged file is at its path, and gone from where it was staged -/
theorem Staged.move {t t₂ t' : FileTree} {base p : Place} {bytes : Bytes} {path : String}
    (h : Staged t t₂ p bytes) (hm : t₂.move p base path = .ok t') :
    ∃ d name, t.tip base path = .ok (.named d name false) ∧ t.find? (d ++ [name]) ≠ some .directory
      ∧ t'.find? (d ++ [name]) = some (.file bytes false) ∧ t.AgreesOff t' (d ++ [name]) := by
  obtain ⟨d, name, e, ht, hd, he, hf⟩ := FileTree.move_spec h.ne_nil hm
  -- the staged file is on no way
  have hk : t₂.KeepsWays t := by
    intro q e hq hway
    by_cases hqp : q = p
    · rw [hqp, h.content] at hq
      cases hq
      exact hway.elim
    · rw [← h.agrees q hqp]
      exact hq
  refine ⟨d, name, FileTree.tip_of_keepsWays hk ht, fun hdir => ?_, ?_, fun q hq => ?_⟩
  · by_cases hqp : d ++ [name] = p
    · rw [hqp, h.absent] at hdir
      cases hdir
    · exact hd ((h.agrees _ hqp).trans hdir)
  · rw [h.content] at he
    cases he
    rw [hf, if_pos rfl]
  · rw [hf, if_neg hq]
    split
    · rename_i hqp
      rw [hqp, h.absent]
    · rename_i hqp
      exact h.agrees q hqp

/-- a staged file is filled and published, or the tree is as it was but for that file -/
theorem complete_ends {t : FileTree} {p : Place} {bytes : Bytes} {path : String}
    (h : Staged t s.tree p []) :
    Ends (complete (m := StateM Session) p bytes path) s
      (fun _ s' => s.At (fun t' => ∃ d name, t.tip s.base path = .ok (.named d name false)
        ∧ t.find? (d ++ [name]) ≠ some .directory
        ∧ t'.find? (d ++ [name]) = some (.file bytes false) ∧ t.AgreesOff t' (d ++ [name])) s')
      (fun _ s' => s.At (t.AgreesOff · p) s') := by
  have hoff : ∀ {t' : FileTree}, s.tree.AgreesOff t' p → t.AgreesOff t' p :=
    fun h' q hq => (h' q hq).trans (h.agrees q hq)
  refine (fill_ends h.ne_nil).cases (fun _ s₁ h1 => ?_)
    fun _ s₁ h1 => .pure_error (h1.mono fun _ => hoff)
  have hfilled : ∀ {s' : Session}, s.At (· = s.tree.put p bytes) s' → s.At (t.AgreesOff · p) s' :=
    fun h' => h'.mono fun _ ht => ht ▸ hoff (FileTree.agreesOff_put _ _ _ h.ne_nil)
  refine look_ends.cases (fun _ s₂ h2 => ?_)
    fun _ s₂ h2 => .pure_error (hfilled (h1.trans h2 fun _ h h' => h'.trans h))
  have h2 := At.trans h1 h2.2 (R := (· = s.tree.put p bytes)) fun _ h h' => h'.trans h
  refine look_ends.cases (fun _ s₃ h3 => ?_)
    fun _ s₃ h3 => .pure_error (hfilled (h2.trans h3 fun _ h h' => h'.trans h))
  have h3 := At.trans h2 h3.2 (R := (· = s.tree.put p bytes)) fun _ h h' => h'.trans h
  refine publish_ends.mono (fun _ s₄ h4 => ?_)
    fun _ s₄ h4 => hfilled (h3.trans h4 fun _ h h' => h'.trans h)
  have hs : Staged t (s.tree.put p bytes) p bytes :=
    ⟨h.ne_nil, h.absent, FileTree.find?_put_of_file h.ne_nil h.content,
      hoff (FileTree.agreesOff_put _ _ _ h.ne_nil)⟩
  refine h3.trans h4 fun t' ht hm => ?_
  rw [ht, h3.base] at hm
  exact hs.move hm

theorem saveBytes_ends (bytes : Bytes) (path : String) :
    Ends (saveBytes bytes path) s
      (fun _ s' => s.At (fun t => ∃ p, s.tree.Saved t s.base path bytes p) s')
      (fun _ => s.Grown (Path.ancestors (directoryOf path))) := by
  refine (makeDirectories_ends _).cases (fun _ s₁ h1 => ?_) fun _ s₁ h1 => .pure_error h1
  refine stage_ends.cases (fun p s₂ h2 => ?_) fun _ s₂ h2 => .pure_error (h1.trans (.of_same h2))
  have h12 := At.trans h1 h2 (R := fun _ => True) fun _ _ _ => trivial
  refine (complete_ends h2.tree).cases (fun _ s₃ h3 => ?_) fun fault s₃ h3 => ?_
  · refine .pure_ok (h12.trans h3 fun t _ ht => ?_)
    obtain ⟨d, name, htip, hd, hc, ha⟩ := ht
    rw [h12.base] at htip
    exact ⟨d ++ [name], ⟨s₁.tree, d, name, h1.tree, htip, rfl, hd, ha⟩, hc⟩
  · -- with the staged file taken away, the tree is as it was before
    obtain ⟨t, plan, rfl, ha⟩ := h12.trans h3 (R := (s₁.tree.AgreesOff · p)) fun _ _ h => h
    refine ⟨_, _, rfl, h1.tree.of_find?_eq fun q => ?_⟩
    rw [FileTree.find?_erase _ _ _ h2.tree.ne_nil]
    split
    · rename_i hq
      rw [hq, h2.tree.absent]
    · rename_i hq
      exact ha q hq

theorem save_ends (g : Graph) (path : String) :
    Ends (save g path) s
      (fun _ s' => s.At (fun t => ∃ p, s.tree.Saved t s.base path (encode g) p) s')
      (fun _ => s.Grown (Path.ancestors (directoryOf path))) :=
  (saveBytes_ends (encode g) path).cases (fun _ _ h => .pure_ok h) fun _ _ h => .pure_error h

end Snapshot

end MessageFlow
