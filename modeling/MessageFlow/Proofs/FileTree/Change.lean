import MessageFlow.Proofs.Except
import MessageFlow.Proofs.FileTree.Ways

/-!
# What changes to a file tree leave as it was

Every operation on a tree, said by what is found at each place afterwards.

* `Extends`             a tree has all that another one has, and besides only directories, made for
                        paths that are told;
* `makeDirectory_spec`, `stage_spec`, `move_spec`, `write_spec`   the operations;
* `Wrote.read`          what is written is read back.
-/

namespace MessageFlow.FileTree

open Text (Bytes)

/-! ### new directories -/

/-- a tree with more directories, each of them named by one of the paths -/
structure Extends (t t' : FileTree) (base : Place) (paths : List String) : Prop where
  kept : ∀ p e, t.find? p = some e → t'.find? p = some e
  made : ∀ p, t.find? p = none → t'.find? p ≠ none →
    t'.find? p = some .directory ∧ ∃ q ∈ paths, t'.Names base q p

theorem Extends.keepsWays {t t' : FileTree} {base : Place} {paths : List String}
    (h : t.Extends t' base paths) : t.KeepsWays t' := fun p e hp _ => h.kept p e hp

theorem Extends.refl (t : FileTree) (base : Place) (paths : List String) :
    t.Extends t base paths where
  kept _ _ h := h
  made _ h h' := absurd h h'

theorem Extends.trans {t t' t'' : FileTree} {base : Place} {paths : List String}
    (h : t.Extends t' base paths) (h' : t'.Extends t'' base paths) : t.Extends t'' base paths where
  kept p e hp := h'.kept p e (h.kept p e hp)
  made p hp hp' := by
    by_cases h1 : t'.find? p = none
    · exact h'.made p h1 hp'
    · obtain ⟨h2, q, hq, hn⟩ := h.made p hp h1
      exact ⟨h'.kept p _ h2, q, hq, hn.of_keepsWays h'.keepsWays⟩

theorem Extends.mono {t t' : FileTree} {base : Place} {paths more : List String}
    (h : t.Extends t' base paths) (hp : paths ⊆ more) : t.Extends t' base more where
  kept := h.kept
  made p h1 h2 := by
    obtain ⟨h3, q, hq, hn⟩ := h.made p h1 h2
    exact ⟨h3, q, hp hq, hn⟩

/-- only what is found in a tree counts -/
theorem Extends.of_find?_eq {t t' t'' : FileTree} {base : Place} {paths : List String}
    (h : t.Extends t' base paths) (hf : ∀ p, t''.find? p = t'.find? p) : t.Extends t'' base paths :=
  h.trans ⟨fun p _ hp => (hf p).trans hp, fun p hp hp' => absurd ((hf p).trans hp) hp'⟩

/-- what is found at a place that is no new directory was there before -/
theorem Extends.find?_eq {t t' : FileTree} {base : Place} {paths : List String}
    (h : t.Extends t' base paths) (p : Place) :
    t'.find? p = t.find? p ∨ t.find? p = none ∧ t'.find? p = some .directory := by
  cases h1 : t.find? p with
  | some e => exact .inl (h.kept p e h1)
  | none =>
    by_cases h2 : t'.find? p = none
    · exact .inl h2
    · exact .inr ⟨rfl, (h.made p h1 h2).1⟩

/-- a directory is made where a path names a place with nothing at it -/
theorem exists_of_makeDirectory {t t' : FileTree} {base : Place} {path : String}
    (h : t.makeDirectory base path = .ok t') :
    ∃ d name slash, t.tip base path = .ok (.named d name slash) ∧ t.find? (d ++ [name]) = none
      ∧ t' = t.set (d ++ [name]) .directory := by
  obtain ⟨tip, ht, h⟩ := exists_of_bind_eq_ok h
  cases tip with
  | special _ => cases h
  | named d name slash =>
    dsimp only at h
    split at h
    · cases h
    · next hn =>
      cases h
      exact ⟨d, name, slash, ht, hn, rfl⟩

theorem makeDirectory_spec {t t' : FileTree} {base : Place} {path : String}
    (h : t.makeDirectory base path = .ok t') : t.Extends t' base [path] := by
  obtain ⟨d, name, slash, ht, hn, rfl⟩ := exists_of_makeDirectory h
  have h1 (p : Place) : (t.set (d ++ [name]) .directory).find? p
      = if p = d ++ [name] then some .directory else t.find? p :=
    find?_set t (d ++ [name]) p .directory (List.concat_ne_nil name d)
  have hkept : ∀ p e, t.find? p = some e →
      (t.set (d ++ [name]) .directory).find? p = some e := by
    intro p e hp
    rw [h1, if_neg (fun hpd => by rw [hpd, hn] at hp; cases hp)]
    exact hp
  refine ⟨hkept, fun p hp hp' => ?_⟩
  rw [h1] at hp' ⊢
  split at hp'
  · next hpd =>
    have h2 : t.Names base path p := ⟨d, name, slash, ht, hpd⟩
    rw [if_pos hpd]
    exact ⟨rfl, path, List.mem_singleton_self _, h2.of_keepsWays fun p e hp _ => hkept p e hp⟩
  · exact absurd hp hp'

/-! ### changes at one place -/

/-- the trees agree at all other places -/
def AgreesOff (t t' : FileTree) (p : Place) : Prop := ∀ q, q ≠ p → t'.find? q = t.find? q

theorem AgreesOff.keepsWays {t t' : FileTree} {p : Place} (h : t.AgreesOff t' p)
    (hp : ∀ e, t.find? p = some e → ¬ e.IsWay) : t.KeepsWays t' := by
  intro q e hq he
  rw [h q fun hqp => hp e (hqp ▸ hq) he]
  exact hq

theorem agreesOff_put (t : FileTree) (p : Place) (content : Bytes) (hp : p ≠ []) :
    t.AgreesOff (t.put p content) p := fun _ hq => find?_put t p _ content hp hq

theorem find?_put_self (t : FileTree) (p : Place) (content : Bytes) (hp : p ≠ []) :
    ∃ executable, (t.put p content).find? p = some (.file content executable) := by
  unfold put
  split <;> exact ⟨_, by rw [find?_set _ _ _ _ hp, if_pos rfl]⟩

theorem holds_of_file {t : FileTree} {p : Place} {content : Bytes} {executable : Bool}
    (h : t.find? p = some (.file content executable)) : t.Holds p := ⟨_, h, fun _ h => by cases h⟩

theorem read_eq_ok_iff {t : FileTree} {base : Place} {path : String} {content : Bytes} :
    t.read base path = .ok content ↔
      ∃ p executable, t.follow base path = .ok p ∧ t.find? p = some (.file content executable) := by
  constructor
  · intro h
    obtain ⟨p, hp, h⟩ := exists_of_bind_eq_ok h
    split at h
    · cases h
    · next x hf =>
      cases h
      exact ⟨p, x, hp, hf⟩
    · cases h
  · rintro ⟨p, x, hp, hf⟩
    rw [read, hp, ok_bind, hf]
    rfl

theorem Bare.read {t : FileTree} {base : Place} {name : String} {content : Bytes} {executable : Bool}
    (h : Bare name) (hb : t.find? base = some .directory)
    (hp : t.find? (base ++ [name]) = some (.file content executable)) :
    t.read base name = .ok content :=
  read_eq_ok_iff.mpr ⟨_, _, h.follow hb (holds_of_file hp), hp⟩

theorem Bare.kind {t : FileTree} {base : Place} {name : String} {content : Bytes} {executable : Bool}
    (h : Bare name) (hb : t.find? base = some .directory)
    (hp : t.find? (base ++ [name]) = some (.file content executable)) :
    t.kind base name = .ok .file := by
  rw [FileTree.kind, h.follow hb (holds_of_file hp)]
  simp only [bind, Except.bind, hp]
  rfl

theorem Bare.read_error {t : FileTree} {base : Place} {name : String} (h : Bare name)
    (hb : t.find? base = some .directory) (hp : t.find? (base ++ [name]) = none) :
    t.read base name = .error .notFound := by
  rw [FileTree.read, h.follow_error hb hp]
  rfl

theorem write_spec {t t' : FileTree} {base : Place} {path : String} {content : Bytes}
    (h : t.write base path content = .ok t') :
    ∃ p, t.Written linkLimit base path p ∧ t' = t.put p content := by
  obtain ⟨p, hw, h⟩ := exists_of_bind_eq_ok h
  cases h
  exact ⟨p, writePlace_eq_ok_iff.mp hw, rfl⟩

theorem write_of_writePlace {t : FileTree} {base p : Place} {path : String} {content : Bytes}
    (h : t.writePlace linkLimit base path = .ok p) :
    t.write base path content = .ok (t.put p content) := by
  rw [write, h]
  rfl

/-- a content is in the file that is written by a path -/
def Wrote (t : FileTree) (base : Place) (path : String) (content : Bytes) : Prop :=
  ∃ p executable, t.Written linkLimit base path p ∧ t.find? p = some (.file content executable)

theorem wrote_of_write {t t' : FileTree} {base : Place} {path : String} {content : Bytes}
    (h : t.write base path content = .ok t') : t'.Wrote base path content := by
  obtain ⟨p, hw, rfl⟩ := write_spec h
  obtain ⟨x, hx⟩ := find?_put_self t p content hw.ne_nil
  have hk := (agreesOff_put t p content hw.ne_nil).keepsWays fun _ => hw.not_isWay
  exact ⟨p, x, hw.of_keepsWays hk fun e he hway => by rw [hx] at he; cases he; exact hway, hx⟩

/-- **What is written to a file is read back.** -/
theorem Wrote.read {t : FileTree} {base : Place} {path : String} {content : Bytes}
    (h : t.Wrote base path content) : t.read base path = .ok content := by
  obtain ⟨p, x, hw, hx⟩ := h
  exact read_eq_ok_iff.mpr ⟨p, x, hw.follow (holds_of_file hx), hx⟩

/-! ### staged files -/

theorem stage_spec {t t' : FileTree} {base p : Place} {path : String}
    (h : t.stage base path = .ok (p, t')) :
    p ≠ [] ∧ t.find? p = none
      ∧ ∀ q, t'.find? q = if q = p then some (.file [] false) else t.find? q := by
  obtain ⟨d, _, h⟩ := exists_of_bind_eq_ok h
  split at h
  · cases h
    exact ⟨List.concat_ne_nil _ _, find?_fresh t d, fun q =>
      find?_set _ _ _ _ (List.concat_ne_nil _ _)⟩
  · cases h

/-- moving a file puts it where the path names, and takes it away from where it was -/
theorem move_spec {t t' : FileTree} {source base : Place} {path : String} (hs : source ≠ [])
    (h : t.move source base path = .ok t') :
    ∃ d name e, t.tip base path = .ok (.named d name false)
      ∧ t.find? (d ++ [name]) ≠ some .directory ∧ t.find? source = some e
      ∧ ∀ q, t'.find? q =
        if q = d ++ [name] then some e else if q = source then none else t.find? q := by
  unfold move at h
  split at h
  · cases h
  obtain ⟨tip, ht, h⟩ := exists_of_bind_eq_ok h
  cases tip with
  | special _ => cases h
  | named d name slash =>
    cases slash with
    | true => cases h
    | false =>
      dsimp only at h
      rw [if_neg Bool.false_ne_true] at h
      split at h
      · cases h
      · cases h
      · next e he hd =>
        cases h
        refine ⟨d, name, e, ht, hd, he, fun q => ?_⟩
        rw [find?_set _ _ _ _ (List.concat_ne_nil _ _), find?_erase _ _ _ hs]

end MessageFlow.FileTree
