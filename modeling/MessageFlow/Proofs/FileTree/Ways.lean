import MessageFlow.FileTree.Change

/-!
# Ways through a file tree

`FileTree.Way` says where names lead, one name after the other, without the faults that may come up
on the way (`go_eq_ok_iff`).  A way goes through directories and links only, so it is still there in
every tree that has these (`Way.of_keepsWays`).

* `FileTree.Names`     a path names a place: its last name stands there, whether or not something is
                       at the place;
* `FileTree.Written`   where a file is written: behind the links at the last name;
* `FileTree.Bare`      a path that is a single name, which leads nowhere but to its own place.
-/

namespace MessageFlow

open Text (Bytes)

/-- directories and links, which ways go through -/
def Entry.IsWay : Entry → Prop
  | .file _ _ => False
  | _ => True

namespace Path

/-- without a slash there is one part -/
theorem split_of_notMem {cs : List Char} (h : '/' ∉ cs) : split cs = [cs] := by
  induction cs with
  | nil => rfl
  | cons c cs ih =>
    have hc : c ≠ '/' := fun he => h (he ▸ List.mem_cons_self)
    rw [split, if_neg hc, ih fun hm => h (List.mem_cons_of_mem c hm)]

theorem isAbsolute_eq_false {path : String} (h : path.toList.head? ≠ some '/') :
    isAbsolute path = false := by
  refine String.startsWith_string_eq_false_iff.mpr fun hp => h ?_
  obtain ⟨cs, hcs⟩ := hp
  rw [← hcs]
  rfl

theorem ancestors_nil : ancestors "" = [] := by
  rw [ancestors, isAbsolute_eq_false (by decide)]
  decide

theorem endsWith_eq_false {path : String} (h : path.toList.getLast? ≠ some '/') :
    path.endsWith "/" = false := by
  refine String.Slice.endsWith_string_eq_false_iff.mpr fun hp => h ?_
  rw [String.copy_toSlice] at hp
  obtain ⟨cs, hcs⟩ := hp
  rw [← hcs]
  exact List.getLast?_concat

end Path

namespace FileTree

theorem startOf_root (path : String) : startOf [] path = [] := ite_self _

/-! ### ways -/

/-- a name that is looked up as it is -/
structure Plain (name : String) : Prop where
  ne_dot : name ≠ "."
  ne_dots : name ≠ ".."
  short : ¬ nameLimit < name.utf8ByteSize

/-- where names lead from a place, and how many of the links that may be followed are left -/
inductive Way (t : FileTree) : Nat → Place → List String → Place → Nat → Prop
  | done {links : Nat} {here : Place} : Way t links here [] here links
  | dot {links left : Nat} {here p : Place} {names : List String}
      (hd : t.find? here = some .directory) (h : Way t links here names p left) :
      Way t links here ("." :: names) p left
  | up {links left : Nat} {here p : Place} {names : List String}
      (hd : t.find? here = some .directory) (h : Way t links here.dropLast names p left) :
      Way t links here (".." :: names) p left
  | link {links left : Nat} {here p : Place} {name target : String} {names : List String}
      (hd : t.find? here = some .directory) (hn : Plain name)
      (he : t.find? (here ++ [name]) = some (.link target))
      (h : Way t links (startOf here target) (steps target ++ names) p left) :
      Way t (links + 1) here (name :: names) p left
  | name {links left : Nat} {here p : Place} {name : String} {names : List String} {e : Entry}
      (hd : t.find? here = some .directory) (hn : Plain name)
      (he : t.find? (here ++ [name]) = some e) (hl : ∀ target, e ≠ .link target)
      (h : Way t links (here ++ [name]) names p left) :
      Way t links here (name :: names) p left

theorem go_eq_ok_iff {t : FileTree} {links left : Nat} {here p : Place} {names : List String} :
    t.go links here names = .ok (p, left) ↔ t.Way links here names p left := by
  constructor
  · intro h
    fun_induction go t links here names with
    | case1 => cases h; exact .done
    | case5 _ _ _ hd ih => exact .dot hd (ih h)
    | case6 _ _ _ hd _ ih => exact .up hd (ih h)
    | case10 _ _ _ hd h1 h2 h3 _ he _ ih => exact .link hd ⟨h1, h2, h3⟩ he (ih h)
    | case11 _ _ _ _ hd h1 h2 h3 _ hl he ih => exact .name hd ⟨h1, h2, h3⟩ he hl (ih h)
    | _ => cases h
  · intro h
    induction h with
    | done => rw [go]
    | dot hd _ ih => simp only [go, hd, if_true, ih]
    | up hd _ ih => simp only [go, hd, if_true, ih]; rfl
    | link hd hn he _ ih =>
      simp only [go, hd, he, if_neg hn.ne_dot, if_neg hn.ne_dots, if_neg hn.short, ih]
    | @name _ _ _ _ _ _ e hd hn he hl _ ih =>
      rw [go, hd]
      dsimp only
      rw [if_neg hn.ne_dot, if_neg hn.ne_dots, if_neg hn.short, he]
      cases e with
      | link target => exact absurd rfl (hl target)
      | _ => exact ih

theorem Way.append {t : FileTree} {links left left' : Nat} {here p q : Place}
    {names more : List String} (h : t.Way links here names p left) (h' : t.Way left p more q left') :
    t.Way links here (names ++ more) q left' := by
  induction h with
  | done => exact h'
  | dot hd _ ih => exact .dot hd (ih h')
  | up hd _ ih => exact .up hd (ih h')
  | link hd hn he _ ih =>
    have h1 := ih h'
    rw [List.append_assoc] at h1
    exact .link hd hn he h1
  | name hd hn he hl _ ih => exact .name hd hn he hl (ih h')

/-! ### ways that are kept -/

/-- the directories and links of a tree are in the other one too -/
def KeepsWays (t t' : FileTree) : Prop :=
  ∀ p e, t.find? p = some e → e.IsWay → t'.find? p = some e

/-- a directory or a file is at the place -/
def Holds (t : FileTree) (p : Place) : Prop :=
  ∃ e, t.find? p = some e ∧ ∀ target, e ≠ .link target

theorem Way.of_keepsWays {t t' : FileTree} (hk : t.KeepsWays t') {links left : Nat}
    {here p : Place} {names : List String} (hp : t'.Holds p) (h : t.Way links here names p left) :
    t'.Way links here names p left := by
  induction h with
  | done => exact .done
  | dot hd _ ih => exact .dot (hk _ _ hd trivial) (ih hp)
  | up hd _ ih => exact .up (hk _ _ hd trivial) (ih hp)
  | link hd hn he _ ih => exact .link (hk _ _ hd trivial) hn (hk _ _ he trivial) (ih hp)
  | @name links left here p name names e hd hn he hl h ih =>
    cases e with
    | directory => exact .name (hk _ _ hd trivial) hn (hk _ _ he trivial) hl (ih hp)
    | link target => exact absurd rfl (hl target)
    | file content executable =>
      -- nothing goes on behind a file, so this is the end of the way
      cases h with
      | done =>
        obtain ⟨e', he', hl'⟩ := hp
        exact .name (hk _ _ hd trivial) hn he' hl' .done
      | dot hd' _ => rw [he] at hd'; cases hd'
      | up hd' _ => rw [he] at hd'; cases hd'
      | link hd' _ _ _ => rw [he] at hd'; cases hd'
      | name hd' _ _ _ _ => rw [he] at hd'; cases hd'

theorem KeepsWays.trans {t t' t'' : FileTree} (h : t.KeepsWays t') (h' : t'.KeepsWays t'') :
    t.KeepsWays t'' := fun p e hp he => h' p e (h p e hp he) he

/-! ### what paths name -/

theorem approach_eq_named_iff {t : FileTree} {links left : Nat} {base d : Place}
    {path name : String} {slash : Bool} :
    t.approach links base path = .ok (.named d name slash, left) ↔
      pathFault? path = none ∧ slash = path.endsWith "/" ∧ Plain name ∧ t.find? d = some .directory
      ∧ ∃ names, trunk path = names ++ [name] ∧ t.Way links (startOf base path) names d left := by
  constructor
  · intro h
    unfold approach at h
    split at h
    · cases h
    · rename_i hf
      split at h
      · cases h
      · rename_i last hlast
        obtain ⟨names, hnames⟩ := List.getLast?_eq_some_iff.mp hlast
        split at h
        · split at h <;> cases h
        · rename_i hdots
          rw [hnames, List.dropLast_concat] at h
          split at h
          · cases h
          · rename_i hgo
            split at h
            · rename_i hd
              split at h
              · cases h
              · rename_i hshort
                cases h
                refine ⟨hf, rfl, ⟨fun h => hdots (.inl h), fun h => hdots (.inr h), hshort⟩, hd, names,
                  hnames, go_eq_ok_iff.mp hgo⟩
            · cases h
  · rintro ⟨hf, rfl, hn, hd, names, hnames, hw⟩
    have h1 : ¬ (name = "." ∨ name = "..") := fun h => h.elim hn.ne_dot hn.ne_dots
    rw [approach, hf, hnames]
    simp only [List.getLast?_concat, List.dropLast_concat, if_neg h1, go_eq_ok_iff.mpr hw, hd,
      if_neg hn.short]

theorem approach_of_keepsWays {t t' : FileTree} (hk : t.KeepsWays t') {links left : Nat}
    {base d : Place} {path name : String} {slash : Bool}
    (h : t.approach links base path = .ok (.named d name slash, left)) :
    t'.approach links base path = .ok (.named d name slash, left) := by
  obtain ⟨hf, hs, hn, hd, names, hnames, hw⟩ := approach_eq_named_iff.mp h
  have hd' := hk _ _ hd trivial
  have hp : t'.Holds d := ⟨_, hd', fun _ h => by cases h⟩
  exact approach_eq_named_iff.mpr ⟨hf, hs, hn, hd', names, hnames, hw.of_keepsWays hk hp⟩

/-- the path names the place: that is where its last name stands -/
def Names (t : FileTree) (base : Place) (path : String) (p : Place) : Prop :=
  ∃ d name slash, t.tip base path = .ok (.named d name slash) ∧ p = d ++ [name]

theorem tip_eq_ok_iff {t : FileTree} {base : Place} {path : String} {x : Tip} :
    t.tip base path = .ok x ↔ ∃ left, t.approach linkLimit base path = .ok (x, left) := by
  rw [tip]
  cases t.approach linkLimit base path with
  | error fault => simp [Except.map]
  | ok r => simp [Except.map, Prod.ext_iff]

theorem tip_of_keepsWays {t t' : FileTree} (hk : t.KeepsWays t') {base d : Place}
    {path name : String} {slash : Bool} (h : t.tip base path = .ok (.named d name slash)) :
    t'.tip base path = .ok (.named d name slash) := by
  obtain ⟨left, h⟩ := tip_eq_ok_iff.mp h
  exact tip_eq_ok_iff.mpr ⟨left, approach_of_keepsWays hk h⟩

theorem Names.of_keepsWays {t t' : FileTree} (hk : t.KeepsWays t') {base p : Place} {path : String}
    (h : t.Names base path p) : t'.Names base path p := by
  obtain ⟨d, name, slash, h, hp⟩ := h
  exact ⟨d, name, slash, tip_of_keepsWays hk h, hp⟩

/-! ### files that are written to -/

/-- where a file is written: at the place that a path names, or behind the links there -/
inductive Written (t : FileTree) : Nat → Place → String → Place → Prop
  | here {links left : Nat} {base d : Place} {path name : String}
      (h : t.approach links base path = .ok (.named d name false, left))
      (he : ∀ e, t.find? (d ++ [name]) = some e → ¬ e.IsWay) :
      Written t links base path (d ++ [name])
  | link {links left : Nat} {base d p : Place} {path name target : String}
      (h : t.approach links base path = .ok (.named d name false, left + 1))
      (he : t.find? (d ++ [name]) = some (.link target)) (hw : Written t left d target p) :
      Written t links base path p

/-- what writing to a path does where its last name stands -/
theorem writePlace_of_approach {t : FileTree} {links left : Nat} {base d : Place}
    {path name : String} (h : t.approach links base path = .ok (.named d name false, left)) :
    t.writePlace links base path = match t.find? (d ++ [name]), left with
      | some .directory, _ => .error .isADirectory
      | some (.link _), 0 => .error .tooManyLinks
      | some (.link target), left + 1 => t.writePlace left d target
      | _, _ => .ok (d ++ [name]) := by
  rw [writePlace]
  split
  · rename_i h1; rw [h] at h1; cases h1
  · rename_i h1; rw [h] at h1; cases h1
  · rename_i h1
    rw [h] at h1
    cases h1
    rw [if_neg Bool.false_ne_true]
    split <;> rename_i h2
    · rw [h2]
    · rw [h2]
      split <;> rfl
    · split <;> simp_all

theorem writePlace_eq_ok_iff {t : FileTree} {links : Nat} {base p : Place} {path : String} :
    t.writePlace links base path = .ok p ↔ t.Written links base path p := by
  constructor
  · intro h
    fun_induction writePlace t links base path with
    | case6 _ _ _ _ _ slash hs _ he _ _ h1 ih =>
      cases slash
      · exact .link h1 he (ih h)
      · exact absurd rfl hs
    | case7 _ _ _ d name slash _ h1 hs hd hl =>
      cases h
      cases slash
      · refine .here h1 fun e he hw => ?_
        cases e with
        | directory => exact hd he
        | link target => exact hl target he
        | file _ _ => exact hw
      · exact absurd rfl hs
    | _ => cases h
  · intro h
    induction h with
    | @here links left base d path name h he =>
      rw [writePlace_of_approach h]
      split <;> rename_i h1
      · exact absurd trivial (he _ h1)
      · exact absurd trivial (he _ h1)
      · exact absurd trivial (he _ h1)
      · rfl
    | link h he _ ih =>
      rw [writePlace_of_approach h, he]
      exact ih

theorem Written.of_keepsWays {t t' : FileTree} (hk : t.KeepsWays t') {links : Nat} {base p : Place}
    {path : String} (hp : ∀ e, t'.find? p = some e → ¬ e.IsWay) (h : t.Written links base path p) :
    t'.Written links base path p := by
  induction h with
  | here h _ => exact .here (approach_of_keepsWays hk h) hp
  | link h he _ ih => exact .link (approach_of_keepsWays hk h) (hk _ _ he trivial) (ih hp)

/-- nothing but a file can be where a file is written -/
theorem Written.not_isWay {t : FileTree} {links : Nat} {base p : Place} {path : String}
    (h : t.Written links base path p) {e : Entry} (he : t.find? p = some e) : ¬ e.IsWay := by
  induction h with
  | here _ h => exact h e he
  | link _ _ _ ih => exact ih he

theorem Written.ne_nil {t : FileTree} {links : Nat} {base p : Place} {path : String}
    (h : t.Written links base path p) : p ≠ [] := by
  induction h with
  | here => exact List.concat_ne_nil _ _
  | link _ _ _ ih => exact ih

/-- the way to a file goes on over its last name -/
theorem Way.of_approach {t : FileTree} {links left left' : Nat} {base d p : Place}
    {path name : String} (h : t.approach links base path = .ok (.named d name false, left))
    (h' : t.Way left d [name] p left') : t.Way links (startOf base path) (steps path) p left' := by
  obtain ⟨_, hs, _, _, names, hnames, hw⟩ := approach_eq_named_iff.mp h
  rw [trunk, ← hs, if_neg Bool.false_ne_true] at hnames
  rw [hnames]
  exact hw.append h'

theorem Written.way {t : FileTree} {links : Nat} {base p : Place} {path : String}
    (h : t.Written links base path p) (hp : t.Holds p) :
    ∃ left, t.Way links (startOf base path) (steps path) p left := by
  induction h with
  | @here links left base d path name h he =>
    obtain ⟨_, _, hn, hd, _⟩ := approach_eq_named_iff.mp h
    obtain ⟨e, he, hl⟩ := hp
    exact ⟨left, .of_approach h (.name hd hn he hl .done)⟩
  | @link links left base d p path name target h he _ ih =>
    obtain ⟨_, _, hn, hd, _⟩ := approach_eq_named_iff.mp h
    obtain ⟨left', hw⟩ := ih hp
    rw [← List.append_nil (steps target)] at hw
    exact ⟨left', .of_approach h (.link hd hn he hw)⟩

theorem follow_eq_ok_iff {t : FileTree} {base p : Place} {path : String} :
    t.follow base path = .ok p ↔
      pathFault? path = none ∧ ∃ left, t.Way linkLimit (startOf base path) (steps path) p left := by
  rw [follow]
  split
  · rename_i h
    simp [h]
  · rename_i h
    simp only [h, true_and, ← go_eq_ok_iff]
    cases t.go linkLimit (startOf base path) (steps path) with
    | error fault => simp [Except.map]
    | ok r => simp [Except.map, Prod.ext_iff]

theorem follow_of_keepsWays {t t' : FileTree} (hk : t.KeepsWays t') {base p : Place} {path : String}
    (hp : t'.Holds p) (h : t.follow base path = .ok p) : t'.follow base path = .ok p := by
  obtain ⟨hf, left, hw⟩ := follow_eq_ok_iff.mp h
  exact follow_eq_ok_iff.mpr ⟨hf, left, hw.of_keepsWays hk hp⟩

/-- a path leads to where its file is written -/
theorem Written.follow {t : FileTree} {base p : Place} {path : String}
    (h : t.Written linkLimit base path p) (hp : t.Holds p) : t.follow base path = .ok p := by
  have hf : pathFault? path = none := by
    cases h with
    | here h _ => exact (approach_eq_named_iff.mp h).1
    | link h _ _ => exact (approach_eq_named_iff.mp h).1
  exact follow_eq_ok_iff.mpr ⟨hf, h.way hp⟩

/-! ### files in the working directory -/

theorem pathFault?_eq_none {path : String} (h : '\x00' ∉ path.toList) (hp : path ≠ "")
    (hl : path.utf8ByteSize ≤ pathLimit) : pathFault? path = none := by
  rw [pathFault?, if_neg (by simpa using h), if_neg hp, if_neg (Nat.not_lt.mpr hl)]

/-- a path that is a single name -/
structure Bare (name : String) : Prop where
  steps : steps name = [name]
  parent : Path.parent? name = some ""
  relative : Path.isAbsolute name = false
  no_slash : name.endsWith "/" = false
  no_nul : '\x00' ∉ name.toList
  no_dots : name ≠ "" ∧ name ≠ "." ∧ name ≠ ".."
  short : name.utf8ByteSize ≤ nameLimit

/-- what has no slash in it is a single name -/
theorem Bare.of_chars {name : String} (h : '/' ∉ name.toList ∧ '\x00' ∉ name.toList
    ∧ (name ≠ "" ∧ name ≠ "." ∧ name ≠ "..") ∧ name.utf8ByteSize ≤ nameLimit) : Bare name := by
  obtain ⟨hs, hn, hd, hl⟩ := h
  have hsplit : (Path.split name.toList).map String.ofList = [name] := by
    rw [Path.split_of_notMem hs, List.map_singleton, String.ofList_toList]
  have hr : Path.isAbsolute name = false :=
    Path.isAbsolute_eq_false fun hh => hs (List.mem_of_head? hh)
  have he : name.endsWith "/" = false :=
    Path.endsWith_eq_false fun hl => hs (List.mem_of_getLast? hl)
  refine ⟨?_, ?_, hr, he, hn, hd, hl⟩
  · rw [FileTree.steps, hsplit]
    simp [hd.1]
  · have hnames : Path.names name = [name] := by
      rw [Path.names, hsplit]
      simp [hd.1]
    rw [Path.parent?, hnames, hr]
    rfl

theorem Bare.plain {name : String} (h : Bare name) : Plain name :=
  ⟨h.no_dots.2.1, h.no_dots.2.2, Nat.not_lt.mpr h.short⟩

theorem Bare.fault {name : String} (h : Bare name) : pathFault? name = none :=
  pathFault?_eq_none h.no_nul h.no_dots.1 (Nat.le_trans h.short (by decide))

theorem Bare.approach {t : FileTree} {links : Nat} {base : Place} {name : String} (h : Bare name)
    (hb : t.find? base = some .directory) :
    t.approach links base name = .ok (.named base name false, links) := by
  have hw : t.Way links (startOf base name) [] base links := by
    rw [startOf, h.relative]
    exact .done
  refine approach_eq_named_iff.mpr ⟨h.fault, h.no_slash.symm, h.plain, hb, [], ?_, hw⟩
  rw [trunk, h.no_slash]
  exact h.steps

theorem Bare.tip {t : FileTree} {base : Place} {name : String} (h : Bare name)
    (hb : t.find? base = some .directory) : t.tip base name = .ok (.named base name false) :=
  tip_eq_ok_iff.mpr ⟨_, h.approach hb⟩

theorem Bare.written {t : FileTree} {base : Place} {name : String} (h : Bare name)
    (hb : t.find? base = some .directory)
    (hp : ∀ e, t.find? (base ++ [name]) = some e → ¬ e.IsWay) :
    t.Written linkLimit base name (base ++ [name]) :=
  .here (h.approach hb) hp

theorem Bare.follow {t : FileTree} {base : Place} {name : String} (h : Bare name)
    (hb : t.find? base = some .directory) (hp : t.Holds (base ++ [name])) :
    t.follow base name = .ok (base ++ [name]) := by
  obtain ⟨e, he, hl⟩ := hp
  have hw : t.Way linkLimit (startOf base name) (FileTree.steps name) (base ++ [name]) linkLimit := by
    rw [startOf, h.relative, h.steps]
    exact .name hb h.plain he hl .done
  exact follow_eq_ok_iff.mpr ⟨h.fault, _, hw⟩

theorem Bare.join {directory : String} (h : Bare directory) (name : String) :
    Path.join directory name = directory ++ "/" ++ name := by
  have h1 : ¬ (directory = "" ∨ directory.endsWith "/" = true) := by
    rw [h.no_slash]
    simp [h.no_dots.1]
  rw [Path.join, if_neg h1]

/-- a link to a neighbour -/
theorem Bare.follow_link {t : FileTree} {base : Place} {name target : String} (h : Bare name)
    (hb : t.find? base = some .directory) (hl : t.find? (base ++ [name]) = some (.link target))
    (ht : Bare target) (hp : t.Holds (base ++ [target])) :
    t.follow base name = .ok (base ++ [target]) := by
  obtain ⟨e, he, hn⟩ := hp
  have hw : t.Way linkLimit (startOf base name) (FileTree.steps name) (base ++ [target]) 39 := by
    rw [startOf, h.relative, h.steps]
    refine .link hb h.plain hl ?_
    rw [startOf, ht.relative, ht.steps]
    exact .name hb ht.plain he hn .done
  exact follow_eq_ok_iff.mpr ⟨h.fault, _, hw⟩

theorem Bare.follow_error {t : FileTree} {base : Place} {name : String} (h : Bare name)
    (hb : t.find? base = some .directory) (hp : t.find? (base ++ [name]) = none) :
    t.follow base name = .error .notFound := by
  have hg : t.go linkLimit base [name] = .error .notFound := by
    rw [go, hb]
    dsimp only
    rw [if_neg h.plain.ne_dot, if_neg h.plain.ne_dots, if_neg h.plain.short, hp]
  rw [FileTree.follow, h.fault, startOf, h.relative, h.steps]
  show (t.go linkLimit base [name]).map (·.1) = _
  rw [hg]
  rfl

end FileTree

end MessageFlow
