import Mathlib.Data.List.Perm.Basic
import MessageFlow.FileTree.Walk
import MessageFlow.Proofs.Roster

/-!
# Walks in another order

A tree may hold the entries of its directories in any order, and a walk comes to them in that order.
If nothing stops it, it yields the same files in every order.

* `arrive`, `visit_succ`   what a walk does at one name;
* `names_apart_filesUnder`   the names of a file tell which one it is;
* `filesUnder_perm`   the files of a walk in another order.
-/

namespace MessageFlow.FileTree

/-! ### one name -/

/-- what a walk does when it comes to a name in a directory; `enter` is how it goes on in another
directory -/
def arrive (t : FileTree) (names : List String) (here : Visit) (around : List Visit)
    (enter : Place → Except WalkFault (List FoundFile)) (name : String) :
    Except WalkFault (List FoundFile) :=
  let path := Path.join here.path name
  match t.find? (here.place ++ [name]) with
  | some .directory => enter (here.place ++ [name])
  | some (.file _ _) => pure [⟨names ++ [name], path⟩]
  | some (.link _) =>
    match t.follow here.place name with
    | .error fault => .error (.failed path fault)
    | .ok place =>
      match t.find? place, (here :: around).find? (·.place = place) with
      | some .directory, some a => .error (.loop path a.path)
      | some .directory, none => enter place
      | some (.file _ _), _ => pure [⟨names ++ [name], path⟩]
      | _, _ => .error (.failed path .notFound)
  | none => pure []

theorem visit_succ (t : FileTree) (fuel : Nat) (names : List String) (here : Visit)
    (around : List Visit) : t.visit (fuel + 1) names here around =
      ((t.children here.place).mapM fun name => t.arrive names here around
        (fun place => t.visit fuel (names ++ [name]) ⟨place, Path.join here.path name⟩
          (here :: around)) name).map List.flatten := by
  rfl

/-- what holds of the files that two walks yield in each directory, and of single files, holds of what
they yield at a name -/
theorem arrive_of_enter {t : FileTree} {names : List String} {here : Visit} {around : List Visit}
    {enter enter' : Place → Except WalkFault (List FoundFile)} {name : String}
    {R : List FoundFile → List FoundFile → Prop} (hnil : R [] [])
    (hfile : R [⟨names ++ [name], Path.join here.path name⟩]
      [⟨names ++ [name], Path.join here.path name⟩])
    (henter : ∀ place fs, enter place = .ok fs → ∃ fs', enter' place = .ok fs' ∧ R fs' fs)
    {fs : List FoundFile} (h : t.arrive names here around enter name = .ok fs) :
    ∃ fs', t.arrive names here around enter' name = .ok fs' ∧ R fs' fs := by
  unfold arrive at h ⊢
  dsimp only at h ⊢
  split at h
  · exact henter _ _ h
  · cases h
    exact ⟨_, rfl, hfile⟩
  · split at h
    · cases h
    · split at h
      · cases h
      · exact henter _ _ h
      · cases h
        exact ⟨_, rfl, hfile⟩
      · cases h
  · cases h
    exact ⟨_, rfl, hnil⟩

/-! ### all names of a directory -/

/-- a walk through a directory comes to its end if it does so at every name -/
theorem map_flatten_mapM_eq_ok_iff {ε α β : Type} {f : α → Except ε (List β)} {l : List α}
    {ys : List β} : (l.mapM f).map List.flatten = .ok ys ↔
      (∀ x ∈ l, ∃ y, f x = .ok y) ∧ ys = l.flatMap fun x => (f x).toOption.getD [] := by
  induction l generalizing ys with
  | nil =>
    rw [List.mapM_nil]
    show Except.ok [] = Except.ok ys ↔ _
    simp [eq_comm]
  | cons x xs ih =>
    rw [List.mapM_cons, List.forall_mem_cons, List.flatMap_cons]
    cases hx : f x with
    | error e =>
      constructor
      · exact fun h => nomatch h
      · exact fun h => nomatch h.1.1
    | ok y =>
      cases hxs : xs.mapM f with
      | error e =>
        constructor
        · exact fun h => nomatch h
        · intro h
          have h1 := ih.mpr ⟨h.1.2, rfl⟩
          rw [hxs] at h1
          cases h1
      | ok zs =>
        have h1 : Except.ok zs.flatten = (xs.mapM f).map List.flatten := by
          rw [hxs]
          rfl
        obtain ⟨h2, h3⟩ := ih.mp h1.symm
        show Except.ok (y ++ zs.flatten) = Except.ok ys ↔ _
        rw [h3, Except.ok.injEq, eq_comm]
        exact ⟨fun h => ⟨⟨⟨y, rfl⟩, h2⟩, h⟩, fun h => h.2⟩

/-- the names of a file tell its path -/
theorem path_of_mem_visit {t : FileTree} {fuel : Nat} {names : List String} {here : Visit}
    {around : List Visit} {files : List FoundFile}
    (h : t.visit fuel names here around = .ok files) :
    ∀ f ∈ files, ∃ more, f.names = names ++ more ∧ f.path = more.foldl Path.join here.path := by
  induction fuel generalizing names here around files with
  | zero => cases h
  | succ fuel ih =>
    rw [visit_succ, map_flatten_mapM_eq_ok_iff] at h
    obtain ⟨hok, rfl⟩ := h
    intro f hf
    obtain ⟨name, hname, hf⟩ := List.mem_flatMap.mp hf
    obtain ⟨fs, hfs⟩ := hok name hname
    rw [hfs] at hf
    -- below a name, the names and the path both go on from that name
    obtain ⟨fs', hfs', h1⟩ := arrive_of_enter
      (R := fun fs _ => ∀ f ∈ fs, ∃ more, f.names = names ++ more
        ∧ f.path = more.foldl Path.join here.path)
      (fun _ h => nomatch h)
      (fun f hf => ⟨[name], by rw [List.mem_singleton.mp hf], by rw [List.mem_singleton.mp hf]; rfl⟩)
      (fun place fs h => ⟨fs, h, fun f hf => by
        obtain ⟨more, h1, h2⟩ := ih h f hf
        exact ⟨name :: more, by rw [h1, List.append_assoc]; rfl, h2⟩⟩) hfs
    rw [hfs] at hfs'
    cases hfs'
    exact h1 f hf

theorem names_apart_filesUnder {t : FileTree} {base : Place} {path : String}
    {files : List FoundFile} (h : t.filesUnder base path = .ok files) :
    ∀ f ∈ files, ∀ g ∈ files, f.names = g.names → f = g := by
  unfold filesUnder at h
  split at h
  · cases h
  · intro f hf g hg he
    obtain ⟨more, h1, h2⟩ := path_of_mem_visit h f hf
    obtain ⟨more', h3, h4⟩ := path_of_mem_visit h g hg
    rw [h1, h3] at he
    have h5 : more = more' := he
    cases f
    cases g
    simp only at h1 h2 h3 h4
    rw [h1, h2, h3, h4, h5]

/-! ### another order -/

/-- the same entries in another order, one at each place -/
structure Rearranged (t t' : FileTree) : Prop where
  perm : t'.entries.Perm t.entries
  places_nodup : (t.entries.map Prod.fst).Nodup

namespace Rearranged

variable {t t' : FileTree} (h : t.Rearranged t')
include h

theorem find?_eq (p : Place) : t'.find? p = t.find? p := by
  have h1 : t'.entries.find? (·.1 = p) = t.entries.find? (·.1 = p) := by
    have h2 : (t'.entries.map Prod.fst).Nodup := (h.perm.map Prod.fst).nodup_iff.mpr h.places_nodup
    apply Option.ext
    intro e
    rw [find?_eq_some_iff_mem h2, find?_eq_some_iff_mem h.places_nodup, h.perm.mem_iff]
  unfold find?
  rw [h1]

theorem go_eq (links : Nat) (here : Place) (names : List String) :
    t'.go links here names = t.go links here names := by
  -- on either tree, a step only asks `find?`
  fun_induction go t links here names <;> rw [go] <;> simp only [h.find?_eq, *, if_true, if_false]

theorem follow_eq (base : Place) (path : String) : t'.follow base path = t.follow base path := by
  unfold follow
  rw [h.go_eq]

theorem kind_eq (base : Place) (path : String) : t'.kind base path = t.kind base path := by
  unfold kind
  simp only [h.follow_eq, h.find?_eq]

theorem read_eq (base : Place) (path : String) : t'.read base path = t.read base path := by
  unfold read
  simp only [h.follow_eq, h.find?_eq]

theorem children_perm (p : Place) : (t'.children p).Perm (t.children p) := h.perm.filterMap _

theorem arrive_eq (names : List String) (here : Visit) (around : List Visit)
    (enter : Place → Except WalkFault (List FoundFile)) (name : String) :
    t'.arrive names here around enter name = t.arrive names here around enter name := by
  unfold arrive
  simp only [h.find?_eq, h.follow_eq]

theorem visit_perm {fuel : Nat} {names : List String} {here : Visit} {around : List Visit}
    {files : List FoundFile} (hf : t.visit fuel names here around = .ok files) :
    ∃ files', t'.visit fuel names here around = .ok files' ∧ files'.Perm files := by
  induction fuel generalizing names here around files with
  | zero => cases hf
  | succ fuel ih =>
    rw [visit_succ, map_flatten_mapM_eq_ok_iff] at hf
    obtain ⟨hok, rfl⟩ := hf
    have h1 : ∀ name ∈ t'.children here.place, ∃ fs fs',
        t.arrive names here around (fun place => t.visit fuel (names ++ [name])
          ⟨place, Path.join here.path name⟩ (here :: around)) name = .ok fs
        ∧ t'.arrive names here around (fun place => t'.visit fuel (names ++ [name])
          ⟨place, Path.join here.path name⟩ (here :: around)) name = .ok fs'
        ∧ fs'.Perm fs := by
      intro name hname
      obtain ⟨fs, hfs⟩ := hok name ((h.children_perm here.place).mem_iff.mp hname)
      obtain ⟨fs', hfs', hp⟩ := arrive_of_enter (R := List.Perm) (.refl _) (.refl _)
        (fun place fs h => ih h) hfs
      exact ⟨fs, fs', hfs, by rw [h.arrive_eq]; exact hfs', hp⟩
    simp only [visit_succ, map_flatten_mapM_eq_ok_iff]
    refine ⟨_, ⟨fun name hname => ?_, rfl⟩, ?_⟩
    · obtain ⟨_, fs', _, hfs', _⟩ := h1 name hname
      exact ⟨fs', hfs'⟩
    · apply (h.children_perm here.place).flatMap
      intro name hname
      obtain ⟨fs, fs', hfs, hfs', hp⟩ := h1 name hname
      rw [hfs, hfs']
      exact hp

theorem filesUnder_perm {base : Place} {path : String} {files : List FoundFile}
    (hf : t.filesUnder base path = .ok files) :
    ∃ files', t'.filesUnder base path = .ok files' ∧ files'.Perm files := by
  unfold filesUnder at hf ⊢
  rw [h.follow_eq, h.perm.length_eq]
  split at hf
  · cases hf
  · exact h.visit_perm hf

end Rearranged

end MessageFlow.FileTree
