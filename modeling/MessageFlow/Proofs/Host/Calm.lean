import MessageFlow.Diagram.Layout
import MessageFlow.Proofs.Host.Looking
import MessageFlow.Proofs.Snapshot.Store

/-!
# Programs that run calmly

In a session in which nothing goes wrong, what a program gives depends on the tree and the working
directory only.  `Gives x t base r t'` says that it gives `r` then and leaves the tree `t'`; programs
are evaluated with `Gives.bind`, one step after the other.

* `Looks.gives`       programs that look give what they view;
* `gives_change`      a step that changes the tree does what the tree allows;
* `gives_makeRoom_bare`, `gives_saveBytes_bare`   files in the working directory.
-/

namespace MessageFlow

open Text (Bytes)

namespace Session

variable {ε α β : Type} {t t' t'' : FileTree} {base : Place}

/-- a session in which nothing goes wrong, with that tree and that working directory -/
structure Like (s : Session) (t : FileTree) (base : Place) : Prop where
  tree : s.tree = t
  base : s.base = base
  plan : s.plan = []

/-- what a program gives in every such session, and the tree that it leaves there -/
def Gives (x : StateM Session α) (t : FileTree) (base : Place) (a : α) (t' : FileTree) : Prop :=
  ∀ s : Session, s.Like t base → ∃ s', x.run s = (a, s') ∧ s'.Like t' base

theorem Gives.pure (t : FileTree) (base : Place) (a : α) :
    Gives (Pure.pure a : StateM Session α) t base a t := fun s hs => ⟨s, rfl, hs⟩

theorem Gives.bind {x : StateM Session α} {f : α → StateM Session β} {a : α} {b : β}
    (hx : Gives x t base a t') (hf : Gives (f a) t' base b t'') : Gives (x >>= f) t base b t'' := by
  intro s hs
  obtain ⟨s', hx, hs'⟩ := hx s hs
  obtain ⟨s'', hf, hs''⟩ := hf s' hs'
  refine ⟨s'', ?_, hs''⟩
  rw [StateT.run_bind, hx]
  exact hf

theorem Gives.run {x : StateM Session α} {a : α} {s : Session} (hx : Gives x s.tree s.base a t')
    (hs : s.plan = []) : ∃ s', x.run s = (a, s') ∧ s'.Like t' s.base := hx s ⟨rfl, rfl, hs⟩

/-- a step that changes something does what the tree allows -/
theorem gives_change {partly : Nat → FileTree → Place → Except FileFault FileTree}
    {f : FileTree → Place → Except FileFault (α × FileTree)} {a : α} (h : f t base = .ok (a, t')) :
    Gives (change partly f) t base (.ok a) t' := by
  rintro s ⟨rfl, rfl, hs⟩
  refine ⟨{ s with plan := s.plan.tail, tree := t' }, ?_, rfl, rfl, by rw [hs]; rfl⟩
  rw [run_change, hs, h]
  rfl

theorem Gives.bind_ok {x : ExceptT ε (StateM Session) α} {f : α → ExceptT ε (StateM Session) β}
    {a : α} {r : Except ε β} (hx : Gives x.run t base (.ok a) t')
    (hf : Gives (f a).run t' base r t'') : Gives (x >>= f).run t base r t'' := by
  rw [ExceptT.run_bind]
  exact hx.bind hf

theorem Gives.bind_error {x : ExceptT ε (StateM Session) α} {f : α → ExceptT ε (StateM Session) β}
    {e : ε} (hx : Gives x.run t base (.error e) t') :
    Gives (x >>= f).run t base (.error e) t' := by
  rw [ExceptT.run_bind]
  exact hx.bind (.pure _ _ _)

end Session

open Session

theorem Looks.gives {ε α : Type} {x : StateM Session (Except ε α)} (hx : Looks x) (t : FileTree)
    (base : Place) : Gives x t base (t.view base x) t := by
  intro s hs
  have h1 := hx.calm s hs.plan
  rw [hs.tree, hs.base] at h1
  exact ⟨s, h1, hs⟩

/-! ### directories -/

namespace FileTree

variable {t t' : FileTree} {base : Place}

section
variable {name : String}

theorem Bare.makeDirectory (hn : Bare name) (hb : t.find? base = some .directory)
    (ha : t.find? (base ++ [name]) = none) :
    t.makeDirectory base name = .ok (t.set (base ++ [name]) .directory) := by
  rw [FileTree.makeDirectory, hn.tip hb]
  dsimp only [bind, Except.bind]
  rw [ha]
  rfl

theorem gives_makeRoom_bare (hn : Bare name) :
    Gives (Diagram.makeRoom name : StateM Session _) t base (.ok ()) t := by
  rw [Diagram.makeRoom, hn.parent]
  show Gives (Host.makeNested (Path.ancestors "")) _ _ _ _
  rw [Path.ancestors_nil]
  exact .pure _ _ _

end

end FileTree

end MessageFlow
