import MessageFlow.Command.Execute
import MessageFlow.Proofs.Host.Session
import MessageFlow.Proofs.Manifest.Collect

/-!
# Programs that only look

A program that only looks finds the same whenever it is run on the same tree from the same working
directory without a mishap: that is what it `view`s there.  If it succeeds in spite of mishaps, then
it has found just that (`Looks`).

* `looks_ofSource`, `looks_load`, `looks_settingsLoad`   the analysis of a source, and the reading of
                                                        stored graphs and of settings.
-/

namespace MessageFlow

open Text (Bytes)

namespace Session

/-- a session in which nothing goes wrong and nothing was said yet -/
def calm (t : FileTree) (base : Place) : Session where
  tree := t
  base := base
  program _ _ _ := .error .notFound
  plan := []
  said := []
  warned := []
  complained := []

end Session

open Session

/-- what a program finds in a tree from a working directory if nothing goes wrong -/
def FileTree.view {α : Type} (t : FileTree) (base : Place) (x : StateM Session α) : α :=
  (x.run (calm t base)).1

variable {ε ε' α β : Type} {s : Session}

/-- a program that only looks -/
structure Looks (x : StateM Session (Except ε α)) : Prop where
  calm : ∀ s : Session, s.plan = [] → x.run s = (s.tree.view s.base x, s)
  ends : ∀ s : Session, Ends x s (fun a s' => s.tree.view s.base x = .ok a ∧ s.At (· = s.tree) s')
    (fun _ s' => s.At (· = s.tree) s')

theorem Looks.pure (r : Except ε α) : Looks (pure r : StateM Session (Except ε α)) where
  calm _ _ := rfl
  ends s := by
    cases r with
    | ok a => exact .pure_ok ⟨rfl, .refl rfl⟩
    | error e => exact .pure_error (.refl rfl)

theorem run_look_calm (failed : FileFault → ε) (f : FileTree → Place → Except ε α) (hs : s.plan = []) :
    (look failed f).run s = (f s.tree s.base, s) := by
  rw [run_look, hs]
  cases s
  cases hs
  rfl

theorem view_look (t : FileTree) (base : Place) (failed : FileFault → ε)
    (f : FileTree → Place → Except ε α) : t.view base (look failed f) = f t base :=
  congrArg Prod.fst (run_look_calm (s := calm t base) failed f rfl)

theorem looks_look (failed : FileFault → ε) (f : FileTree → Place → Except ε α) :
    Looks (look failed f) where
  calm s hs := by rw [run_look_calm failed f hs, view_look]
  ends s := by
    rw [view_look]
    exact look_ends

theorem Looks.view_bind {x : StateM Session (Except ε α)} (hx : Looks x)
    (f : Except ε α → StateM Session (Except ε' β)) (t : FileTree) (base : Place) :
    t.view base (x >>= f) = t.view base (f (t.view base x)) := by
  rw [FileTree.view, StateT.run_bind, hx.calm (Session.calm t base) rfl]
  rfl

/-- a program that looks on if it has found something, and else fails -/
theorem Looks.bind {x : StateM Session (Except ε α)} (hx : Looks x)
    {f : Except ε α → StateM Session (Except ε' β)} (hok : ∀ a, Looks (f (.ok a)))
    (herr : ∀ e, ∃ e', f (.error e) = Pure.pure (.error e')) : Looks (x >>= f) := by
  have hf : ∀ r, Looks (f r) := by
    intro r
    cases r with
    | ok a => exact hok a
    | error e =>
      obtain ⟨e', he⟩ := herr e
      rw [he]
      exact .pure _
  constructor
  · intro s hs
    rw [StateT.run_bind, hx.calm s hs, hx.view_bind]
    exact (hf _).calm s hs
  · intro s
    refine (hx.ends s).cases (fun a s' h => ?_) fun e s' h => ?_
    · refine ((hok a).ends s').mono (fun b s'' h' => ⟨?_, ?_⟩) fun _ s'' h' => ?_
      · rw [hx.view_bind, h.1, ← h.2.tree, ← h.2.base]
        exact h'.1
      · exact h.2.trans h'.2 fun _ h h' => h'.trans h
      · exact h.2.trans h' fun _ h h' => h'.trans h
    · obtain ⟨e', he⟩ := herr e
      rw [he]
      exact .pure_error h

theorem Looks.map {x : StateM Session (Except ε α)} (hx : Looks x) (g : Except ε α → Except ε' β)
    (hg : ∀ e, ∃ e', g (.error e) = .error e') : Looks (do Pure.pure (g (← x))) :=
  hx.bind (fun _ => .pure _) fun e => (hg e).imp fun _ h => by rw [h]

/-! ### what commands look at -/

theorem looks_read (path : String) : Looks (Host.read path : StateM Session _) := looks_look _ _

theorem view_read (t : FileTree) (base : Place) (path : String) :
    t.view base (Host.read path) = t.read base path := view_look t base id _

theorem looks_kind (path : String) : Looks (Host.kind path : StateM Session _) := looks_look _ _

theorem view_kind (t : FileTree) (base : Place) (path : String) :
    t.view base (Host.kind path) = t.kind base path := view_look t base id _

theorem looks_readFile (path : String) : Looks (Manifest.readFile path) := by
  refine (looks_read path).bind (fun bytes => ?_) fun e => ⟨_, rfl⟩
  dsimp only
  split <;> exact .pure _

/-- the manifest in a file, told by the bytes that are read -/
theorem view_readFile (t : FileTree) (base : Place) (path : String) :
    t.view base (Manifest.readFile path) = Manifest.ofContent path (t.read base path) := by
  rw [Manifest.readFile_eq_map]
  show Manifest.ofContent path (t.view base (Host.read path)) = _
  rw [view_read]

theorem looks_readAll (files : List FoundFile) (sofar : Manifest) :
    Looks (Manifest.readAll sofar files) := by
  induction files generalizing sofar with
  | nil => exact .pure _
  | cons f fs ih => exact (looks_readFile f.path).bind (fun manifest => ih _) fun e => ⟨e, rfl⟩

theorem looks_collect (suffix source : String) : Looks (Manifest.collect suffix source) := by
  refine (looks_kind source).bind (fun kind => ?_) fun e => ⟨_, rfl⟩
  cases kind with
  | file => exact looks_readFile source
  | directory =>
    refine (looks_look _ _).bind (fun files => ?_) fun e => ⟨_, rfl⟩
    dsimp only
    split
    · exact .pure _
    · exact looks_readAll _ _

theorem looks_ofSource (depth : Nat) (suffix source : String) :
    Looks (Analysis.ofSource depth suffix source) :=
  (looks_collect suffix source).map _ fun e => ⟨e, rfl⟩

theorem view_ofSource (t : FileTree) (base : Place) (depth : Nat) (suffix source : String) :
    t.view base (Analysis.ofSource depth suffix source)
      = (t.view base (Manifest.collect suffix source)).map (Analysis.ofManifest depth) := by
  rw [Analysis.ofSource, (looks_collect suffix source).view_bind]
  rfl

theorem looks_load (path : String) : Looks (Snapshot.load path) := by
  refine (looks_read path).bind (fun bytes => .pure _) fun e => ?_
  cases e <;> exact ⟨_, rfl⟩

/-- what is loaded, told by the bytes that are read -/
theorem view_load (t : FileTree) (base : Place) (path : String) :
    t.view base (Snapshot.load path) = match t.read base path with
      | .error .notFound => .error (.inputNotFound path)
      | .error fault => .error (.file fault)
      | .ok bytes => (Snapshot.decodeBounded bytes).mapError Fault.snapshot := by
  rw [Snapshot.load, (looks_read path).view_bind, view_read]
  cases t.read base path with
  | ok bytes => rfl
  | error fault => cases fault <;> rfl

/-- the settings in a file, told by the bytes that are read -/
theorem view_settingsLoad (t : FileTree) (base : Place) (path : String) :
    t.view base (Settings.load path) = match t.read base path with
      | .error fault => .error (.file fault)
      | .ok bytes => Settings.ofBytes bytes := by
  rw [Settings.load, (looks_read path).view_bind, view_read]
  cases t.read base path <;> rfl

theorem looks_settingsLoad (path : String) : Looks (Settings.load path) :=
  (looks_read path).bind (fun _ => .pure _) fun _ => ⟨_, rfl⟩

end MessageFlow
