import MessageFlow.Diagram.Layout
import MessageFlow.Proofs.Host.Session

/-!
# Programs that do not see warnings

What was logged before makes no difference to a program that logs nothing itself
(`IgnoresWarnings`): every step of a session does the same to the files, and so does the writing of a
diagram.
-/

namespace MessageFlow.Session

variable {ε α β : Type}

/-- a program that neither logs warnings nor looks at those that were logged -/
def IgnoresWarnings (x : StateM Session α) : Prop :=
  ∀ (s : Session) (warned : List String),
    x.run { s with warned := warned } = ((x.run s).1, { (x.run s).2 with warned := warned })

theorem IgnoresWarnings.pure (a : α) : IgnoresWarnings (Pure.pure a) := fun _ _ => rfl

theorem IgnoresWarnings.bind {x : StateM Session α} (hx : IgnoresWarnings x)
    {f : α → StateM Session β} (hf : ∀ a, IgnoresWarnings (f a)) : IgnoresWarnings (x >>= f) := by
  intro s warned
  rw [StateT.run_bind, hx s warned, StateT.run_bind]
  exact hf _ _ warned

theorem IgnoresWarnings.bind_ok {x : ExceptT ε (StateM Session) α} (hx : IgnoresWarnings x.run)
    {f : α → ExceptT ε (StateM Session) β} (hf : ∀ a, IgnoresWarnings (f a).run) :
    IgnoresWarnings (x >>= f).run := by
  rw [ExceptT.run_bind]
  refine hx.bind fun r => ?_
  cases r with
  | ok a => exact hf a
  | error e => exact .pure _

/-! ### the steps -/

theorem ignoresWarnings_look (failed : FileFault → ε) (f : FileTree → Place → Except ε α) :
    IgnoresWarnings (look failed f) := by
  intro s warned
  rw [run_look, run_look]

theorem ignoresWarnings_change (partly : Nat → FileTree → Place → Except FileFault FileTree)
    (f : FileTree → Place → Except FileFault (α × FileTree)) : IgnoresWarnings (change partly f) := by
  intro s warned
  rw [run_change, run_change]
  dsimp only
  repeat' split
  all_goals rfl

theorem ignoresWarnings_run (name : String) (arguments : List String) (input : Text.Bytes) :
    IgnoresWarnings (Session.run name arguments input) := by
  intro s warned
  unfold Session.run next
  simp only [StateT.run_bind, StateT.run_get, pure_bind, StateT.run_set, StateT.run_pure]
  repeat' split
  all_goals rfl

/-! ### directories and diagrams -/

theorem ignoresWarnings_orThere (path : String) (r : Except FileFault Unit) :
    IgnoresWarnings (Host.orThere path r) := by
  cases r with
  | ok _ => exact .pure _
  | error fault =>
    refine .bind (ignoresWarnings_look _ _) fun r => ?_
    split <;> exact .pure _

theorem ignoresWarnings_makeDirectory (path : String) :
    IgnoresWarnings (Host.makeDirectory path : StateM Session _) := by
  show IgnoresWarnings (changeWholly fun t base => do pure ((), ← t.makeDirectory base path))
  exact ignoresWarnings_change _ _

theorem ignoresWarnings_makeNested (paths : List String) :
    IgnoresWarnings (Host.makeNested paths) := by
  induction paths with
  | nil => exact .pure _
  | cons path above ih =>
    rw [Host.makeNested]
    refine .bind (ignoresWarnings_makeDirectory path) fun r => ?_
    split
    · refine .bind ih fun r => ?_
      split
      · exact .pure _
      · exact .bind (ignoresWarnings_makeDirectory path) (ignoresWarnings_orThere path)
    · exact ignoresWarnings_orThere path _

theorem ignoresWarnings_makeRoom (path : String) : IgnoresWarnings (Diagram.makeRoom path) := by
  unfold Diagram.makeRoom
  split
  · exact ignoresWarnings_makeNested _
  · exact .pure _

theorem ignoresWarnings_write (engine dot output : String) :
    IgnoresWarnings (Diagram.write engine dot output) := by
  refine .bind (ignoresWarnings_makeRoom output) fun r => ?_
  split
  · exact .pure _
  · dsimp only
    split
    · exact .bind (ignoresWarnings_change _ _) fun _ => .pure _
    · refine .bind (.bind (ignoresWarnings_run _ _ _) fun r => ?_) fun _ => .pure _
      split
      · exact .pure _
      · split <;> exact .pure _

end MessageFlow.Session
