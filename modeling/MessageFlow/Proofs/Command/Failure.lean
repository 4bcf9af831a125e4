import MessageFlow.Proofs.Command.Steps
import MessageFlow.Proofs.Snapshot.RoundTrip

/-!
# What a command that fails leaves behind

`failure_leaves_files`: whatever goes wrong in a command, no file is harmed.  Up to the loading of
stored graphs nothing is changed at all, saving that fails makes directories at most, and drawing
changes nothing but the output.
-/

namespace MessageFlow

open Session

namespace FileTree

/-- what is at a place that is not drawn on -/
theorem Drawn.find?_of_ne {t t' : FileTree} {base d : Place} {output : String} {e : Entry}
    (h : t.Drawn t' base output) (hd : t.find? d = some e)
    (ho : t'.writePlace linkLimit base output ≠ .ok d) : t'.find? d = some e := by
  rcases h.find?_eq d with h1 | ⟨h1, _⟩ | h1
  · exact h1.trans hd
  · rw [hd] at h1
    cases h1
  · exact absurd (writePlace_eq_ok_iff.mpr h1) ho

end FileTree

namespace Snapshot

theorem read_of_view_load {t : FileTree} {base : Place} {path : String} {g : Graph}
    (h : t.view base (load path) = .ok g) : ∃ content, t.read base path = .ok content := by
  rw [view_load] at h
  split at h
  · cases h
  · cases h
  · exact ⟨_, ‹_›⟩

end Snapshot

namespace Command

variable {s : Session}

theorem execute_ends (log : Log.Filter) {invocation : Invocation}
    (hs : ∀ request, invocation.command = .render request → s.EnginesWriteOnly request.output) :
    Ends (executeByPhase log invocation) s (fun _ _ => True)
      (fun e s' => Aftermath s (fun t' => ∃ request st g t, invocation.command = .render request
        ∧ Draws s invocation.verbose request st g t ∧ t.Drawn t' s.base request.output)
          e.1 s'.tree) := by
  unfold executeByPhase
  cases hc : invocation.command with
  | render request =>
    refine (render_ends log _ (hs request hc)).mono (fun _ _ _ => trivial) fun e s' h => h.mono ?_
    rintro ⟨st, g, t, h⟩
    exact ⟨request, st, g, t, rfl, h⟩
  | entryPoints request =>
    exact (list_ends _ request).mono (fun _ _ _ => trivial) fun e s' h => h.mono False.elim
  | version => exact Ends.during ((say_ends _).mono (fun _ _ _ => trivial) fun _ _ h => h)

/-- where the data file is that a command works with, and what is in it -/
def DataFile (s : Session) (request : RenderRequest) (st : Settings) (d : Place)
    (content : Text.Bytes) : Prop :=
  match request.source with
  | none => s.tree.follow s.base (request.adjust st).dataFile = .ok d
      ∧ ∃ x, s.tree.find? d = some (.file content x)
  | some source => ∃ a t, content = Snapshot.encode a.graph
      ∧ s.tree.view s.base (Analysis.ofSource st.moduleDepth st.manifestSuffix source) = .ok a
      ∧ s.tree.Saved t s.base (request.adjust st).dataFile content d

/-- a tree in which the data file holds its content, and nothing else is changed but the output -/
structure Spared (s : Session) (request : RenderRequest) (st : Settings) (t : FileTree) (d : Place)
    (content : Text.Bytes) : Prop where
  dataFile : DataFile s request st d content
  held : t.writePlace FileTree.linkLimit s.base request.output ≠ .ok d →
    ∃ x, t.find? d = some (.file content x)
  /-- the data file is read at its path, unless that led over a link at its very place -/
  read : t.writePlace FileTree.linkLimit s.base request.output ≠ .ok d →
    (∀ target, s.tree.find? d ≠ some (.link target))
      ∨ t.Names s.base (request.adjust st).dataFile d →
    t.read s.base (request.adjust st).dataFile = .ok content
  /-- all else is as it was, but for new directories and the output -/
  others : ∀ q, (request.source ≠ none → q ≠ d) → t.find? q = s.tree.find? q
    ∨ s.tree.find? q = none ∧ t.find? q = some .directory
    ∨ t.writePlace FileTree.linkLimit s.base request.output = .ok q

theorem Draws.spared {verbose : Bool} {request : RenderRequest} {st : Settings} {g : Graph}
    {t t' : FileTree} (h : Draws s verbose request st g t)
    (hd : t.Drawn t' s.base request.output) : ∃ d content, Spared s request st t' d content := by
  obtain ⟨lines, hg⟩ := h.obtained
  have hothers := hd.find?_eq
  simp only [← FileTree.writePlace_eq_ok_iff] at hothers
  generalize hsource : request.source = source at hg
  cases hg with
  | loaded hl =>
    obtain ⟨content, hread⟩ := Snapshot.read_of_view_load hl
    obtain ⟨d, x, hfollow, hx⟩ := FileTree.read_eq_ok_iff.mp hread
    have hdata : DataFile s request st d content := by
      unfold DataFile
      rw [hsource]
      exact ⟨hfollow, x, hx⟩
    refine ⟨d, content, hdata, fun ho => ⟨x, hd.find?_of_ne hx ho⟩, fun ho _ => ?_,
      fun q _ => hothers q⟩
    have h1 := hd.find?_of_ne hx ho
    exact FileTree.read_eq_ok_iff.mpr
      ⟨d, x, FileTree.follow_of_keepsWays hd.ways (FileTree.holds_of_file h1) hfollow, h1⟩
  | @analysed source a t d ha hs =>
    have hdata : DataFile s request st d (Snapshot.encode a.graph) := by
      unfold DataFile
      rw [hsource]
      exact ⟨a, t, rfl, ha, hs⟩
    refine ⟨d, _, hdata, fun ho => ⟨false, hd.find?_of_ne hs.content ho⟩, fun ho hn => ?_,
      fun q hq => ?_⟩
    · have h1 := hd.find?_of_ne hs.content ho
      refine FileTree.read_eq_ok_iff.mpr ⟨d, false, hs.follow (hn.elim (fun hl => ?_) id) h1, h1⟩
      exact (hs.names hl).of_keepsWays hd.ways
    · have hq := hs.find?_eq q (hq (by rw [hsource]; exact Option.some_ne_none _))
      rcases hothers q with h1 | ⟨h1, h2⟩ | h1
      · rw [h1]
        exact hq.imp_right .inl
      · exact .inr (.inl ⟨hq.elim (fun h3 => h3.symm.trans h1) And.left, h2⟩)
      · exact .inr (.inr h1)

/-- **A command that fails leaves the files intact.**  While settings are loaded, manifests collected
or a stored graph is loaded, nothing is changed.  When saving fails, all that was there is still there,
and what is new is a directory.  When drawing fails, the data file holds what was in it or, with a
source, the graph that was analysed, and all else but the output is as it was (`Spared`). -/
theorem failure_leaves_files (log : Log.Filter) (invocation : Invocation) (s s' : Session)
    (fault : Fault)
    (h : (execute log invocation : StateM Session (Except Fault Unit)).run s = (.error fault, s'))
    (hs : ∀ request, invocation.command = .render request → s.EnginesWriteOnly request.output) :
    ∃ phase, (executeByPhase log invocation : StateM Session _).run s = (.error (phase, fault), s') ∧
      match phase with
      | .configuring | .collecting | .loading => s'.tree = s.tree
      | .saving =>
        (∀ p e, s.tree.find? p = some e → s'.tree.find? p = some e)
        ∧ ∀ p, s.tree.find? p = none → s'.tree.find? p ≠ none → s'.tree.find? p = some .directory
      | .drawing => ∃ request st d content, invocation.command = .render request
        ∧ Configured s request.config st ∧ Spared s request st s'.tree d content := by
  rw [execute_eq] at h
  cases hrun : (executeByPhase log invocation : StateM Session _).run s with
  | mk r s₁ =>
    rw [StateT.run_map, hrun] at h
    cases r with
    | ok _ => cases h
    | error e =>
      have hends := (execute_ends log hs).fail_of_run hrun
      obtain ⟨phase, fault'⟩ := e
      cases h
      refine ⟨phase, rfl, ?_⟩
      cases phase with
      | saving =>
        obtain ⟨paths, hext⟩ := hends
        exact ⟨hext.kept, fun p h h' => (hext.made p h h').1⟩
      | drawing =>
        obtain ⟨request, st, g, t, hc, hdraws, hd⟩ := hends
        obtain ⟨d, content, h⟩ := hdraws.spared hd
        exact ⟨request, st, d, content, hc, hdraws.configured, h⟩
      | _ => exact hends

/-- the request to draw what is stored in `d` -/
def redraw : RenderRequest := ⟨none, some "d", "o.dot", none, false, false, none, none⟩

def spaceFault : FileFault := .other "No space left on device (os error 28)"

/-- a session with a stored graph and no settings, whose file system is full after three more bytes -/
def crowded : Session where
  tree := ⟨[(["d"], .file (Snapshot.encode ∅) false)]⟩
  base := []
  program _ _ _ := .error .notFound
  plan := [some ⟨.notFound, none⟩, none, some ⟨spaceFault, some 3⟩]
  said := []
  warned := []
  complained := []

/-- the session after some steps of its plan -/
def crowdedAfter (steps : Nat) (lines : List String) : Session :=
  { crowded with plan := crowded.plan.drop steps, said := lines }

/-- the session after the drawing was written in part -/
def torn : Session :=
  { crowdedAfter 3 ["Loading graph from d...", "Generating diagram...",
      "Writing diagram to o.dot..."] with tree := crowded.tree.put ["o.dot"] (Text.utf8 "dig") }

theorem run_load_crowded (lines : List String) :
    (Snapshot.load "d" : StateM Session _).run (crowdedAfter 1 lines)
      = (.ok ∅, crowdedAfter 2 lines) := by
  have hd : FileTree.Bare "d" := .of_chars (by decide)
  have hread : crowded.tree.read [] "d" = .ok (Snapshot.encode ∅) := hd.read rfl rfl
  have h1 : (Host.read "d" : StateM Session _).run (crowdedAfter 1 lines)
      = (crowded.tree.read [] "d", crowdedAfter 2 lines) := run_look id _ _
  rw [hread] at h1
  rw [Snapshot.load, StateT.run_bind, h1]
  show ((Snapshot.decodeBounded (Snapshot.encode ∅)).mapError Fault.snapshot, _) = _
  rw [Snapshot.decodeBounded_encode Graph.WellFormed.empty (by decide)]
  rfl

theorem run_write_crowded {dot : String} (h : (Text.utf8 dot).take 3 = Text.utf8 "dig") :
    (Diagram.write "dot" dot "o.dot" : StateM Session _).run (crowdedAfter 2 torn.said)
      = (.error (.file spaceFault), torn) := by
  have ho : FileTree.Bare "o.dot" := .of_chars (by decide)
  have hroom : (Diagram.makeRoom "o.dot" : StateM Session _) = pure (.ok ()) := by
    rw [Diagram.makeRoom, ho.parent]
    show Host.makeNested (Path.ancestors "") = _
    rw [Path.ancestors_nil]
    rfl
  have hpart : crowded.tree.write [] "o.dot" ((Text.utf8 dot).take 3) = .ok torn.tree := by
    have hw : crowded.tree.Written FileTree.linkLimit [] "o.dot" ["o.dot"] :=
      ho.written rfl fun e he => by cases he
    rw [FileTree.write_of_writePlace (FileTree.writePlace_eq_ok_iff.mpr hw), h]
    rfl
  have hwrite : (Host.write "o.dot" (Text.utf8 dot) : StateM Session _).run (crowdedAfter 2 torn.said)
      = (.error spaceFault, torn) := by
    show (change (fun n t base => t.write base "o.dot" ((Text.utf8 dot).take n)) _).run _ = _
    exact run_change_of_mishap rfl hpart
  rw [Diagram.write, hroom, pure_bind,
    show Target.ofPath "o.dot" = .dot from Target.ofPath_eq_dot (by decide)]
  show (Host.write "o.dot" (Text.utf8 dot) >>= _ : StateM Session _).run _ = _
  rw [StateT.run_bind, hwrite]
  rfl

theorem execute_crowded :
    (execute .standard ⟨false, .render redraw⟩ : StateM Session (Except Fault Unit)).run crowded
      = (.error (.file spaceFault), torn) := by
  have hsettings : (settings none : ExceptT Fault (StateM Session) Settings).run.run crowded
      = (.ok .standard, crowdedAfter 1 []) := rfl
  have hobtain : (obtainGraph none (redraw.adjust .standard) false :
      ExceptT Fault (StateM Session) Graph).run.run (crowdedAfter 1 [])
      = (.ok ∅, crowdedAfter 2 ["Loading graph from d..."]) := run_load_crowded _
  have hline : targetLine "dot" "o.dot" (Target.ofPath "o.dot") = "Writing diagram to o.dot..." := by
    rw [show Target.ofPath "o.dot" = .dot from Target.ofPath_eq_dot (by decide)]
    decide
  have hsay : (say (targetLine "dot" "o.dot" (Target.ofPath "o.dot")) :
      ExceptT Fault (StateM Session) Unit).run.run
        (crowdedAfter 2 ["Loading graph from d...", "Generating diagram..."])
      = (.ok (), crowdedAfter 2 torn.said) := by
    rw [hline]
    rfl
  have hstart : (Text.utf8 (((∅ : Graph).select none false).dot .standard)).take 3
      = Text.utf8 "dig" := by
    decide +kernel
  have hwrite := run_write_crowded hstart
  refine (run_bind_ok hsettings).trans ((run_bind_ok hobtain).trans ?_)
  refine (run_bind_ok (x := announceStart .standard ∅ none) rfl).trans ?_
  refine (run_bind_ok (x := say "Generating diagram...") rfl).trans ?_
  exact (run_bind_ok hsay).trans (run_bind_error hwrite)

theorem failure_leaves_files_torn :
    (execute .standard ⟨false, .render redraw⟩ : StateM Session (Except Fault Unit)).run crowded
      = (.error (.file spaceFault), torn)
    ∧ (∀ request, Command.render redraw = .render request → crowded.EnginesWriteOnly request.output)
    ∧ ∃ phase, (executeByPhase .standard ⟨false, .render redraw⟩ : StateM Session _).run crowded
        = (.error (phase, .file spaceFault), torn) ∧
      match phase with
      | .configuring | .collecting | .loading => torn.tree = crowded.tree
      | .saving =>
        (∀ p e, crowded.tree.find? p = some e → torn.tree.find? p = some e)
        ∧ ∀ p, crowded.tree.find? p = none → torn.tree.find? p ≠ none →
          torn.tree.find? p = some .directory
      | .drawing => ∃ request st d content, Command.render redraw = .render request
        ∧ Configured crowded request.config st ∧ Spared crowded request st torn.tree d content := by
  have hs : ∀ request, Command.render redraw = .render request →
      crowded.EnginesWriteOnly request.output := by
    rintro _ ⟨rfl⟩
    exact enginesWriteOnly_of_dot (Target.ofPath_eq_dot (by decide))
  exact ⟨execute_crowded, hs, failure_leaves_files _ _ _ _ _ execute_crowded hs⟩

end Command

end MessageFlow
