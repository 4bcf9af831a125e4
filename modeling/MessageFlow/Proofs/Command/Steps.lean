import MessageFlow.Proofs.Command.Phase
import MessageFlow.Proofs.Diagram.Writing
import MessageFlow.Proofs.Host.Looking
import MessageFlow.Proofs.Snapshot.Store

/-!
# What the steps of a command do

One lemma for every part of a command, on what is true if it succeeds and if it fails.

* `Session.Later`     a session in which a command went on, and has printed some lines;
* `Configured`        the settings that a command works with;
* `Obtained`          the graph that a command works with, and the tree in which it is there;
* `Aftermath`         what a failure in some phase leaves behind;
* `obtain_ends`, `render_ends`, `list_ends`   the commands.
-/

namespace MessageFlow

/-! ### how a session goes on -/

namespace Session

variable {s : Session}

/-- a session that went on from another one, and printed some lines on the way -/
structure Later (s : Session) (lines : List String) (s' : Session) : Prop where
  base : s'.base = s.base
  program : s'.program = s.program
  plan : ∃ n, s'.plan = s.plan.drop n
  said : s'.said = s.said ++ lines

theorem Later.refl (s : Session) : s.Later [] s := ⟨rfl, rfl, ⟨0, rfl⟩, (List.append_nil _).symm⟩

theorem Later.trans {lines lines' : List String} {s' s'' : Session} (h : s.Later lines s')
    (h' : s'.Later lines' s'') : s.Later (lines ++ lines') s'' where
  base := h'.base.trans h.base
  program := h'.program.trans h.program
  plan := by
    obtain ⟨n, hn⟩ := h.plan
    obtain ⟨n', hn'⟩ := h'.plan
    exact ⟨n + n', by rw [hn', hn, List.drop_drop]⟩
  said := by rw [h'.said, h.said, List.append_assoc]

theorem At.later {P : FileTree → Prop} {s' : Session} (h : s.At P s') : s.Later [] s' := by
  obtain ⟨_, n, rfl, _⟩ := h
  exact ⟨rfl, rfl, ⟨n, rfl⟩, (List.append_nil _).symm⟩

theorem Later.enginesWriteOnly {lines : List String} {s' : Session} {output : String}
    (h : s.Later lines s') (hs : s.EnginesWriteOnly output) : s'.EnginesWriteOnly output := by
  unfold EnginesWriteOnly
  rw [h.base, h.program]
  exact hs

end Session

namespace Command

open Session

variable {ε α β : Type} {s : Session}

/-! ### programs that stop at a fault -/

section
variable {x : ExceptT ε (StateM Session) α} {ok : α → Session → Prop} {fail : ε → Session → Prop}

theorem Ends.bind (hx : Ends x.run s ok fail) {f : α → ExceptT ε (StateM Session) β}
    {ok' : β → Session → Prop} (hf : ∀ a s', ok a s' → Ends (f a).run s' ok' fail) :
    Ends (x >>= f).run s ok' fail := by
  rw [ExceptT.run_bind]
  exact Ends.cases hx hf fun _ _ h => .pure_error h

theorem run_bind_ok {s' : Session} {a : α} {f : α → ExceptT ε (StateM Session) β}
    (h : x.run.run s = (.ok a, s')) : (x >>= f).run.run s = (f a).run.run s' := by
  rw [ExceptT.run_bind, StateT.run_bind, h]
  rfl

theorem run_bind_error {s' : Session} {e : ε} {f : α → ExceptT ε (StateM Session) β}
    (h : x.run.run s = (.error e, s')) : (x >>= f).run.run s = (.error e, s') := by
  rw [ExceptT.run_bind, StateT.run_bind, h]
  rfl

theorem Ends.during {x : ExceptT Fault (StateM Session) α} {phase : Phase}
    {fail : Phase × Fault → Session → Prop}
    (hx : Ends x.run s ok fun e => fail (phase, e)) : Ends (during phase x).run s ok fail :=
  Ends.cases (f := fun r => pure (Except.mapError (fun e => (phase, e)) r)) hx
    (fun _ _ h => .pure_ok h) fun _ _ h => .pure_error h

end

/-! ### lines that are printed -/

/-- printing never fails and changes no file -/
theorem say_ends (line : String) {fail : Fault → Session → Prop} :
    Ends (say line : ExceptT Fault (StateM Session) Unit).run s
      (fun _ s' => s.Later [line] s' ∧ s'.tree = s.tree) fail :=
  ⟨⟨rfl, rfl, ⟨0, rfl⟩, rfl⟩, rfl⟩

theorem sayAll_ends (lines : List String) {fail : Fault → Session → Prop} :
    Ends (sayAll lines : ExceptT Fault (StateM Session) Unit).run s
      (fun _ s' => s.Later lines s' ∧ s'.tree = s.tree) fail := by
  induction lines generalizing s with
  | nil => exact .pure_ok ⟨.refl s, rfl⟩
  | cons line lines ih =>
    show Ends (say line >>= fun _ => sayAll lines).run s _ _
    refine Ends.bind (say_ends line) fun _ s₁ h1 => ih.mono (fun _ _ h => ?_) fun _ _ h => h
    exact ⟨h1.1.trans h.1, h.2.trans h1.2⟩

/-- what is told only to those who ask for it -/
theorem sayIf_ends {verbose : Bool} {lines : List String}
    {f : Unit → ExceptT Fault (StateM Session) α} {ok : α → Session → Prop}
    {fail : Fault → Session → Prop}
    (hf : ∀ s', s.Later (if verbose then lines else []) s' → s'.tree = s.tree →
      Ends (f ()).run s' ok fail) :
    Ends (if verbose then sayAll lines >>= f else f ()).run s ok fail := by
  cases verbose
  · exact hf s (.refl s) rfl
  · exact Ends.bind (sayAll_ends lines) fun _ s' h => hf s' h.1 h.2

/-! ### settings and graphs -/

/-- the settings that a command finds if nothing goes wrong -/
def foundSettings (t : FileTree) (base : Place) : Option String → Except Fault Settings
  | some path => t.view base (Settings.load path)
  | none => .ok (match t.view base (Settings.load Settings.standardFile) with
    | .ok st => st
    | .error _ => .standard)

theorem run_settings_of_calm (config : Option String) (hs : s.plan = []) :
    (settings config : ExceptT Fault (StateM Session) Settings).run.run s
      = (foundSettings s.tree s.base config, s) := by
  cases config with
  | some path => exact (looks_settingsLoad path).calm s hs
  | none =>
    rw [settings, ExceptT.run_lift, StateT.run_map, Settings.loadOrStandard, StateT.run_bind,
      (looks_settingsLoad _).calm s hs, foundSettings]
    cases s.tree.view s.base (Settings.load Settings.standardFile) <;> rfl

/-- the settings that a command works with: those that it finds, or the standard ones if something
goes wrong with a file that need not be there -/
def Configured (s : Session) (config : Option String) (st : Settings) : Prop :=
  foundSettings s.tree s.base config = .ok st ∨ config = none ∧ s.plan ≠ [] ∧ st = .standard

theorem settings_ends (config : Option String) :
    Ends (settings config : ExceptT Fault (StateM Session) Settings).run s
      (fun st s' => Configured s config st ∧ s.Later [] s' ∧ s'.tree = s.tree)
      (fun _ s' => s'.tree = s.tree) := by
  cases config with
  | some path =>
    exact ((looks_settingsLoad path).ends s).mono (fun _ _ h => ⟨.inl h.1, h.2.later, h.2.tree⟩)
      fun _ _ h => h.tree
  | none =>
    by_cases hs : s.plan = []
    · unfold Ends
      rw [run_settings_of_calm none hs]
      exact ⟨.inl rfl, .refl s, rfl⟩
    · simp only [settings, Settings.loadOrStandard, ExceptT.run_lift, map_bind]
      refine ((looks_settingsLoad Settings.standardFile).ends s).cases
        (fun st _ h => .pure_ok ⟨.inl ?_, h.2.later, h.2.tree⟩)
        fun _ _ h => .pure_ok ⟨.inr ⟨rfl, hs, rfl⟩, h.later, h.tree⟩
      rw [foundSettings, h.1]

theorem configure_ends (verbose : Bool) (request : RenderRequest) :
    Ends (configure verbose request : ExceptT Fault (StateM Session) Settings).run s
      (fun st s' => (∃ st₀, Configured s request.config st₀ ∧ st = request.adjust st₀)
        ∧ (∃ lines, s.Later lines s') ∧ s'.tree = s.tree)
      (fun _ s' => s'.tree = s.tree) := by
  refine Ends.bind (settings_ends request.config) fun st₀ s₁ ⟨hc, h1, ht⟩ => ?_
  exact sayIf_ends fun s₂ h2 ht' => .pure_ok ⟨⟨st₀, hc, rfl⟩, ⟨_, h1.trans h2⟩, ht'.trans ht⟩

theorem analyse_ends (source : String) (st : Settings) (verbose : Bool) :
    Ends (analyse source st verbose : ExceptT Fault (StateM Session) Analysis).run s
      (fun a s' => s.tree.view s.base
          (Analysis.ofSource st.moduleDepth st.manifestSuffix source) = .ok a
        ∧ s.Later (["Analyzing " ++ source ++ "..."]
          ++ if verbose then unconsumedLines a.unconsumed else []) s' ∧ s'.tree = s.tree)
      (fun _ s' => s'.tree = s.tree) := by
  refine Ends.bind (say_ends _) fun _ s₁ ⟨h1, ht⟩ => ?_
  have hlook := (looks_ofSource st.moduleDepth st.manifestSuffix source).ends s₁
  rw [ht, h1.base] at hlook
  refine Ends.bind (hlook.mono (fun _ _ h => h) fun _ _ h => h.tree) fun a s₂ ⟨ha, h2⟩ => ?_
  exact sayIf_ends fun s₃ h3 ht' =>
    .pure_ok ⟨ha, h1.trans (h2.later.trans h3), ht'.trans h2.tree⟩

theorem store_ends (g : Graph) (st : Settings) :
    Ends (store g st : ExceptT Fault (StateM Session) Unit).run s
      (fun _ s' => (∃ d, s.tree.Saved s'.tree s.base st.dataFile (Snapshot.encode g) d)
        ∧ s.Later ["Graph saved to " ++ st.dataFile] s')
      (fun _ s' => ∃ paths, s.tree.Extends s'.tree s.base paths) := by
  refine Ends.bind ((Snapshot.save_ends g st.dataFile).mono (fun _ _ h => h)
    fun _ _ h => ⟨_, h.tree⟩) fun _ s₁ h1 => ?_
  refine (say_ends _).mono (fun _ s₂ ⟨h2, ht⟩ => ⟨?_, h1.later.trans h2⟩) fun _ _ h => h
  rw [ht]
  exact h1.tree

theorem reload_ends (st : Settings) :
    Ends (reload st : ExceptT Fault (StateM Session) Graph).run s
      (fun g s' => s.tree.view s.base (Snapshot.load st.dataFile) = .ok g
        ∧ s.Later ["Loading graph from " ++ st.dataFile ++ "..."] s' ∧ s'.tree = s.tree)
      (fun _ s' => s'.tree = s.tree) := by
  refine Ends.bind (say_ends _) fun _ s₁ ⟨h1, ht⟩ => ?_
  have hlook := (looks_load st.dataFile).ends s₁
  rw [ht, h1.base] at hlook
  exact hlook.mono (fun g s₂ ⟨hg, h2⟩ => ⟨hg, h1.trans h2.later, h2.tree⟩) fun _ _ h => h.tree

/-- the graph that a command works with, the tree in which it is there, and what was printed -/
inductive Obtained (s : Session) (st : Settings) (verbose : Bool) :
    Option String → FileTree → Graph → List String → Prop
  | loaded {g : Graph} (h : s.tree.view s.base (Snapshot.load st.dataFile) = .ok g) :
      Obtained s st verbose none s.tree g ["Loading graph from " ++ st.dataFile ++ "..."]
  | analysed {source : String} {a : Analysis} {t : FileTree} {d : Place}
      (h : s.tree.view s.base (Analysis.ofSource st.moduleDepth st.manifestSuffix source) = .ok a)
      (hd : s.tree.Saved t s.base st.dataFile (Snapshot.encode a.graph) d) :
      Obtained s st verbose (some source) t a.graph
        (["Analyzing " ++ source ++ "..."] ++ (if verbose then unconsumedLines a.unconsumed else [])
          ++ ["Graph saved to " ++ st.dataFile])

theorem Obtained.of_later {st : Settings} {verbose : Bool} {source : Option String} {t : FileTree}
    {g : Graph} {lines more : List String} {s' : Session}
    (hg : Obtained s' st verbose source t g lines) (h : s.Later more s') (ht : s'.tree = s.tree) :
    Obtained s st verbose source t g lines := by
  cases hg with
  | loaded hl =>
    rw [ht, h.base] at hl
    rw [ht]
    exact .loaded hl
  | analysed ha hd =>
    rw [ht, h.base] at ha hd
    exact .analysed ha hd

/-- what is in the tree after a failure, by the phase in which it arose; `drawn` is said of what
drawing left -/
def Aftermath (s : Session) (drawn : FileTree → Prop) (phase : Phase) (t : FileTree) : Prop :=
  match phase with
  | .configuring | .collecting | .loading => t = s.tree
  | .saving => ∃ paths, s.tree.Extends t s.base paths
  | .drawing => drawn t

/-- what is left if nothing was changed before -/
theorem Aftermath.of_later {drawn : FileTree → Prop} {phase : Phase} {lines : List String}
    {s' : Session} {t : FileTree} (ha : Aftermath s' drawn phase t) (h : s.Later lines s')
    (ht : s'.tree = s.tree) : Aftermath s drawn phase t := by
  unfold Aftermath at ha ⊢
  rw [ht, h.base] at ha
  exact ha

theorem Aftermath.mono {drawn drawn' : FileTree → Prop} {phase : Phase} {t : FileTree}
    (h : Aftermath s drawn phase t) (hd : drawn t → drawn' t) : Aftermath s drawn' phase t := by
  cases phase with
  | drawing => exact hd h
  | _ => exact h

theorem obtain_ends (source : Option String) (st : Settings) (verbose : Bool) :
    Ends (obtainByPhase source st verbose : ExceptT (Phase × Fault) (StateM Session) Graph).run s
      (fun g s' => ∃ lines, Obtained s st verbose source s'.tree g lines ∧ s.Later lines s')
      (fun e s' => Aftermath s (fun _ => False) e.1 s'.tree) := by
  cases source with
  | none =>
    refine Ends.during ((reload_ends st).mono (fun g s₁ ⟨hg, h1, ht⟩ => ⟨_, ?_, h1⟩) fun _ _ h => h)
    rw [ht]
    exact .loaded hg
  | some source =>
    refine Ends.bind (Ends.during (analyse_ends source st verbose)) fun a s₁ ⟨ha, h1, ht⟩ => ?_
    have hstore := store_ends (s := s₁) a.graph st
    rw [ht, h1.base] at hstore
    exact Ends.bind (Ends.during hstore) fun _ s₂ ⟨⟨d, hd⟩, h2⟩ =>
      .pure_ok ⟨_, .analysed ha hd, h1.trans h2⟩

/-! ### drawings -/

theorem announceStart_ends (log : Log.Filter) (g : Graph) (start : Option String)
    {fail : Fault → Session → Prop} :
    Ends (announceStart log g start : ExceptT Fault (StateM Session) Unit).run s
      (fun _ s' => (∃ lines, s.Later lines s') ∧ s'.tree = s.tree) fail := by
  have hnothing : (∃ lines, s.Later lines s) ∧ s.tree = s.tree := ⟨⟨_, .refl s⟩, rfl⟩
  unfold announceStart
  split
  · split
    · exact ⟨⟨[], rfl, rfl, ⟨0, rfl⟩, (List.append_nil _).symm⟩, rfl⟩
    · exact .pure_ok hnothing
  · split
    · exact (say_ends _).mono (fun _ _ h => ⟨⟨_, h.1⟩, h.2⟩) fun _ _ h => h
    · exact .pure_ok hnothing

theorem draw_ends (st : Settings) (x : Selection) {output : String}
    (hs : s.EnginesWriteOnly output) :
    Ends (draw st x output : ExceptT Fault (StateM Session) Unit).run s
      (fun _ s' => (∃ lines, s.Later lines s') ∧ s.tree.Drawn s'.tree s.base output
        ∧ (Target.ofPath output = .dot →
          s'.tree.Wrote s.base output (Text.utf8 (x.dot st.diagram))))
      (fun _ s' => s.tree.Drawn s'.tree s.base output) := by
  refine Ends.bind (say_ends _) fun _ s₁ ⟨h1, ht1⟩ => ?_
  refine Ends.bind (say_ends _) fun _ s₂ ⟨h2, ht2⟩ => ?_
  have h12 := h1.trans h2
  have hwrite : Ends (Diagram.write st.layoutEngine (x.dot st.diagram) output) s₂ _ _ :=
    Diagram.write_ends (h12.enginesWriteOnly hs)
  rw [ht2, ht1, h12.base] at hwrite
  refine Ends.bind (hwrite.mono (fun _ _ h => h) fun _ _ h => h.tree) fun _ s₃ ⟨h3, hread⟩ => ?_
  refine (say_ends _).mono (fun _ s₄ ⟨h4, ht4⟩ => ?_) fun _ _ h => h
  rw [ht4]
  exact ⟨⟨_, h12.trans (h3.later.trans h4)⟩, h3.tree, hread⟩

theorem drawRequested_ends (log : Log.Filter) {request : RenderRequest} (st : Settings) (g : Graph)
    (hs : s.EnginesWriteOnly request.output) :
    Ends (drawRequested log request st g : ExceptT Fault (StateM Session) Unit).run s
      (fun _ s' => (∃ lines, s.Later lines s') ∧ s.tree.Drawn s'.tree s.base request.output
        ∧ (Target.ofPath request.output = .dot → s'.tree.Wrote s.base request.output
          (Text.utf8 ((g.select request.start st.diagram.interModuleOnly).dot st.diagram))))
      (fun _ s' => s.tree.Drawn s'.tree s.base request.output) := by
  unfold drawRequested
  refine sayIf_ends fun s₁ h1 ht1 => ?_
  refine Ends.bind (announceStart_ends log g request.start) fun _ s₂ ⟨⟨_, h2⟩, ht2⟩ => ?_
  have h12 := h1.trans h2
  have hdraw := draw_ends st (g.select request.start st.diagram.interModuleOnly)
    (h12.enginesWriteOnly hs)
  rw [ht2, ht1, h12.base] at hdraw
  exact hdraw.mono (fun _ s₃ ⟨⟨_, h3⟩, hd⟩ => ⟨⟨_, h12.trans h3⟩, hd⟩) fun _ _ h => h

/-! ### commands -/

/-- what a command draws, and the tree in which it begins to -/
structure Draws (s : Session) (verbose : Bool) (request : RenderRequest) (st : Settings) (g : Graph)
    (t : FileTree) : Prop where
  configured : Configured s request.config st
  obtained : ∃ lines, Obtained s (request.adjust st) verbose request.source t g lines

theorem render_ends (log : Log.Filter) (verbose : Bool) {request : RenderRequest}
    (hs : s.EnginesWriteOnly request.output) :
    Ends (renderByPhase log verbose request : ExceptT (Phase × Fault) (StateM Session) Unit).run s
      (fun _ s' => ∃ st g t, Draws s verbose request st g t
        ∧ t.Drawn s'.tree s.base request.output
        ∧ (Target.ofPath request.output = .dot → s'.tree.Wrote s.base request.output
          (Text.utf8 ((g.select request.start (request.adjust st).diagram.interModuleOnly).dot
            (request.adjust st).diagram)))
        ∧ ∃ lines, s.Later lines s')
      (fun e s' => Aftermath s (fun t' => ∃ st g t, Draws s verbose request st g t
        ∧ t.Drawn t' s.base request.output) e.1 s'.tree) := by
  refine Ends.bind (Ends.during (configure_ends verbose request))
    fun st s₁ ⟨⟨st₀, hc, hst⟩, ⟨_, h1⟩, ht1⟩ => ?_
  subst hst
  have hobtain := obtain_ends (s := s₁) request.source (request.adjust st₀) verbose
  refine Ends.bind (hobtain.mono (fun _ _ h => h) fun e s₂ h => ?_) fun g s₂ ⟨lines, hg, h2⟩ => ?_
  · exact (h.of_later h1 ht1).mono False.elim
  have hd : Draws s verbose request st₀ g s₂.tree := ⟨hc, lines, hg.of_later h1 ht1⟩
  have hdraw := drawRequested_ends log (request.adjust st₀) g ((h1.trans h2).enginesWriteOnly hs)
  rw [(h1.trans h2).base] at hdraw
  refine Ends.during (hdraw.mono (fun _ s₃ ⟨⟨_, h3⟩, hd', hread⟩ => ?_) fun _ _ h => ⟨_, _, _, hd, h⟩)
  exact ⟨_, _, _, hd, hd', hread, _, (h1.trans h2).trans h3⟩

theorem list_ends (verbose : Bool) (request : EntryPointsRequest) :
    Ends (listByPhase verbose request : ExceptT (Phase × Fault) (StateM Session) Unit).run s
      (fun _ s' => ∃ st g lines, Configured s request.config st
        ∧ Obtained s (request.adjust st) verbose request.source s'.tree g lines
        ∧ s.Later (lines ++ entryPointLines g) s')
      (fun e s' => Aftermath s (fun _ => False) e.1 s'.tree) := by
  refine Ends.bind (Ends.during (settings_ends request.config)) fun st s₁ ⟨hc, h1, ht1⟩ => ?_
  have hobtain := obtain_ends (s := s₁) request.source (request.adjust st) verbose
  refine Ends.bind (hobtain.mono (fun _ _ h => h) fun e s₂ h => h.of_later h1 ht1)
    fun g s₂ ⟨lines, hg, h2⟩ => ?_
  refine Ends.during ((sayAll_ends _).mono (fun _ s₃ ⟨h3, ht3⟩ => ?_) fun _ _ h => h)
  refine ⟨st, g, lines, hc, ?_, h1.trans (h2.trans h3)⟩
  rw [ht3]
  exact hg.of_later h1 ht1

end Command

end MessageFlow
