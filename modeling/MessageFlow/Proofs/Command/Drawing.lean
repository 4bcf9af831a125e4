import MessageFlow.Proofs.Command.Stored
import MessageFlow.Proofs.Diagram.Selection
import MessageFlow.Proofs.Host.Warnings
import MessageFlow.Proofs.Settings

/-!
# What a command draws

A `render` command fails before it draws anything, or it comes to a graph with settings that have no
problem; up to there it does the same whatever its start is (`render_reaches`).

* `render_colors`   every module that is drawn has the colour of its number;
* `render_shows`    which vertices and flows are drawn, and what is highlighted.
-/

namespace MessageFlow

namespace Command

open Session

variable {s s' : Session} {st : Settings} {g : Graph}

/-! ### settings and graphs -/

theorem problem?_of_view {t : FileTree} {base : Place} {path : String}
    (h : t.view base (Settings.load path) = .ok st) : st.problem? = none := by
  rw [view_settingsLoad] at h
  cases hr : t.read base path with
  | error fault => rw [hr] at h; cases h
  | ok bytes =>
    rw [hr] at h
    exact Settings.problem?_of_ofBytes h

/-- a command works with settings that have no problem, wherever they are from -/
theorem Configured.problem? {config : Option String} (h : Configured s config st) :
    st.problem? = none := by
  rcases h with h | ⟨_, _, rfl⟩
  · cases config with
    | some path => exact problem?_of_view h
    | none =>
      rw [foundSettings] at h
      split at h
      · rename_i st₁ hload
        cases h
        exact problem?_of_view hload
      · cases h
        exact Settings.problem?_standard
  · exact Settings.problem?_standard

theorem wellFormed_of_load {t : FileTree} {base : Place} {path : String}
    (h : t.view base (Snapshot.load path) = .ok g) : g.WellFormed := by
  rw [view_load] at h
  split at h
  · cases h
  · cases h
  · rename_i bytes _
    cases hd : Snapshot.decodeBounded bytes with
    | error fault => rw [hd] at h; cases h
    | ok g₁ =>
      rw [hd] at h
      cases h
      exact Snapshot.wellFormed_of_decodeBounded hd

theorem Obtained.wellFormed {verbose : Bool} {source : Option String} {t : FileTree}
    {lines : List String} (h : Obtained s st verbose source t g lines) : g.WellFormed := by
  cases h with
  | loaded h => exact wellFormed_of_load h
  | analysed h _ => exact wellFormed_of_view h

/-! ### up to the drawing -/

theorem run_during {α : Type} {x : ExceptT Fault (StateM Session) α} {r : Except Fault α}
    (phase : Phase) (h : x.run.run s = (r, s')) :
    (during phase x).run.run s = (r.mapError fun fault => (phase, fault), s') := by
  show (Except.mapError (fun fault => (phase, fault)) <$> x.run).run s = _
  rw [StateT.run_map, h]
  rfl

theorem run_unmarked_congr {α : Type} {x y : ExceptT (Phase × Fault) (StateM Session) α}
    (h : x.run.run s = y.run.run s') : (unmarked x).run.run s = (unmarked y).run.run s' := by
  rw [run_unmarked, run_unmarked, StateT.run_map, StateT.run_map, h]

/-- **A command fails before it draws, or it comes to a graph.**  Its start plays no part before. -/
theorem render_reaches (log : Log.Filter) (verbose : Bool) (request : RenderRequest) (s : Session) :
    (∃ phase fault s', phase ≠ .drawing ∧
      (executeByPhase log ⟨verbose, .render request⟩ : StateM Session _).run s
        = (.error (phase, fault), s'))
    ∨ ∃ st g s₁, Draws s verbose request st g s₁.tree ∧ (∃ lines, s.Later lines s₁)
      ∧ ∀ start, (execute log ⟨verbose, .render { request with start := start }⟩ :
          StateM Session (Except Fault Unit)).run s
        = (drawRequested log { request with start := start } (request.adjust st) g :
          ExceptT Fault (StateM Session) Unit).run.run s₁ := by
  have hconfigure := configure_ends (s := s) verbose request
  rcases hc : (configure verbose request : ExceptT Fault (StateM Session) Settings).run.run s
    with ⟨fault | st, s₁⟩
  · exact .inl ⟨.configuring, fault, s₁, by decide, run_bind_error (run_during _ hc)⟩
  obtain ⟨⟨st₀, hst₀, rfl⟩, ⟨lines₁, h1⟩, ht1⟩ := hconfigure.ok_of_run hc
  have hobtain := obtain_ends (s := s₁) request.source (request.adjust st₀) verbose
  rcases ho : (obtainByPhase request.source (request.adjust st₀) verbose :
    ExceptT (Phase × Fault) (StateM Session) Graph).run.run s₁ with ⟨⟨phase, fault⟩ | g, s₂⟩
  · refine .inl ⟨phase, fault, s₂, ?_, (run_bind_ok (run_during _ hc)).trans (run_bind_error ho)⟩
    rintro rfl
    exact hobtain.fail_of_run ho
  · obtain ⟨lines₂, hg, h2⟩ := hobtain.ok_of_run ho
    refine .inr ⟨st₀, g, s₂, ⟨hst₀, lines₂, hg.of_later h1 ht1⟩, ⟨_, h1.trans h2⟩, fun start => ?_⟩
    have hrun : (renderByPhase log verbose { request with start := start } :
        ExceptT (Phase × Fault) (StateM Session) Unit).run.run s
        = (during .drawing (drawRequested log { request with start := start } (request.adjust st₀) g) :
          ExceptT (Phase × Fault) (StateM Session) Unit).run.run s₂ :=
      (run_bind_ok (run_during _ hc)).trans (run_bind_ok ho)
    have h := run_unmarked_congr hrun
    rw [unmarked_renderByPhase, unmarked_during] at h
    exact h

/-! ### colours -/

/-- **Every module that is drawn has its colour.**  Whatever is in the files, a command that comes to
drawing does so with settings that have no problem; then the row of the module in every node has the
colour of the palette that the number of the module tells, and the colour for everything else is in
no diagram. -/
theorem render_colors (log : Log.Filter) (verbose : Bool) (request : RenderRequest) (s : Session) :
    (∃ phase fault s', phase ≠ .drawing ∧
      (executeByPhase log ⟨verbose, .render request⟩ : StateM Session _).run s
        = (.error (phase, fault), s'))
    ∨ ∃ st g s₁, Draws s verbose request st g s₁.tree
      ∧ (execute log ⟨verbose, .render request⟩ : StateM Session (Except Fault Unit)).run s
        = (drawRequested log request (request.adjust st) g :
          ExceptT Fault (StateM Session) Unit).run.run s₁
      ∧ (request.adjust st).problem? = none
      ∧ ∀ x, x = g.select request.start (request.adjust st).diagram.interModuleOnly →
        x.graph.modules.Pairwise (· < ·)
        ∧ (∀ key, key ∈ x.graph.modules ↔ ∃ v ∈ x.graph.vertices, v.moduleKey = key)
        ∧ x.dot (request.adjust st).diagram = (x.diagram (request.adjust st).diagram).dot
        ∧ (∀ n ∈ (x.diagram (request.adjust st).diagram).nodes, ∃ v ∈ x.graph.vertices, n.id = v.name
          ∧ ∃ i, x.graph.modules[i]? = some v.moduleKey
            ∧ st.diagram.palette[i % st.diagram.palette.length]? = some n.moduleColor)
        ∧ ∀ unknown, x.diagram { (request.adjust st).diagram with unknownColor := unknown }
          = x.diagram (request.adjust st).diagram := by
  rcases render_reaches log verbose request s with h | ⟨st, g, s₁, hd, _, hrun⟩
  · exact .inl h
  have hst : (request.adjust st).problem? = none :=
    (Settings.problem?_override st _).trans hd.configured.problem?
  have hpalette : (request.adjust st).diagram.palette ≠ [] :=
    (Settings.problem?_eq_none_iff.mp hst).2.1
  refine .inr ⟨st, g, s₁, hd, hrun request.start, hst, ?_⟩
  rintro x rfl
  refine ⟨Graph.modules_ascending _, fun key => ?_, rfl, fun n hn => ?_, fun unknown => ?_⟩
  · rw [Graph.mem_modules, List.mem_map]
  · exact Diagram.moduleColor_of_mem_nodes hpalette hn
  · exact Diagram.ofGraph_of_unknownColor hpalette unknown

/-! ### a start that is not there -/

theorem ignoresWarnings_say (line : String) :
    IgnoresWarnings (say line : ExceptT Fault (StateM Session) Unit).run := fun _ _ => rfl

theorem ignoresWarnings_draw (st : Settings) (x : Selection) (output : String) :
    IgnoresWarnings (draw st x output : ExceptT Fault (StateM Session) Unit).run := by
  refine .bind_ok (ignoresWarnings_say _) fun _ => .bind_ok (ignoresWarnings_say _) fun _ => ?_
  exact .bind_ok (x := ExceptT.mk (Diagram.write st.layoutEngine (x.dot st.diagram) output))
    (ignoresWarnings_write _ _ _) fun _ => ignoresWarnings_say _

/-- a start that the graph does not have is warned of, and that is all -/
theorem run_announceStart_of_not_contains {start : Option String}
    (h : ∀ name, start = some name → g.contains name = false) (log : Log.Filter) (s : Session) :
    ∃ warned, (announceStart log g start : ExceptT Fault (StateM Session) Unit).run.run s
      = (.ok (), { s with warned := warned }) := by
  cases start with
  | none => exact ⟨s.warned, rfl⟩
  | some name =>
    have hlacks : g.lacks (some name) = true := by rw [Graph.lacks, Option.any_some, h name rfl]; rfl
    rw [announceStart, if_pos hlacks]
    split
    · exact ⟨s.warned ++ [startNotFound], rfl⟩
    · exact ⟨s.warned, rfl⟩

/-- so the drawing is the one without a start -/
theorem run_draw_of_not_contains {log : Log.Filter} {start : Option String} {only : Bool}
    {output : String} (h : ∀ name, start = some name → g.contains name = false)
    {r : Except Fault Unit}
    (hrun : (announceStart log g start >>= fun _ => draw st (g.select start only) output :
      ExceptT Fault (StateM Session) Unit).run.run s = (r, s')) :
    ∃ warned, (announceStart log g none >>= fun _ => draw st (g.select none only) output :
      ExceptT Fault (StateM Session) Unit).run.run s = (r, { s' with warned := warned }) := by
  obtain ⟨warned, hw⟩ := run_announceStart_of_not_contains h log s
  have hnone : (announceStart log g none : ExceptT Fault (StateM Session) Unit).run.run s
      = (.ok (), s) := rfl
  rw [run_bind_ok hw, Graph.select_of_not_contains h, ignoresWarnings_draw] at hrun
  rw [run_bind_ok hnone]
  generalize (draw st (g.select none only) output :
    ExceptT Fault (StateM Session) Unit).run.run s = p at hrun ⊢
  cases hrun
  exact ⟨p.2.warned, rfl⟩

theorem run_drawRequested_of_not_contains {log : Log.Filter} {request : RenderRequest}
    (h : ∀ name, request.start = some name → g.contains name = false) {r : Except Fault Unit}
    (hrun : (drawRequested log request st g : ExceptT Fault (StateM Session) Unit).run.run s
      = (r, s')) :
    ∃ warned, (drawRequested log { request with start := none } st g :
      ExceptT Fault (StateM Session) Unit).run.run s = (r, { s' with warned := warned }) := by
  unfold drawRequested at hrun ⊢
  cases hlist : request.listEntryPoints with
  | false =>
    rw [hlist] at hrun
    exact run_draw_of_not_contains h hrun
  | true =>
    rw [hlist] at hrun
    have hsay : Ends (sayAll (entryPointLines g)).run s _ fun _ _ => False := sayAll_ends _
    rcases hlines : (sayAll (entryPointLines g) : ExceptT Fault (StateM Session) Unit).run.run s
      with ⟨fault | _, s₁⟩
    · exact (hsay.fail_of_run hlines).elim
    · obtain ⟨warned, hw⟩ := run_draw_of_not_contains h ((run_bind_ok hlines).symm.trans hrun)
      exact ⟨warned, (run_bind_ok hlines).trans hw⟩

/-! ### what is drawn -/

/-- **What a drawing shows.**  A start that the graph does not have draws what is drawn without it,
with nothing highlighted, and leaves the same files.  From a start that it has, the flows are drawn
that leave what the start leads to in the whole graph, but only those between different modules if
the settings or the request say so.  The vertices are those that the start leads to, or then the ends
of the flows that are drawn, and the start is highlighted if it is among them. -/
theorem render_shows {log : Log.Filter} {verbose : Bool} {request : RenderRequest} {s s' : Session}
    (hdot : Target.ofPath request.output = .dot)
    (h : (execute log ⟨verbose, .render request⟩ : StateM Session (Except Fault Unit)).run s
      = (.ok (), s')) :
    ∃ (st : Settings) (g : Graph) (t : FileTree) (d : Diagram), Draws s verbose request st g t
      ∧ s'.tree.read s.base request.output = .ok (Text.utf8 d.dot)
      ∧ ((∀ name, request.start = some name → name ∉ g.vertices.map Handler.name) →
        (∃ s₂, (execute log ⟨verbose, .render { request with start := none }⟩ :
            StateM Session (Except Fault Unit)).run s = (.ok (), s₂) ∧ s₂.tree = s'.tree)
        ∧ ∀ n ∈ d.nodes, n.classColor = Diagram.plainColor)
      ∧ ∀ v ∈ g.vertices, request.start = some v.name →
        ∃ (vertices : List Handler) (flows : List Flow), d.Shows vertices flows
          ∧ vertices.Nodup ∧ flows.Nodup
          ∧ (∀ f, f ∈ flows ↔ f ∈ g.flows ∧ g.Leads v.name f.source.name
            ∧ ((st.diagram.interModuleOnly || request.interModuleOnly) = true →
              f.source.moduleKey ≠ f.target.moduleKey))
          ∧ (∀ x, x ∈ vertices ↔ if st.diagram.interModuleOnly || request.interModuleOnly then
              ∃ f ∈ flows, f.source = x ∨ f.target = x
            else x ∈ g.vertices ∧ g.Leads v.name x.name)
          ∧ ∀ n ∈ d.nodes, n.classColor
            = if n.id = v.name then st.diagram.highlightColor else Diagram.plainColor := by
  rcases render_reaches log verbose request s with
    ⟨phase, fault, s₁, _, hfail⟩ | ⟨st, g, s₁, hd, hlater, hrun⟩
  · cases hfail.symm.trans (executeByPhase_of_ok h)
  obtain ⟨_, hlater⟩ := hlater
  obtain ⟨_, hobtained⟩ := hd.obtained
  have hg : g.WellFormed := hobtained.wellFormed
  have hdraw := (hrun request.start).symm.trans h
  have hends := drawRequested_ends (s := s₁) log (request.adjust st) g (enginesWriteOnly_of_dot hdot)
  obtain ⟨_, _, hwrote⟩ := hends.ok_of_run hdraw
  rw [hlater.base] at hwrote
  refine ⟨st, g, s₁.tree,
    (g.select request.start (request.adjust st).diagram.interModuleOnly).diagram
      (request.adjust st).diagram, hd, (hwrote hdot).read, fun hstart => ?_, fun v hv hstart => ?_⟩
  · have hc : ∀ name, request.start = some name → g.contains name = false := fun name hname =>
      Bool.eq_false_iff.mpr fun hcon => hstart name hname (Graph.contains_iff.mp hcon)
    obtain ⟨warned, hnone⟩ := run_drawRequested_of_not_contains hc hdraw
    refine ⟨⟨_, (hrun none).trans hnone, rfl⟩, fun n hn => ?_⟩
    rw [Graph.select_of_not_contains hc] at hn
    rw [Selection.classColor_of_mem_nodes hn, Graph.highlight_select_none]
    exact if_neg nofun
  · rw [hstart]
    exact hg.shows_select hv (request.adjust st).diagram _

/-- a working directory with a stored graph and no settings -/
def archive : FileTree := ⟨[(["d"], .file (Snapshot.encode Graph.knot) false)]⟩

/-- the request to draw what `d` leads to, without the flow from `d` to itself -/
def followD : RenderRequest := ⟨none, some "d", "o.dot", some "d", true, false, none, none⟩

theorem foundSettings_archive : foundSettings archive [] none = .ok .standard := by
  have hn : FileTree.Bare Settings.standardFile := .of_chars (by decide)
  rw [foundSettings, view_settingsLoad, hn.read_error rfl rfl]

theorem view_load_archive : archive.view [] (Snapshot.load "d") = .ok Graph.knot := by
  have hd : FileTree.Bare "d" := .of_chars (by decide)
  have hg : Graph.knot.WellFormed := by decide
  have hlen : (Snapshot.encode Graph.knot).length ≤ Snapshot.maxLength := by
    rw [Snapshot.encode, Snapshot.length_envelope]
    decide
  exact view_load_stored hg hlen (hd.read rfl rfl)

theorem run_archive : ∃ s', (execute .standard ⟨false, .render followD⟩ :
    StateM Session (Except Fault Unit)).run (calm archive []) = (.ok (), s') := by
  have ho : FileTree.Bare "o.dot" := .of_chars (by decide)
  have hput : archive.Written FileTree.linkLimit [] "o.dot" ["o.dot"] :=
    ho.written rfl fun e he => by cases he
  have hgives := gives_render followD .standard false foundSettings_archive
    (gives_obtain_stored false view_load_archive)
    (gives_write (Target.ofPath_eq_dot (by decide)) (FileTree.gives_makeRoom_bare ho)
      (FileTree.writePlace_eq_ok_iff.mpr hput))
  obtain ⟨s', hrun, _⟩ := hgives.run (s := calm archive []) rfl
  exact ⟨s', hrun⟩

/-- the start leads to itself through `a`, so it is drawn, but `e` only leads to it -/
theorem render_shows_archive : ∃ (s' : Session) (d : Diagram) (vertices : List Handler)
    (flows : List Flow),
    (execute .standard ⟨false, .render followD⟩ : StateM Session (Except Fault Unit)).run
      (calm archive []) = (.ok (), s')
    ∧ s'.tree.read [] "o.dot" = .ok (Text.utf8 d.dot) ∧ d.Shows vertices flows
    ∧ Handler.ofName 1 "d" ∈ vertices ∧ Handler.ofName 1 "e" ∉ vertices
    ∧ ⟨Handler.ofName 1 "d", Handler.ofName 1 "a", .ofName "m"⟩ ∈ flows
    ∧ ⟨Handler.ofName 1 "d", Handler.ofName 1 "d", .ofName "m"⟩ ∉ flows
    ∧ ∀ n ∈ d.nodes, n.classColor = if n.id = "d" then "#FFD700" else "white" := by
  obtain ⟨s', hrun⟩ := run_archive
  obtain ⟨st, g, t, d, hd, hread, _, hshows⟩ := render_shows (Target.ofPath_eq_dot (by decide)) hrun
  have hst : st = .standard := by
    have h1 := hd.configured.resolve_right fun h => h.2.1 rfl
    exact Except.ok.inj (h1.symm.trans foundSettings_archive)
  subst hst
  obtain ⟨_, hobtained⟩ := hd.obtained
  cases hobtained with
  | loaded hload =>
    cases (show Except.ok g = Except.ok Graph.knot from hload.symm.trans view_load_archive)
    obtain ⟨vertices, flows, hs, _, _, hflows, hvertices, hcolors⟩ :=
      hshows (Handler.ofName 1 "d") (by decide) rfl
    have hda : ⟨Handler.ofName 1 "d", Handler.ofName 1 "a", .ofName "m"⟩ ∈ flows :=
      (hflows _).mpr ⟨by decide, .refl, fun _ => by decide⟩
    refine ⟨s', d, vertices, flows, hrun, hread, hs, ?_, fun he => ?_, hda, fun hdd => ?_, hcolors⟩
    · exact (hvertices _).mpr ⟨_, hda, .inl rfl⟩
    · -- no flow ends at `e`, so nothing else leads there
      have hends : ∀ f ∈ Graph.knot.flows, f.target.name ≠ "e" := by decide
      obtain ⟨f, hf, he | he⟩ := (hvertices _).mp he
      · have hl := ((hflows f).mp hf).2.1
        rw [he] at hl
        rcases hl.cases_tail with h | ⟨_, _, f', hf', _, h⟩
        · exact absurd h (by decide)
        · exact hends f' hf' h
      · exact hends f ((hflows f).mp hf).1 (congrArg Handler.name he)
    · exact ((hflows _).mp hdd).2.2 rfl rfl

end Command

end MessageFlow
