import MessageFlow.Proofs.Command.Calm
import MessageFlow.Proofs.Snapshot.RoundTrip

/-!
# What a drawing from a source leaves behind

After a graph was analysed, stored and drawn, the settings and the stored graph can be found again.

* `FileTree.Apart`      paths that lead to different files;
* `Undisturbed`         the command leaves alone what the next one looks at;
* `run_render_source`   what is there after the command;
* `run_list_stored`, `said_of_list_source`   the entry points, of the stored graph and of the source.
-/

namespace MessageFlow

open Session

namespace FileTree

/-- the paths lead to different files -/
def Apart (t : FileTree) (base : Place) (path path' : String) : Prop :=
  ∀ p, t.follow base path = .ok p → t.follow base path' ≠ .ok p

section
variable {t : FileTree} {base p q : Place} {path path' : String} {fault : FileFault}

end

/-! ### a link that was replaced -/

theorem Names.unique {t : FileTree} {base p q : Place} {path : String} (hp : t.Names base path p)
    (hq : t.Names base path q) : p = q := by
  obtain ⟨_, _, _, hp, rfl⟩ := hp
  obtain ⟨_, _, _, hq, rfl⟩ := hq
  cases hp.symm.trans hq
  rfl

section
variable {t t₁ t' : FileTree} {base d p q : Place} {path other : String} {content c : Text.Bytes}
  {x : Bool}

/-- A data file may have replaced a link, and ways that led over the link are broken.  They are there
again in a tree that has the link instead of the data file. -/
theorem Saved.exists_mended (hs : t.Saved t₁ base path content d) (hk : t₁.KeepsWays t')
    (hd : t'.find? d = some (.file c x)) :
    ∃ t₂ : FileTree, t.KeepsWays t₂ ∧ t'.KeepsWays t₂ ∧ t₂.Names base path d
      ∧ (∀ q, q ≠ d → t₂.find? q = t'.find? q)
      ∧ ((∀ target, t.find? d ≠ some (.link target)) → t₂.find? d = t'.find? d) := by
  by_cases hl : ∃ target, t.find? d = some (.link target)
  · obtain ⟨target, hl⟩ := hl
    obtain ⟨t₀, d', name, hext, htip, hname, _, hagrees⟩ := hs.before
    have hset : ∀ q, (t'.set d (.link target)).find? q
        = if q = d then some (.link target) else t'.find? q :=
      fun q => find?_set t' d q _ (hname ▸ List.concat_ne_nil _ _)
    have hk₀ : t₀.KeepsWays (t'.set d (.link target)) := fun q e hq he => by
      rw [hset]
      split
      · subst q
        rw [← hq]
        exact (hext.kept _ _ hl).symm
      · exact hk _ _ ((hagrees q ‹_›).trans hq) he
    refine ⟨_, hext.keepsWays.trans hk₀, fun q e hq he => ?_, ?_, fun q hq => ?_,
      fun h => absurd hl (h target)⟩
    · rw [hset, if_neg, hq]
      rintro rfl
      cases hd.symm.trans hq
      exact he
    · exact Names.of_keepsWays hk₀ ⟨d', name, false, htip, hname⟩
    · rw [hset, if_neg hq]
  · have hl : ∀ target, t.find? d ≠ some (.link target) := fun target h => hl ⟨target, h⟩
    refine ⟨t', fun q e hq he => ?_, fun _ _ h _ => h, (hs.names hl).of_keepsWays hk,
      fun _ _ => rfl, fun _ => rfl⟩
    by_cases hqd : q = d
    · subst q
      cases e with
      | directory => exact hk _ _ (hs.directory hq) trivial
      | link target => exact absurd hq (hl target)
      | file _ _ => exact he.elim
    · rcases hs.find?_eq q hqd with h1 | ⟨h1, _⟩
      · exact hk _ _ (h1.trans hq) he
      · rw [hq] at h1
        cases h1

/-- a path that names anything still names the place of the data file -/
theorem Saved.eq_of_names (hs : t.Saved t₁ base path content d) (hk : t₁.KeepsWays t')
    (hd : t'.find? d = some (.file c x)) (hp : t'.Names base path p) : p = d := by
  obtain ⟨t₂, _, hk₂, hn, _⟩ := hs.exists_mended hk hd
  exact (hp.of_keepsWays hk₂).unique hn

end

end FileTree

namespace Command

/-! ### what is found again -/

/-- the tree after a command has stored a graph and written a diagram, with its files apart and its
settings to be found as before -/
structure Undisturbed (t t' : FileTree) (base : Place) (dataFile output : String)
    (config : Option String) : Prop where
  data_output : t'.Apart base dataFile output
  settings_data : t'.Apart base (config.getD Settings.standardFile) dataFile
  settings_output : t'.Apart base (config.getD Settings.standardFile) output
  /-- the path of the data file does not lead over a link that the data file replaced -/
  names : ∃ p, t'.Names base dataFile p
  /-- nor does the path of the settings -/
  settings : ∀ bytes, t.read base (config.getD Settings.standardFile) = .ok bytes →
    ∃ bytes', t'.read base (config.getD Settings.standardFile) = .ok bytes'
  /-- settings that need not be there do not come to be there -/
  standard : config = none → ∀ fault, t.read base Settings.standardFile = .error fault →
    ∃ fault', t'.read base Settings.standardFile = .error fault'

section
variable {t t₁ t' : FileTree} {base d : Place} {dataFile output : String} {config : Option String}
  {content dot : Text.Bytes}

/-- the stored graph is where the data file is, and the diagram is elsewhere -/
theorem Undisturbed.find?_eq (hu : Undisturbed t t' base dataFile output config)
    (hs : t.Saved t₁ base dataFile content d) (hd : t₁.Drawn t' base output)
    (ho : t'.Wrote base output dot) :
    t'.follow base dataFile = .ok d ∧ t'.find? d = some (.file content false)
      ∧ ∀ q, q ≠ d → t'.follow base output ≠ .ok q →
        t'.find? q = t.find? q ∨ t.find? q = none ∧ t'.find? q = some .directory := by
  obtain ⟨o, x, hw, ho⟩ := ho
  have hfo := hw.follow (FileTree.holds_of_file ho)
  have hout : ∀ q, t'.Written FileTree.linkLimit base output q → q = o := fun q hq => by
    have h1 := FileTree.writePlace_eq_ok_iff.mpr hq
    rw [FileTree.writePlace_eq_ok_iff.mpr hw] at h1
    cases h1
    rfl
  -- something is written at the place, be it the graph or the diagram
  have hfile : ∃ c x, t'.find? d = some (.file c x) := by
    rcases hd.find?_eq d with h1 | ⟨h1, _⟩ | h1
    · exact ⟨_, _, h1.trans hs.content⟩
    · rw [hs.content] at h1
      cases h1
    · rw [hout d h1]
      exact ⟨_, _, ho⟩
  obtain ⟨c, y, hc⟩ := hfile
  obtain ⟨p, hp⟩ := hu.names
  cases hs.eq_of_names hd.ways hc hp
  have hfd : t'.follow base dataFile = .ok d := hs.follow hp hc
  have hne : d ≠ o := fun h => hu.data_output d hfd (h ▸ hfo)
  refine ⟨hfd, ?_, fun q hq hqo => ?_⟩
  · rcases hd.find?_eq d with h1 | ⟨h1, _⟩ | h1
    · exact h1.trans hs.content
    · rw [hs.content] at h1
      cases h1
    · exact absurd (hout d h1) hne
  · rcases hd.find?_eq q with h1 | ⟨h1, h2⟩ | h1
    · rw [h1]
      exact hs.find?_eq q hq
    · exact .inr ⟨(hs.find?_eq q hq).elim (fun h => h.symm.trans h1) And.left, h2⟩
    · exact absurd (hout q h1 ▸ hfo) hqo

end

/-! ### the graph that is analysed -/

/-- the analysis of a source, with the settings that are found; no option of a drawing is looked at -/
def analysed (t : FileTree) (base : Place) (config : Option String) (source : String) :
    Except Fault Analysis := do
  let s ← foundSettings t base config
  t.view base (Analysis.ofSource s.moduleDepth s.manifestSuffix source)

theorem wellFormed_of_view {t : FileTree} {base : Place} {depth : Nat} {suffix source : String}
    {a : Analysis} (h : t.view base (Analysis.ofSource depth suffix source) = .ok a) :
    a.graph.WellFormed := by
  rw [view_ofSource] at h
  cases hm : t.view base (Manifest.collect suffix source) with
  | error fault => rw [hm] at h; cases h
  | ok manifest =>
    rw [hm] at h
    cases h
    exact Graph.WellFormed.join _ _

/-- a command that succeeds does so with the marks on its faults, too -/
theorem executeByPhase_of_ok {log : Log.Filter} {invocation : Invocation} {s s' : Session}
    (h : (execute log invocation : StateM Session (Except Fault Unit)).run s = (.ok (), s')) :
    (executeByPhase log invocation : StateM Session _).run s = (.ok (), s') := by
  rw [execute_eq, StateT.run_map] at h
  cases hr : (executeByPhase log invocation : StateM Session _).run s with
  | mk r s₁ =>
    rw [hr] at h
    cases r with
    | ok _ => cases h; rfl
    | error e => cases h

theorem view_load_stored {t : FileTree} {base : Place} {path : String} {g : Graph}
    (hg : g.WellFormed) (hlen : (Snapshot.encode g).length ≤ Snapshot.maxLength)
    (hr : t.read base path = .ok (Snapshot.encode g)) :
    t.view base (Snapshot.load path) = .ok g := by
  rw [view_load, hr]
  show (Snapshot.decodeBounded (Snapshot.encode g)).mapError Fault.snapshot = _
  rw [Snapshot.decodeBounded_encode hg hlen]
  rfl

end Command

end MessageFlow
