import MessageFlow.Proofs.Graph.Agreement

/-!
# Walks of walks

A walk is closed: whatever its start leads to leads in the walk where it leads in the graph.  So it
does not matter whether one goes on from a vertex in the graph or in a walk that came there, although
the walk has its edges in another order.

* `WellFormed.leads_walkFrom_iff`   where the vertices of a walk lead;
* `WellFormed.sameContent_walkFrom_walkFrom`, `WellFormed.part_walkFrom_walkFrom`   the walk from a
  vertex of a walk;
* `WellFormed.sameContent_walkFrom_iff`   starts whose walks have the same content;
* `walkFrom_walkFrom`   walking composes.
-/

namespace MessageFlow.Graph

variable {g : Graph} {a b : String}

theorem Leads.trans {c : String} (h : g.Leads a b) (h' : g.Leads b c) : g.Leads a c :=
  Relation.ReflTransGen.trans h h'

section
variable (hg : g.WellFormed)
include hg

/-- what the start leads to leads in the walk where it leads in the graph -/
theorem WellFormed.leads_walkFrom_iff {start : String} (ha : g.Leads start a) :
    (g.walkFrom start).Leads a b ↔ g.Leads a b := by
  constructor
  · exact fun hl => hl.mono (hg.part_walkFrom start).flows_subset
  · intro hl
    induction hl with
    | refl => exact .refl
    | tail hac hcd ih =>
      obtain ⟨f, hf, rfl, rfl⟩ := hcd
      exact .tail ih ⟨f, hg.mem_flows_walkFrom_iff.mpr ⟨hf, ha.trans hac⟩, rfl, rfl⟩

/-- a walk that goes on where another one came comes where it comes in the graph -/
theorem WellFormed.sameContent_walkFrom_walkFrom (h : g.Leads a b) :
    SameContent ((g.walkFrom a).walkFrom b) (g.walkFrom b) := by
  have hw : (g.walkFrom a).WellFormed := WellFormed.walkFrom g a
  apply SameContent.of_flows
  · intro v
    rw [hw.mem_vertices_walkFrom_iff, hg.mem_vertices_walkFrom_iff, hg.mem_vertices_walkFrom_iff,
      hg.leads_walkFrom_iff h]
    exact ⟨fun ⟨⟨hv, _⟩, hl⟩ => ⟨hv, hl⟩, fun ⟨hv, hl⟩ => ⟨⟨hv, h.trans hl⟩, hl⟩⟩
  · intro f
    rw [hw.mem_flows_walkFrom_iff, hg.mem_flows_walkFrom_iff, hg.mem_flows_walkFrom_iff,
      hg.leads_walkFrom_iff h]
    exact ⟨fun ⟨⟨hf, _⟩, hl⟩ => ⟨hf, hl⟩, fun ⟨hf, hl⟩ => ⟨⟨hf, h.trans hl⟩, hl⟩⟩

theorem WellFormed.part_walkFrom_walkFrom (h : g.Leads a b) :
    Part (g.walkFrom b) (g.walkFrom a) where
  wellFormed := WellFormed.walkFrom g b
  vertices_subset := by
    intro v hv
    obtain ⟨hv, hl⟩ := hg.mem_vertices_walkFrom_iff.mp hv
    exact hg.mem_vertices_walkFrom_iff.mpr ⟨hv, h.trans hl⟩
  flows_subset := by
    intro f hf
    obtain ⟨hf, hl⟩ := hg.mem_flows_walkFrom_iff.mp hf
    exact hg.mem_flows_walkFrom_iff.mpr ⟨hf, h.trans hl⟩

/-- a start is in its own walk, so walks with the same content lead to each other's starts -/
theorem WellFormed.sameContent_walkFrom_iff {v w : Handler} (hv : v ∈ g.vertices)
    (hw : w ∈ g.vertices) : SameContent (g.walkFrom v.name) (g.walkFrom w.name) ↔
      g.Leads v.name w.name ∧ g.Leads w.name v.name := by
  constructor
  · intro hs
    have h1 : v ∈ (g.walkFrom v.name).vertices := hg.mem_vertices_walkFrom_iff.mpr ⟨hv, .refl⟩
    have h2 : w ∈ (g.walkFrom w.name).vertices := hg.mem_vertices_walkFrom_iff.mpr ⟨hw, .refl⟩
    exact ⟨(hg.mem_vertices_walkFrom_iff.mp ((hs.vertices w).mpr h2)).2,
      (hg.mem_vertices_walkFrom_iff.mp ((hs.vertices v).mp h1)).2⟩
  · intro ⟨hvw, hwv⟩
    have h1 := hg.part_walkFrom_walkFrom hvw
    have h2 := hg.part_walkFrom_walkFrom hwv
    exact .of_flows (fun x => ⟨h2.vertices_subset x, h1.vertices_subset x⟩)
      (fun f => ⟨h2.flows_subset f, h1.flows_subset f⟩)

end

theorem leadsTo_and_leadsTo_iff {i j : Nat} :
    g.LeadsTo i j ∧ g.LeadsTo j i ↔ i = j ∨ (g.Reaches i j ∧ g.Reaches j i) := by
  constructor
  · rintro ⟨rfl | h, h'⟩
    · exact .inl rfl
    · exact h'.imp id fun h' => ⟨h, h'⟩
  · rintro (rfl | ⟨h, h'⟩)
    · exact ⟨.inl rfl, .inl rfl⟩
    · exact ⟨.inr h, .inr h'⟩

/-- **Walking composes.**  From a vertex that a walk came to, a walk in this walk agrees with a walk in
the graph, and is a part of the first one.  So walking again from the same start changes nothing.
Walks from two vertices agree if and only if these are the same or each is reachable from the other. -/
theorem walkFrom_walkFrom (hg : g.WellFormed) {i : Nat} {v : Handler}
    (hi : g.vertices[i]? = some v) :
    (∀ w ∈ (g.walkFrom v.name).vertices,
      ((g.walkFrom v.name).walkFrom w.name == g.walkFrom w.name) = true
      ∧ Part (g.walkFrom w.name) (g.walkFrom v.name))
    ∧ ((g.walkFrom v.name).walkFrom v.name == g.walkFrom v.name) = true
    ∧ ∀ j w, g.vertices[j]? = some w →
      ((g.walkFrom v.name == g.walkFrom w.name) = true ↔
        v = w ∨ (g.Reaches i j ∧ g.Reaches j i)) := by
  have again : ∀ w, g.Leads v.name w →
      ((g.walkFrom v.name).walkFrom w == g.walkFrom w) = true := by
    intro w hl
    exact ((WellFormed.walkFrom _ w).agrees_iff_sameContent (WellFormed.walkFrom g w)).mpr
      (hg.sameContent_walkFrom_walkFrom hl)
  refine ⟨?_, again v.name .refl, ?_⟩
  · intro w hw
    have hl : g.Leads v.name w.name := (hg.mem_vertices_walkFrom_iff.mp hw).2
    exact ⟨again w.name hl, hg.part_walkFrom_walkFrom hl⟩
  · intro j w hj
    have hv : v ∈ g.vertices := List.mem_of_getElem? hi
    have hw : w ∈ g.vertices := List.mem_of_getElem? hj
    have hij : v = w ↔ i = j := by
      constructor
      · rintro rfl
        exact hg.position_inj hi hj rfl
      · rintro rfl
        exact Option.some.inj (hi.symm.trans hj)
    show (g.walkFrom v.name).agrees (g.walkFrom w.name) = true ↔ _
    rw [(WellFormed.walkFrom g v.name).agrees_iff_sameContent (WellFormed.walkFrom g w.name),
      hg.sameContent_walkFrom_iff hv hw, ← hg.leadsTo_iff hi hj, ← hg.leadsTo_iff hj hi,
      leadsTo_and_leadsTo_iff, hij]

/-- `a` and `d` lead to each other, and `e` leads to both, but nothing leads to `e` -/
theorem walkFrom_walkFrom_knot :
    knot.WellFormed ∧ knot.vertices[0]? = some (Handler.ofName 1 "a")
    ∧ ((knot.walkFrom "a").walkFrom "d" == knot.walkFrom "d") = true
    ∧ (knot.walkFrom "a" == knot.walkFrom "d") = true
    ∧ (knot.walkFrom "a" == knot.walkFrom "e") = false := by
  have hg : knot.WellFormed := by decide
  have ha : knot.vertices[0]? = some (Handler.ofName 1 "a") := rfl
  obtain ⟨h1, -, h2⟩ := walkFrom_walkFrom hg ha
  have hab : knot.Reaches 0 1 := Reaches.edge (e := ⟨0, 1, .ofName "m"⟩) (by decide)
  have had : knot.Reaches 0 3 := Reaches.step (e := ⟨1, 3, .ofName "m"⟩) hab (by decide)
  have hda : knot.Reaches 3 0 := Reaches.edge (e := ⟨3, 0, .ofName "m"⟩) (by decide)
  have hd : (knot.walkFrom "a" == knot.walkFrom "d") = true :=
    (h2 3 (Handler.ofName 1 "d") rfl).mpr (.inr ⟨had, hda⟩)
  refine ⟨hg, ha, ?_, hd, ?_⟩
  · refine (h1 (Handler.ofName 1 "d") ?_).1
    exact (hg.mem_vertices_walkFrom ha).mpr ⟨3, .inr had, rfl⟩
  · rw [Bool.eq_false_iff]
    intro he
    rcases (h2 4 (Handler.ofName 1 "e") rfl).mp he with he | ⟨he, -⟩
    · exact absurd he (by decide)
    · have hc : ∀ e ∈ knot.edges, e.source ∈ [0, 1, 2, 3] → e.target ∈ [0, 1, 2, 3] := by decide
      exact absurd (he.mem_of_closed hc (by decide)) (by decide)

end MessageFlow.Graph
