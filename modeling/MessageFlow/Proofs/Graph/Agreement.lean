import Mathlib.Logic.Relation
import MessageFlow.Proofs.Graph.Growth
import MessageFlow.Proofs.Graph.Sorted
import MessageFlow.Proofs.Graph.Walk

/-!
# When graphs agree

Two well-formed graphs agree if and only if they have the same vertices, with all that these tell,
and flows with the same labels (`SameContent`).  Whatever is done to both of them in the same way,
they agree afterwards: no operation and no view looks at the order in which a graph was built.

* `WellFormed.agrees_iff_sameContent`   agreement is sameness of content;
* `mem_upsert_congr`                    what is added to lists with the same members;
* `Leads`                               what leads where, told by names instead of positions;
* `SameContent.addVertex`, `SameContent.addFlow`, `SameContent.walkFrom`, `SameContent.interModule`,
  `SameContent.sortedFlows`             the operations and views keep the content the same.
-/

namespace MessageFlow

/-! ### lists with the same members -/

section
variable {α κ : Type} [DecidableEq κ] {key : α → κ} {k l : List α}

/-- lists with distinct keys have the same members if what is found under each key is the same -/
theorem forall_find?_eq_iff (hk : (k.map key).Nodup) (hl : (l.map key).Nodup) :
    (∀ a, k.find? (key · = a) = l.find? (key · = a)) ↔ ∀ x, x ∈ k ↔ x ∈ l := by
  constructor
  · intro h x
    have h1 := find?_eq_some_iff_mem (k := key x) (x := x) hk
    have h2 := find?_eq_some_iff_mem (k := key x) (x := x) hl
    rw [h (key x)] at h1
    simpa using h1.symm.trans h2
  · intro h a
    apply Option.ext
    intro x
    rw [find?_eq_some_iff_mem hk, find?_eq_some_iff_mem hl, h x]

theorem mem_upsert_congr {join : α → α → α} (hj : ∀ y x, key (join y x) = key y)
    (hk : (k.map key).Nodup) (hl : (l.map key).Nodup) (h : ∀ x, x ∈ k ↔ x ∈ l) (x : α) :
    ∀ y, y ∈ upsert key join x k ↔ y ∈ upsert key join x l := by
  apply (forall_find?_eq_iff (nodup_upsert key join hj hk x) (nodup_upsert key join hj hl x)).mp
  intro a
  rw [find?_upsert key join hj, find?_upsert key join hj, (forall_find?_eq_iff hk hl).mpr h]

end

namespace Graph

/-- the same vertices, with all that they tell, and flows with the same labels, in whatever order -/
structure SameContent (g h : Graph) : Prop where
  vertices : ∀ v, v ∈ g.vertices ↔ v ∈ h.vertices
  labels : ∀ l, l ∈ g.flows.map Flow.label ↔ l ∈ h.flows.map Flow.label

variable {g h k : Graph}

theorem SameContent.refl (g : Graph) : SameContent g g := ⟨fun _ => Iff.rfl, fun _ => Iff.rfl⟩

theorem SameContent.symm (hs : SameContent g h) : SameContent h g :=
  ⟨fun v => (hs.vertices v).symm, fun l => (hs.labels l).symm⟩

theorem SameContent.trans (hs : SameContent g h) (ht : SameContent h k) : SameContent g k :=
  ⟨fun v => (hs.vertices v).trans (ht.vertices v), fun l => (hs.labels l).trans (ht.labels l)⟩

theorem SameContent.of_flows (hv : ∀ v, v ∈ g.vertices ↔ v ∈ h.vertices)
    (hf : ∀ f, f ∈ g.flows ↔ f ∈ h.flows) : SameContent g h where
  vertices := hv
  labels := by
    intro l
    simp only [List.mem_map, hf]

/-! ### views -/

theorem SameContent.mem_flows_of (hg : g.WellFormed) (hs : SameContent g h) {f : Flow}
    (hf : f ∈ g.flows) : f ∈ h.flows := by
  obtain ⟨f', hf', hl⟩ := List.mem_map.mp ((hs.labels f.label).mp (List.mem_map_of_mem hf))
  obtain ⟨hn, hl⟩ := Prod.mk.inj hl
  obtain ⟨hn', hm⟩ := Prod.mk.inj hl
  have h1 : f'.source = f.source := hg.vertex_inj
    ((hs.vertices _).mpr (source_mem_of_mem_flows hf')) (source_mem_of_mem_flows hf) hn
  have h2 : f'.target = f.target := hg.vertex_inj
    ((hs.vertices _).mpr (target_mem_of_mem_flows hf')) (target_mem_of_mem_flows hf) hn'
  obtain ⟨source, target, message⟩ := f
  obtain ⟨source', target', message'⟩ := f'
  simp only at h1 h2 hm
  subst h1 h2 hm
  exact hf'

section
variable (hg : g.WellFormed) (hh : h.WellFormed) (hs : SameContent g h)
include hg hh hs

/-- flows with the same labels between the same vertices are the same -/
theorem SameContent.mem_flows (f : Flow) : f ∈ g.flows ↔ f ∈ h.flows :=
  ⟨hs.mem_flows_of hg, hs.symm.mem_flows_of hh⟩

theorem SameContent.vertices_perm : g.vertices.Perm h.vertices :=
  (List.perm_ext_iff_of_nodup hg.nodup_vertices hh.nodup_vertices).mpr hs.vertices

theorem SameContent.flows_perm : g.flows.Perm h.flows :=
  (List.perm_ext_iff_of_nodup hg.flows_nodup hh.flows_nodup).mpr (hs.mem_flows hg hh)

theorem SameContent.sortedFlows : g.sortedFlows = h.sortedFlows :=
  sortedFlows_eq (h.sortedFlows_perm.trans (hs.flows_perm hg hh).symm) hh.sortedFlows_strict

theorem SameContent.entryPoints : g.entryPoints = h.entryPoints := by
  rw [Graph.entryPoints, Graph.entryPoints,
    hg.sortedVertices_of_perm (hs.vertices_perm hg hh)]

theorem SameContent.stats : g.stats = h.stats := by
  rw [Graph.stats, Graph.stats, vertexCount, vertexCount, edgeCount, edgeCount,
    (hs.vertices_perm hg hh).length_eq, ← hg.length_flows, ← hh.length_flows,
    (hs.flows_perm hg hh).length_eq, modules_of_perm (hs.vertices_perm hg hh),
    hs.entryPoints hg hh]

end

/-- agreement is sameness of content -/
theorem WellFormed.agrees_iff_sameContent (hg : g.WellFormed) (hh : h.WellFormed) :
    g.agrees h = true ↔ SameContent g h := by
  constructor
  · intro ha
    have h1 := (g.sortedFlows_perm.map Flow.label).symm
    rw [labels_of_agrees ha] at h1
    have h2 := h1.trans (h.sortedFlows_perm.map Flow.label)
    exact ⟨fun _ => (hg.perm_of_agrees ha).mem_iff, fun _ => h2.mem_iff⟩
  · intro hs
    refine agrees_iff.mpr ⟨(hs.vertices_perm hg hh).length_eq, ?_, ?_, ?_⟩
    · rw [← hg.length_flows, ← hh.length_flows, (hs.flows_perm hg hh).length_eq]
    · intro v hv
      exact hh.vertex?_of_mem ((hs.vertices v).mp hv)
    · rw [hs.sortedFlows hg hh]

/-! ### adding vertices and flows -/

section
variable (hg : g.WellFormed) (hh : h.WellFormed) (hs : SameContent g h)
include hg hh hs

theorem SameContent.addVertex (v : Handler) :
    SameContent (g.addVertex v).1 (h.addVertex v).1 where
  vertices := by
    rw [vertices_addVertex, vertices_addVertex]
    exact mem_upsert_congr Handler.name_absorb hg.names_nodup hh.names_nodup hs.vertices v
  labels := by
    rw [hg.labels_addVertex, hh.labels_addVertex]
    exact hs.labels

theorem SameContent.addFlow (f : Flow) : SameContent (g.addFlow f).1 (h.addFlow f).1 where
  vertices := by
    have h1 := (hs.addVertex hg hh f.source).addVertex (hg.addVertex f.source)
      (hh.addVertex f.source) f.target
    have h2 : ∀ x : Graph, (x.addFlow f).1.vertices =
        ((x.addVertex f.source).1.addVertex f.target).1.vertices := by
      intro x
      exact vertices_addEdge _ _ _ _
    rw [h2, h2]
    exact h1.vertices
  labels := by
    have h1 : ∀ x : Graph, x.WellFormed → ((x.flows.map Flow.label).map labelKey).Nodup := by
      intro x hx
      rw [map_labelKey_labels]
      exact hx.flow_keys_nodup
    rw [hg.labels_addFlow, hh.labels_addFlow]
    exact mem_upsert_congr labelKey_labelAbsorb (h1 g hg) (h1 h hh) hs.labels f.label

/-- both take a flow for new, or neither does -/
theorem SameContent.addFlow_answer (f : Flow) : (g.addFlow f).2 = (h.addFlow f).2 := by
  rw [Bool.eq_iff_iff, hg.addFlow_eq_true_iff, hh.addFlow_eq_true_iff,
    ((hs.flows_perm hg hh).map Flow.key).mem_iff]

end

/-! ### walks -/

/-- flows lead from the vertex of one name to that of the other -/
def Leads (g : Graph) : String → String → Prop :=
  Relation.ReflTransGen fun a b => ∃ f ∈ g.flows, f.source.name = a ∧ f.target.name = b

section
variable {i j : Nat} {v w : Handler}

theorem WellFormed.leads_of_reaches (hg : g.WellFormed) (h : g.Reaches i j)
    (hi : g.vertices[i]? = some v) (hj : g.vertices[j]? = some w) : g.Leads v.name w.name := by
  induction h generalizing w with
  | edge he =>
    obtain ⟨f, hf⟩ := hg.exists_flow? he
    obtain ⟨hs, ht, -⟩ := flow?_eq_some_iff.mp hf
    rw [hi, Option.some_inj] at hs
    rw [hj, Option.some_inj] at ht
    exact .single ⟨f, mem_flows.mpr ⟨_, he, hf⟩, by rw [hs], by rw [ht]⟩
  | step _ he ih =>
    obtain ⟨f, hf⟩ := hg.exists_flow? he
    obtain ⟨hs, ht, -⟩ := flow?_eq_some_iff.mp hf
    rw [hj, Option.some_inj] at ht
    exact .tail (ih hi hs) ⟨f, mem_flows.mpr ⟨_, he, hf⟩, rfl, by rw [ht]⟩

theorem WellFormed.leadsTo_of_leads (hg : g.WellFormed) {a : String} (h : g.Leads v.name a)
    (hi : g.vertices[i]? = some v) (hj : g.vertices[j]? = some w) (ha : w.name = a) :
    g.LeadsTo i j := by
  induction h generalizing j w with
  | refl => exact .inl (hg.position_inj hj hi ha)
  | tail _ hb ih =>
    obtain ⟨f, hf, hs, ht⟩ := hb
    obtain ⟨e, he, hfe⟩ := mem_flows.mp hf
    obtain ⟨hs', ht', -⟩ := flow?_eq_some_iff.mp hfe
    rw [hg.position_inj hj ht' (ha.trans ht.symm)]
    exact (ih hs' hs).edge he

/-- names lead where positions lead -/
theorem WellFormed.leadsTo_iff (hg : g.WellFormed) (hi : g.vertices[i]? = some v)
    (hj : g.vertices[j]? = some w) : g.LeadsTo i j ↔ g.Leads v.name w.name := by
  constructor
  · intro h
    rcases h with rfl | h
    · rw [hi, Option.some_inj] at hj
      rw [hj]
      exact .refl
    · exact hg.leads_of_reaches h hi hj
  · intro h
    exact hg.leadsTo_of_leads h hi hj rfl

end

/-- more flows lead further -/
theorem Leads.mono (hf : ∀ f ∈ g.flows, f ∈ h.flows) {a b : String} (hl : g.Leads a b) :
    h.Leads a b := by
  refine Relation.ReflTransGen.mono ?_ a b hl
  rintro c d ⟨f, hfg, hc, hd⟩
  exact ⟨f, hf f hfg, hc, hd⟩

theorem SameContent.leads (hg : g.WellFormed) (hs : SameContent g h) {a b : String}
    (hl : g.Leads a b) : h.Leads a b :=
  hl.mono fun _ hf => hs.mem_flows_of hg hf

/-- what leads to a vertex is one -/
theorem Leads.start_mem {a b : String} (hl : g.Leads a b) (hb : b ∈ g.vertices.map Handler.name) :
    a ∈ g.vertices.map Handler.name := by
  rcases Relation.ReflTransGen.cases_head hl with rfl | ⟨c, ⟨f, hf, rfl, -⟩, -⟩
  · exact hb
  · exact List.mem_map_of_mem (source_mem_of_mem_flows hf)

section
variable (hg : g.WellFormed) {start : String}
include hg

theorem WellFormed.mem_vertices_walkFrom_iff {v : Handler} :
    v ∈ (g.walkFrom start).vertices ↔ v ∈ g.vertices ∧ g.Leads start v.name := by
  by_cases hn : start ∈ g.vertices.map Handler.name
  · obtain ⟨s, hs, rfl⟩ := List.mem_map.mp hn
    obtain ⟨i, hi⟩ := List.mem_iff_getElem?.mp hs
    rw [hg.mem_vertices_walkFrom hi]
    constructor
    · rintro ⟨j, hl, hj⟩
      exact ⟨List.mem_of_getElem? hj, (hg.leadsTo_iff hi hj).mp hl⟩
    · rintro ⟨hm, hl⟩
      obtain ⟨j, hj⟩ := List.mem_iff_getElem?.mp hm
      exact ⟨j, (hg.leadsTo_iff hi hj).mpr hl, hj⟩
  · rw [walkFrom_of_not_mem hn]
    constructor
    · exact fun h => (List.not_mem_nil h).elim
    · exact fun ⟨hv, hl⟩ => absurd (hl.start_mem (List.mem_map_of_mem hv)) hn

theorem WellFormed.mem_flows_walkFrom_iff {f : Flow} :
    f ∈ (g.walkFrom start).flows ↔ f ∈ g.flows ∧ g.Leads start f.source.name := by
  by_cases hn : start ∈ g.vertices.map Handler.name
  · obtain ⟨s, hs, rfl⟩ := List.mem_map.mp hn
    obtain ⟨i, hi⟩ := List.mem_iff_getElem?.mp hs
    rw [hg.mem_flows_walkFrom hi, mem_flows]
    constructor
    · rintro ⟨e, he, hl, hf⟩
      exact ⟨⟨e, he, hf⟩, (hg.leadsTo_iff hi (flow?_eq_some_iff.mp hf).1).mp hl⟩
    · rintro ⟨⟨e, he, hf⟩, hl⟩
      exact ⟨e, he, (hg.leadsTo_iff hi (flow?_eq_some_iff.mp hf).1).mpr hl, hf⟩
  · rw [walkFrom_of_not_mem hn]
    constructor
    · exact fun h => (List.not_mem_nil h).elim
    · intro ⟨hf, hl⟩
      exact absurd (hl.start_mem (List.mem_map_of_mem (source_mem_of_mem_flows hf))) hn

end

section
variable (hg : g.WellFormed) (hh : h.WellFormed) (hs : SameContent g h)
include hg hh hs

theorem SameContent.leads_iff (a b : String) : g.Leads a b ↔ h.Leads a b :=
  ⟨hs.leads hg, hs.symm.leads hh⟩

theorem SameContent.walkFrom (start : String) :
    SameContent (g.walkFrom start) (h.walkFrom start) := by
  apply SameContent.of_flows
  · intro w
    rw [hg.mem_vertices_walkFrom_iff, hh.mem_vertices_walkFrom_iff, hs.vertices,
      hs.leads_iff hg hh]
  · intro f
    rw [hg.mem_flows_walkFrom_iff, hh.mem_flows_walkFrom_iff, hs.mem_flows hg hh,
      hs.leads_iff hg hh]

end

/-! ### flows between modules -/

theorem SameContent.interModule (hg : g.WellFormed) (hh : h.WellFormed) (hs : SameContent g h) :
    SameContent g.interModule h.interModule := by
  apply SameContent.of_flows
  · intro v
    rw [hg.mem_vertices_interModule, hh.mem_vertices_interModule]
    simp only [hs.mem_flows hg hh]
  · intro f
    rw [hg.mem_flows_interModule, hh.mem_flows_interModule, hs.mem_flows hg hh]

/-! ### agreement -/

/-- **Agreement is exact, and everything respects it.**  Well-formed graphs agree if and only if they
have the same vertices, with their modules and remarks, and flows with the same names and comments.
So agreement is an equivalence.  Graphs that agree still do after the same vertex or flow is added,
which is new to both or to neither; so do what walks from the same start come to and what lies
between modules, and the sorted views and the statistics are equal. -/
theorem agrees_exact_and_respected (hg : g.WellFormed) (hh : h.WellFormed) :
    ((g == h) = true ↔ (∀ v, v ∈ g.vertices ↔ v ∈ h.vertices)
      ∧ ∀ l, l ∈ g.flows.map Flow.label ↔ l ∈ h.flows.map Flow.label)
    ∧ (g == g) = true
    ∧ ((g == h) = true → (h == g) = true)
    ∧ (∀ k : Graph, k.WellFormed → (g == h) = true → (h == k) = true → (g == k) = true)
    ∧ ((g == h) = true →
      (∀ v, ((g.addVertex v).1 == (h.addVertex v).1) = true)
      ∧ (∀ f, ((g.addFlow f).1 == (h.addFlow f).1) = true ∧ (g.addFlow f).2 = (h.addFlow f).2)
      ∧ (∀ start, (g.walkFrom start == h.walkFrom start) = true)
      ∧ (g.interModule == h.interModule) = true
      ∧ g.modules = h.modules
      ∧ g.entryPoints = h.entryPoints
      ∧ g.sortedFlows = h.sortedFlows
      ∧ g.stats = h.stats) := by
  have same : ∀ {x y : Graph}, x.WellFormed → y.WellFormed → ((x == y) = true ↔ SameContent x y) :=
    fun hx hy => hx.agrees_iff_sameContent hy
  refine ⟨?_, hg.agrees_self, ?_, ?_, ?_⟩
  · rw [same hg hh]
    exact ⟨fun hs => ⟨hs.vertices, hs.labels⟩, fun ⟨hv, hl⟩ => ⟨hv, hl⟩⟩
  · intro ha
    exact (same hh hg).mpr ((same hg hh).mp ha).symm
  · intro k hk ha hb
    exact (same hg hk).mpr (((same hg hh).mp ha).trans ((same hh hk).mp hb))
  · intro ha
    have hs : SameContent g h := (same hg hh).mp ha
    refine ⟨?_, ?_, ?_, ?_, modules_of_perm (hs.vertices_perm hg hh), hs.entryPoints hg hh,
      hs.sortedFlows hg hh, hs.stats hg hh⟩
    · intro v
      exact (same (hg.addVertex v) (hh.addVertex v)).mpr (hs.addVertex hg hh v)
    · intro f
      exact ⟨(same (hg.addFlow f) (hh.addFlow f)).mpr (hs.addFlow hg hh f),
        hs.addFlow_answer hg hh f⟩
    · intro start
      exact (same (WellFormed.walkFrom g start) (WellFormed.walkFrom h start)).mpr
        (hs.walkFrom hg hh start)
    · exact (same (WellFormed.interModule g) (WellFormed.interModule h)).mpr
        (hs.interModule hg hh)

/-- two flows between two modules and one inside, added in this order or in the opposite one -/
def detour (backwards : Bool) : Graph :=
  let a : Handler := ⟨"shop.a", "shop", some "asks", none⟩
  let b : Handler := ⟨"bank.b", "bank", none, some "payment"⟩
  let c : Handler := ⟨"bank.c", "bank", none, none⟩
  let flows : List Flow :=
    [⟨a, b, ⟨"pay", some "now"⟩⟩, ⟨b, c, ⟨"book", none⟩⟩, ⟨c, a, ⟨"paid", none⟩⟩]
  (∅ : Graph).addFlows (if backwards then flows.reverse else flows)

theorem agrees_detour :
    (detour true).WellFormed ∧ (detour false).WellFormed ∧ detour true ≠ detour false
    ∧ (detour true == detour false) = true
    ∧ ((detour true).walkFrom "bank.b" == (detour false).walkFrom "bank.b") = true
    ∧ (detour true).sortedFlows = (detour false).sortedFlows := by
  have hg : (detour true).WellFormed := by decide
  have hh : (detour false).WellFormed := by decide
  have hv : (detour true).vertices.Perm (detour false).vertices := by decide
  have hl : ((detour true).flows.map Flow.label).Perm ((detour false).flows.map Flow.label) := by
    decide
  obtain ⟨h1, _, _, _, h2⟩ := agrees_exact_and_respected hg hh
  have ha : (detour true == detour false) = true :=
    h1.mpr ⟨fun _ => hv.mem_iff, fun _ => hl.mem_iff⟩
  obtain ⟨_, _, hw, _, _, _, hf, _⟩ := h2 ha
  exact ⟨hg, hh, by decide, ha, hw "bank.b", hf⟩

end Graph

end MessageFlow
