import Mathlib.Data.Finset.Card
import MessageFlow.Proofs.Diagram.Palette
import MessageFlow.Proofs.Graph.Operations

/-!
# The ranks of modules

The number of a module is its rank, which does not speak of sorting or of bisection: it counts the
module keys of the graph that are smaller (`Graph.moduleRank`).  So the colour of a module depends on
the keys up to its own only, and colours are stable while a graph grows inside its modules.

* `getElem?_modules_moduleRank`   the number of a module is its rank;
* `color_of_rank`, `color_of_not_mem`   so the rank decides the colour of every text;
* `color_congr`   which is the same in graphs that have the same module keys up to that text;
* `Graph.Denser`, `Denser.mem_modules`   growth that brings no new module;
* `color_ofGraph_rank`   colours by rank, and their stability.
-/

namespace MessageFlow

/-- in an ascending list the smaller texts stand before a text -/
theorem getElem?_countP_lt {keys : List String} {key : String} (h : keys.Pairwise (· < ·))
    (hk : key ∈ keys) : keys[keys.countP (· < key)]? = some key := by
  obtain ⟨before, after, rfl⟩ := List.append_of_mem hk
  obtain ⟨-, hafter, hbefore⟩ := List.pairwise_append.mp h
  obtain ⟨hafter, -⟩ := List.pairwise_cons.mp hafter
  have h1 : before.countP (· < key) = before.length := by
    rw [List.countP_eq_length]
    intro k hk
    exact decide_eq_true (hbefore k hk key List.mem_cons_self)
  have h2 : (key :: after).countP (· < key) = 0 := by
    rw [List.countP_eq_zero]
    intro k hk hlt
    rcases List.mem_cons.mp hk with rfl | hk
    · exact absurd (of_decide_eq_true hlt) (lt_irrefl _)
    · exact absurd (of_decide_eq_true hlt) (hafter k hk).not_gt
  rw [List.countP_append, h1, h2, Nat.add_zero, List.getElem?_append_right (Nat.le_refl _),
    Nat.sub_self, List.getElem?_cons_zero]

namespace Graph

variable {g h : Graph} {key : String}

/-- how many module keys are smaller, each of them counted once -/
def moduleRank (g : Graph) (key : String) : Nat :=
  ((g.vertices.map Handler.moduleKey).toFinset.filter (· < key)).card

theorem moduleRank_eq_countP (g : Graph) (key : String) :
    g.moduleRank key = g.modules.countP (· < key) := by
  have h1 : (g.vertices.map Handler.moduleKey).toFinset.filter (· < key) =
      (g.modules.filter (· < key)).toFinset := by
    ext k
    simp only [Finset.mem_filter, List.mem_toFinset, List.mem_filter, mem_modules,
      decide_eq_true_eq]
  rw [moduleRank, h1, List.toFinset_card_of_nodup (g.modules_nodup.filter _),
    List.countP_eq_length_filter]

theorem getElem?_modules_moduleRank (hk : key ∈ g.modules) :
    g.modules[g.moduleRank key]? = some key := by
  rw [moduleRank_eq_countP]
  exact getElem?_countP_lt g.modules_ascending hk

theorem moduleRank_congr (hk : ∀ k < key, k ∈ g.modules ↔ k ∈ h.modules) :
    g.moduleRank key = h.moduleRank key := by
  have h1 : (g.vertices.map Handler.moduleKey).toFinset.filter (· < key) =
      (h.vertices.map Handler.moduleKey).toFinset.filter (· < key) := by
    ext k
    simp only [Finset.mem_filter, List.mem_toFinset, ← mem_modules]
    exact and_congr_left (hk k)
  rw [moduleRank, moduleRank, h1]

/-! ### graphs that grow -/

/-- what is absorbed does not change the module of a vertex -/
theorem mem_modules_addVertex {v : Handler} : key ∈ (g.addVertex v).1.modules ↔
    key ∈ g.modules ∨ (v.name ∉ g.vertices.map Handler.name ∧ key = v.moduleKey) := by
  rw [mem_modules, mem_modules]
  cases hp : g.position? v.name with
  | none =>
    have hn := position?_eq_none_iff.mp hp
    rw [addVertex_of_absent hp, List.map_append, List.mem_append, List.map_singleton,
      List.mem_singleton, and_iff_right hn]
  | some i =>
    obtain ⟨w, hw, hn⟩ := position?_eq_some hp
    have hv : v.name ∈ g.vertices.map Handler.name :=
      List.mem_map.mpr ⟨w, List.mem_of_getElem? hw, hn⟩
    have h1 := map_modify_of_key_eq (f := fun w => w.absorb v)
      (fun w => Handler.moduleKey_absorb w v) g.vertices i
    rw [addVertex_of_position? hp, h1]
    exact (or_iff_left fun h => h.1 hv).symm

/-- `h` is `g` with edges added to it, and vertices whose modules or names were there -/
inductive Denser (g : Graph) : Graph → Prop
  | refl : Denser g g
  | addVertex {h : Graph} (hh : Denser g h) {v w : Handler} (hw : w ∈ h.vertices)
      (hv : v.moduleKey = w.moduleKey ∨ v.name = w.name) : Denser g (h.addVertex v).1
  | addEdge {h : Graph} (hh : Denser g h) (source target : Nat) (m : Message) :
      Denser g (h.addEdge source target m).1

theorem Denser.mem_modules (hd : g.Denser h) : key ∈ h.modules ↔ key ∈ g.modules := by
  induction hd with
  | refl => rfl
  | addVertex _ hw hv ih =>
    rw [mem_modules_addVertex, ih, or_iff_left_iff_imp]
    rintro ⟨hn, rfl⟩
    rcases hv with hv | hv
    · rw [← ih, Graph.mem_modules, hv]
      exact List.mem_map_of_mem hw
    · exact absurd (hv ▸ List.mem_map_of_mem hw) hn
  | addEdge _ source target m ih =>
    rw [Graph.mem_modules, vertices_addEdge, ← Graph.mem_modules, ih]

end Graph

namespace ModulePalette

variable {g h : Graph} {colors : List String} {unknown key : String}

theorem color_of_rank (hc : colors ≠ []) (hk : key ∈ g.modules) :
    colors[g.moduleRank key % colors.length]? = some ((ofGraph g colors unknown).color key) :=
  color_ofGraph unknown hc (Graph.getElem?_modules_moduleRank hk)

theorem color_of_not_mem (hk : key ∉ g.modules) :
    (ofGraph g colors unknown).color key = unknown := by
  have hs : search? (ofGraph g colors unknown).modules key = none := by
    rw [Option.eq_none_iff_forall_ne_some]
    intro i hi
    exact hk (List.mem_of_getElem? ((search?_eq_some_iff g.modules_ascending).mp hi))
  rw [color, hs]
  rfl

/-- greater module keys have no influence -/
theorem color_congr (hc : colors ≠ []) (hk : ∀ k ≤ key, k ∈ g.modules ↔ k ∈ h.modules) :
    (ofGraph g colors unknown).color key = (ofGraph h colors unknown).color key := by
  by_cases hg : key ∈ g.modules
  · have hh : key ∈ h.modules := (hk key le_rfl).mp hg
    have h1 : g.moduleRank key = h.moduleRank key :=
      Graph.moduleRank_congr fun k hlt => hk k hlt.le
    apply Option.some.inj
    rw [← color_of_rank hc hg, ← color_of_rank hc hh, h1]
  · have hh : key ∉ h.modules := fun hh => hg ((hk key le_rfl).mpr hh)
    rw [color_of_not_mem hg, color_of_not_mem hh]

/-- **Modules have colours by rank, and these are stable.**  The colour of a module has the number of
module keys that are smaller, modulo the size of the palette; a text that is the module of no vertex
has the colour for everything else.  While vertices are added to modules that are there, and edges,
every text keeps its colour.  A vertex of a new module changes the colour of no smaller text. -/
theorem color_ofGraph_rank (g : Graph) (hc : colors ≠ []) (unknown : String) :
    (∀ v ∈ g.vertices, colors[g.moduleRank v.moduleKey % colors.length]? =
      some ((ofGraph g colors unknown).color v.moduleKey))
    ∧ (∀ key, (∀ v ∈ g.vertices, v.moduleKey ≠ key) →
      (ofGraph g colors unknown).color key = unknown)
    ∧ (∀ h, g.Denser h → ∀ key,
      (ofGraph h colors unknown).color key = (ofGraph g colors unknown).color key)
    ∧ ∀ v key, key < v.moduleKey →
      (ofGraph (g.addVertex v).1 colors unknown).color key =
        (ofGraph g colors unknown).color key := by
  refine ⟨?_, ?_, ?_, ?_⟩
  · intro v hv
    exact color_of_rank hc (Graph.mem_modules.mpr (List.mem_map_of_mem hv))
  · intro key hk
    apply color_of_not_mem
    rw [Graph.mem_modules, List.mem_map]
    exact fun ⟨v, hv, he⟩ => hk v hv he
  · intro h hd key
    exact color_congr hc fun k _ => hd.mem_modules
  · intro v key hlt
    apply color_congr hc
    intro k hle
    have hne : k ≠ v.moduleKey := (hle.trans_lt hlt).ne
    rw [Graph.mem_modules_addVertex]
    exact or_iff_left fun h => hne h.2

/-- three modules, the greatest of which comes first -/
def quarters : Graph :=
  ⟨[⟨"d.x", "d", none, none⟩, ⟨"a.x", "a", none, none⟩, ⟨"b.x", "b", none, none⟩,
    ⟨"a.y", "a", none, none⟩], [⟨0, 1, ⟨"m", none⟩⟩]⟩

/-- two colours are taken in turn; one more handler of `b` changes none, and `c` would change `d` only -/
theorem color_ofGraph_rank_quarters :
    ["red", "blue"] ≠ []
    ∧ (ofGraph quarters ["red", "blue"] "grey").color "b" = "blue"
    ∧ (ofGraph quarters ["red", "blue"] "grey").color "d" = "red"
    ∧ (ofGraph quarters ["red", "blue"] "grey").color "c" = "grey"
    ∧ (ofGraph (quarters.addVertex ⟨"b.y", "b", none, none⟩).1 ["red", "blue"] "grey").color "d"
      = "red"
    ∧ (ofGraph (quarters.addVertex ⟨"c.x", "c", none, none⟩).1 ["red", "blue"] "grey").color "b"
      = "blue" := by
  have hc : ["red", "blue"] ≠ [] := by decide
  obtain ⟨hrank, hother, hdenser, hsmaller⟩ := color_ofGraph_rank quarters hc "grey"
  have hb : (ofGraph quarters ["red", "blue"] "grey").color "b" = "blue" :=
    (Option.some.inj (hrank ⟨"b.x", "b", none, none⟩ (by decide))).symm
  have hd : (ofGraph quarters ["red", "blue"] "grey").color "d" = "red" :=
    (Option.some.inj (hrank ⟨"d.x", "d", none, none⟩ (by decide))).symm
  have hdense : quarters.Denser (quarters.addVertex ⟨"b.y", "b", none, none⟩).1 :=
    .addVertex .refl (w := ⟨"b.x", "b", none, none⟩) (by decide) (.inl rfl)
  refine ⟨hc, hb, hd, hother "c" (by decide), ?_, ?_⟩
  · rw [hdenser _ hdense, hd]
  · rw [hsmaller _ "b" (by decide), hb]

end ModulePalette

end MessageFlow
