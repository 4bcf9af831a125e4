import MessageFlow.Proofs.Diagram.Drawing
import MessageFlow.Settings.Basic

/-!
# Configured texts in a diagram

The colours of modules, of the highlighted handler and of everything else are escaped where they
stand, so that any texts can be set for them.  The splines and the border of the clusters are spelled
as they are set.  A diagram is read with whatever values these two spell (`Graph.read_dot_of_spells`),
and cannot be read at all if the border begins with what begins no value, as a number sign does
(`Graph.read_dot_of_border`).
-/

namespace MessageFlow

/-- a text cannot be read if a character stands between two tokens that begins none -/
theorem Dot.read_eq_none {before : String} {ts : List Token} (h : Spells before ts) {c : Char}
    (hc : ∀ done, Scanner.start done c = none) {text : String} {after : List Char}
    (ht : text.toList = before.toList ++ c :: after) : read text = none := by
  have h1 : Scanner.run ⟨.between, []⟩ text.toList = none := by
    rw [ht, Scanner.run, List.foldlM_append]
    refine (congrArg (Option.bind · _) (h [])).trans ?_
    rw [Option.bind_some, List.foldlM_cons, Scanner.step, hc]
    rfl
  rw [read, scan, h1]
  rfl

namespace Graph

variable {g : Graph}

/-- **What is set is what is read**, if the two texts that are spelled as they are spell one value
each: these values are the splines and the borders, and the rows of the tables have the colours of
the settings, whatever texts these are. -/
theorem read_dot_of_spells (hg : g.WellFormed) (s : DiagramSettings) (highlight : Option String)
    {splines border : Dot.Value} (h1 : Dot.Spells (s.splines ++ "\n") [.value splines])
    (h2 : Dot.Spells (s.clusterColor ++ "\n") [.value border]) :
    ∃ a : g.Arrangement,
      Dot.read (g.dot s highlight) = some (a.documentWith s highlight splines border) := by
  refine ⟨g.arrangement hg, ?_⟩
  rw [← documentWith_ofGraph hg]
  exact (Dot.spells_dotWith (Diagram.ofGraph s g highlight) h1 h2).read

/-- texts with quotes of their own can be set for all colours -/
def painted : DiagramSettings :=
  { DiagramSettings.standard with
    splines := "\"\"", clusterColor := "\"#0000FF\"", palette := ["\"><&", "\\"],
    highlightColor := "-->" }

theorem read_dot_of_spells_painted :
    awkward.WellFormed
    ∧ Dot.Spells (painted.splines ++ "\n") [.value (.text "")]
    ∧ Dot.Spells (painted.clusterColor ++ "\n") [.value (.text "#0000FF")]
    ∧ ∃ a : awkward.Arrangement, Dot.read (awkward.dot painted (some "bank.<&amp;>.\n]")) =
        some (a.documentWith painted (some "bank.<&amp;>.\n]") (.text "") (.text "#0000FF")) := by
  have h1 : awkward.WellFormed := by decide
  have h2 : Dot.Spells (painted.splines ++ "\n") [.value (.text "")] :=
    (Dot.spells_inQuotes "").line
  have h3 : Dot.Spells (painted.clusterColor ++ "\n") [.value (.text "#0000FF")] :=
    (Dot.spells_inQuotes "#0000FF").line
  exact ⟨h1, h2, h3, read_dot_of_spells h1 painted (some "bank.<&amp;>.\n]") h2 h3⟩

/-! ### borders that are no values -/

/-- the lines of a diagram before the border of its first cluster -/
def beforeBorder (d : Diagram) (key : String) : List String :=
  ["digraph G \x7b", "\trankdir=" ++ d.direction.label, "\tnode [shape=plaintext]",
    "\tsplines=" ++ d.splines, "", "\tsubgraph " ++ Escape.inQuotes ("cluster_" ++ key), "\t\x7b",
    "\t\tlabel = " ++ Escape.inQuotes key]

theorem lines_eq_of_clusters {d : Diagram} {c : Cluster} {cs : List Cluster}
    (h : d.clusters = c :: cs) :
    ∃ after, d.lines = beforeBorder d c.key ++ ("\t\tcolor = " ++ d.clusterColor) :: after := by
  rw [Diagram.lines, h, List.flatMap_cons, Cluster.lines]
  exact ⟨_, rfl⟩

theorem lines_beforeBorder {d : Diagram} {splines : Dot.Value}
    (h : Dot.Spells (d.splines ++ "\n") [.value splines]) (key : String) :
    ∃ ts, Dot.Lines (beforeBorder d key) ts := by
  have h1 : Dot.Spells "\tsubgraph " [.value (.word "subgraph")] := fun _ => rfl
  have h2 : Dot.Spells "\t\x7b" [.sign .openBrace] := fun _ => rfl
  have h3 : Dot.Spells "\t\tlabel = " [.value (.word "label"), .sign .equals] := fun _ => rfl
  have h4 := Dot.Lines.cons Dot.spells_start.line (Dot.lines_header h d.direction)
  exact ⟨_, h4.append (.cons (h1.append (Dot.spells_inQuotes ("cluster_" ++ key))).line
    (.cons h2.line (.cons (h3.append (Dot.spells_inQuotes key)).line .nil)))⟩

/-- a border that begins with what begins no value makes every diagram with a node unreadable -/
theorem read_dot_of_border (hv : g.vertices ≠ []) (s : DiagramSettings) (highlight : Option String)
    {splines : Dot.Value} (h1 : Dot.Spells (s.splines ++ "\n") [.value splines]) {c : Char}
    (h2 : s.clusterColor.toList.head? = some c) (hc : ∀ done, Dot.Scanner.start done c = none) :
    Dot.read (g.dot s highlight) = none := by
  obtain ⟨v, vs, hvs⟩ := List.exists_cons_of_ne_nil hv
  have hkey : v.moduleKey ∈ g.modules :=
    mem_modules.mpr (List.mem_map_of_mem (hvs ▸ List.mem_cons_self))
  obtain ⟨key, keys, hkeys⟩ := List.exists_cons_of_ne_nil (List.ne_nil_of_mem hkey)
  have hclusters : ∃ nodes cs, (Diagram.ofGraph s g highlight).clusters = ⟨key, nodes⟩ :: cs := by
    rw [Diagram.ofGraph, hkeys]
    exact ⟨_, _, rfl⟩
  obtain ⟨nodes, cs, hclusters⟩ := hclusters
  obtain ⟨after, hlines⟩ := lines_eq_of_clusters hclusters
  obtain ⟨ts, hbefore⟩ := lines_beforeBorder (d := Diagram.ofGraph s g highlight) h1 key
  obtain ⟨color, hcolor⟩ := List.head?_eq_some_iff.mp h2
  have h3 : Dot.Spells "\t\tcolor = " [.value (.word "color"), .sign .equals] := fun _ => rfl
  have h4 : (Diagram.ofGraph s g highlight).clusterColor.toList = c :: color := hcolor
  have h5 : (g.dot s highlight).toList =
      (String.join ((beforeBorder (.ofGraph s g highlight) key).map (· ++ "\n"))
        ++ "\t\tcolor = ").toList
      ++ c :: (color ++ '\n' :: (String.join (after.map (· ++ "\n"))).toList) := by
    rw [dot, Diagram.dot, hlines]
    simp only [List.map_append, List.map_cons, String.join_append, String.join_cons,
      String.toList_append, List.append_assoc]
    rw [h4]
    rfl
  exact Dot.read_eq_none (Dot.Spells.append hbefore h3) hc h5

/-- settings with a border in blue -/
def blueBorder : Settings :=
  { Settings.standard with diagram := { DiagramSettings.standard with clusterColor := "#0000FF" } }

/-- a graph of one handler -/
def lone : Graph := ((∅ : Graph).addVertex (.ofName 3 "a.b.c.A")).1

/-- **A colour that can be set for everything else cannot be set for the border** -/
theorem not_read_dot_configured : ¬ ∀ s : Settings, s.problem? = none →
    ∀ (g : Graph) (highlight : Option String), g.WellFormed →
      (Dot.read (g.dot s.diagram highlight)).isSome := by
  intro h
  have h1 : Dot.isIdentifier blueBorder.diagram.splines = true := by decide
  have h2 : blueBorder.diagram.clusterColor.toList.head? = some '#' := by decide
  have h3 : Dot.read (lone.dot blueBorder.diagram none) = none :=
    read_dot_of_border (by decide) blueBorder.diagram none (Dot.spells_word h1) h2 fun _ => rfl
  have h4 := h blueBorder (by decide) lone none (by decide)
  rw [h3] at h4
  exact Bool.false_ne_true h4

end Graph

end MessageFlow
