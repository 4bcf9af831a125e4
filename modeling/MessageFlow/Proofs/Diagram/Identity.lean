import MessageFlow.Proofs.Diagram.Escape
import MessageFlow.Proofs.Diagram.Selection

/-!
# What a diagram tells apart

A node, and a cluster too, is known by the text between the first quotes of its statement, as it
stands there, and an edge names its ends by the first two such texts (`Dot.ids`).  Escapes leave out
the carriage returns and nothing else, so that two names get one text exactly if they are the same
but for those (`Escape.quoted_eq_iff`).  Therefore a diagram tells two handlers or modules apart by
anything but carriage returns (`Graph.ids_of_dot`), and handlers whose names differ only in these
become one node (`Graph.not_ids_injective`).
-/

namespace MessageFlow

namespace Escape

theorem flatMap_quotedChar_filter (cs : List Char) :
    (cs.filter (· ≠ '\r')).flatMap quotedChar = cs.flatMap quotedChar := by
  induction cs with
  | nil => rfl
  | cons c cs ih =>
    by_cases hc : c = '\r'
    · subst hc
      rw [List.filter_cons_of_neg (by decide), ih]
      rfl
    · rw [List.filter_cons_of_pos (by simpa using hc), List.flatMap_cons, ih, List.flatMap_cons]

theorem quoted_withoutReturns (t : String) : quoted (withoutReturns t) = quoted t := by
  rw [quoted, quoted, withoutReturns, String.toList_ofList, flatMap_quotedChar_filter]

/-- **Texts get one spelling between quotes exactly if they differ in carriage returns only** -/
theorem quoted_eq_iff {a b : String} : quoted a = quoted b ↔ withoutReturns a = withoutReturns b := by
  constructor
  · intro h
    have h1 : a.toList.flatMap quotedChar = b.toList.flatMap quotedChar := by
      rw [← toList_quoted, h, toList_quoted]
    have h2 := congrArg unquote h1
    rw [unquote_flatMap_quotedChar, unquote_flatMap_quotedChar] at h2
    rw [withoutReturns, withoutReturns, Option.some.inj h2]
  · intro h
    rw [← quoted_withoutReturns a, h, quoted_withoutReturns]

theorem withoutReturns_append (a b : String) :
    withoutReturns (a ++ b) = withoutReturns a ++ withoutReturns b := by
  apply String.ext
  rw [withoutReturns, withoutReturns, withoutReturns, String.toList_ofList, String.toList_append,
    String.toList_append, String.toList_ofList, String.toList_ofList, List.filter_append]

end Escape

/-! ### the ids of a statement -/

namespace Dot

/-- the text up to the quote that ends it, as it stands, and what follows that quote; a backslash
takes the next character with it -/
def quotation : List Char → Option (List Char × List Char)
  | [] => none
  | c :: cs =>
    if c = '"' then some ([], cs)
    else if c = '\\' then
      match cs with
      | [] => none
      | d :: ds => (quotation ds).map fun r => (c :: d :: r.1, r.2)
    else (quotation cs).map fun r => (c :: r.1, r.2)

/-- the first texts between quotes, as they stand, up to `n` of them -/
def ids : Nat → List Char → List String
  | 0, _ => []
  | n + 1, cs =>
    match quotation ((cs.dropWhile (· ≠ '"')).drop 1) with
    | none => []
    | some (raw, rest) => .ofList raw :: ids n rest

theorem quotation_escape (c : Char) (cs : List Char) :
    quotation ('\\' :: c :: cs) = (quotation cs).map fun r => ('\\' :: c :: r.1, r.2) := by
  conv_lhs => unfold quotation
  rw [if_neg (by decide), if_pos rfl]

theorem quotation_cons {c : Char} (h1 : c ≠ '"') (h2 : c ≠ '\\') (cs : List Char) :
    quotation (c :: cs) = (quotation cs).map fun r => (c :: r.1, r.2) := by
  conv_lhs => unfold quotation
  rw [if_neg h1, if_neg h2]

theorem quotation_quote (rest : List Char) : quotation ('"' :: rest) = some ([], rest) := by
  unfold quotation
  rw [if_pos rfl]

/-- an escaped text ends at its own quote -/
theorem quotation_flatMap_quotedChar (cs rest : List Char) :
    quotation (cs.flatMap Escape.quotedChar ++ '"' :: rest) =
      some (cs.flatMap Escape.quotedChar, rest) := by
  induction cs with
  | nil => exact quotation_quote rest
  | cons c cs ih =>
    rw [List.flatMap_cons]
    obtain ⟨-, h1⟩ | ⟨d, h1, -⟩ | ⟨h1, h2, h3, -⟩ := Escape.quotedChar_cases c
    · rw [h1]
      exact ih
    · rw [h1, List.cons_append, List.singleton_append, List.cons_append, List.cons_append,
        quotation_escape, ih, Option.map_some]
    · rw [h1, List.singleton_append, List.cons_append, quotation_cons h3 h2, ih, Option.map_some]

theorem ids_inQuotes {before : List Char} (h : '"' ∉ before) (n : Nat) (t : String)
    (rest : List Char) :
    ids (n + 1) (before ++ (Escape.inQuotes t).toList ++ rest) = Escape.quoted t :: ids n rest := by
  have h1 : (Escape.inQuotes t).toList = '"' :: (t.toList.flatMap Escape.quotedChar ++ ['"']) := by
    simp [Escape.inQuotes, Escape.quoted]
  have h2 : ∀ c ∈ before, (c ≠ '"' : Bool) = true := by
    intro c hc
    exact decide_eq_true fun he => h (he ▸ hc)
  have h3 : ((before ++ (Escape.inQuotes t).toList ++ rest).dropWhile (· ≠ '"')).drop 1 =
      t.toList.flatMap Escape.quotedChar ++ '"' :: rest := by
    rw [h1, List.append_assoc, List.dropWhile_append_of_pos h2, List.cons_append,
      List.dropWhile_cons_of_neg (by decide), List.drop_one, List.tail_cons, List.append_assoc,
      List.singleton_append]
  rw [ids, h3, quotation_flatMap_quotedChar]
  rfl

end Dot

/-! ### the ids of a graph -/

namespace Graph

variable (s : DiagramSettings) (g : Graph) (highlight : Option String)

/-- the line of a vertex -/
def nodeLine (v : Handler) : String :=
  "\t\t" ++ (Diagram.node s (.ofGraph g s.palette s.unknownColor) highlight v).statement

/-- the line with which the cluster of a module begins -/
def clusterLine (key : String) : String :=
  "\tsubgraph " ++ Escape.inQuotes ("cluster_" ++ key)

/-- the line of a flow -/
def flowLine (f : Flow) : String := "\t" ++ (Diagram.arrow f).statement

theorem ids_nodeLine (v : Handler) :
    Dot.ids 1 (g.nodeLine s highlight v).toList = [Escape.quoted v.name] := by
  rw [nodeLine, Node.statement, String.append_assoc, String.append_assoc, String.append_assoc,
    String.toList_append, String.toList_append, ← List.append_assoc,
    Dot.ids_inQuotes (by decide)]
  rfl

theorem ids_clusterLine (key : String) :
    Dot.ids 1 (clusterLine key).toList = [Escape.quoted ("cluster_" ++ key)] := by
  have h1 : '"' ∉ "\tsubgraph ".toList := by decide
  have h2 := Dot.ids_inQuotes h1 0 ("cluster_" ++ key) []
  rwa [List.append_nil, ← String.toList_append] at h2

theorem ids_flowLine (f : Flow) : Dot.ids 2 (flowLine f).toList =
    [Escape.quoted f.source.name, Escape.quoted f.target.name] := by
  have h1 : (flowLine f).toList = "\t".toList ++ (Escape.inQuotes f.source.name).toList
      ++ (" -> ".toList ++ (Escape.inQuotes f.target.name).toList ++ (" [label="
        ++ Escape.inQuotes f.message.short ++ ", fontsize=10.0" ++ Escape.tooltip f.message.comment
        ++ "]").toList) := by
    rw [flowLine, Arrow.statement]
    simp only [String.toList_append, List.append_assoc]
    rfl
  rw [h1, Dot.ids_inQuotes (by decide), Dot.ids_inQuotes (by decide)]
  rfl

theorem mem_lines_of_cluster {d : Diagram} {c : Cluster} (hc : c ∈ d.clusters) {l : String}
    (hl : l ∈ c.lines d.clusterColor) : l ∈ d.lines := by
  have h : l ∈ d.clusters.flatMap (Cluster.lines d.clusterColor) := List.mem_flatMap.mpr ⟨c, hc, hl⟩
  simp only [Diagram.lines, List.mem_append, h, or_true, true_or]

variable {s g highlight}

theorem nodeLine_mem_lines {v : Handler} (hv : v ∈ g.vertices) :
    g.nodeLine s highlight v ∈ (Diagram.ofGraph s g highlight).lines := by
  have h1 := (Diagram.nodes_ofGraph_perm s g highlight).mem_iff.mpr (List.mem_map_of_mem hv)
  obtain ⟨c, hc, hn⟩ := List.mem_flatMap.mp h1
  have h2 := List.mem_map_of_mem (f := fun n : Node => "\t\t" ++ n.statement) hn
  refine mem_lines_of_cluster hc ?_
  simp only [Cluster.lines, List.mem_append]
  exact .inl (.inr h2)

theorem clusterLine_mem_lines {key : String} (hk : key ∈ g.modules) :
    clusterLine key ∈ (Diagram.ofGraph s g highlight).lines := by
  refine mem_lines_of_cluster (List.mem_map_of_mem hk) ?_
  simp only [Cluster.lines, clusterLine, List.cons_append, List.mem_cons, true_or]

theorem flowLine_mem_lines {f : Flow} (hf : f ∈ g.flows) :
    flowLine f ∈ (Diagram.ofGraph s g highlight).lines := by
  have h1 : Diagram.arrow f ∈ (Diagram.ofGraph s g highlight).arrows :=
    List.mem_map_of_mem (g.sortedFlows_perm.mem_iff.mpr hf)
  have h2 := List.mem_map_of_mem (f := fun a : Arrow => "\t" ++ a.statement) h1
  simp only [Diagram.lines, List.mem_append]
  exact .inl (.inr h2)

variable (s g highlight)

/-- **A diagram tells apart what differs in more than carriage returns.**  Every vertex, every module
and every flow has its line; two of the first two kinds have one id exactly if their names are the
same but for carriage returns, and the ids of a flow are those of its own ends. -/
theorem ids_of_dot :
    (∀ v ∈ g.vertices, g.nodeLine s highlight v ∈ (Diagram.ofGraph s g highlight).lines)
    ∧ (∀ key ∈ g.modules, clusterLine key ∈ (Diagram.ofGraph s g highlight).lines)
    ∧ (∀ f ∈ g.flows, flowLine f ∈ (Diagram.ofGraph s g highlight).lines
      ∧ f.source ∈ g.vertices ∧ f.target ∈ g.vertices
      ∧ Dot.ids 2 (flowLine f).toList = Dot.ids 1 (g.nodeLine s highlight f.source).toList
        ++ Dot.ids 1 (g.nodeLine s highlight f.target).toList)
    ∧ (∀ v, (Dot.ids 1 (g.nodeLine s highlight v).toList).length = 1)
    ∧ (∀ key, (Dot.ids 1 (clusterLine key).toList).length = 1)
    ∧ (∀ v w, Dot.ids 1 (g.nodeLine s highlight v).toList
        = Dot.ids 1 (g.nodeLine s highlight w).toList
      ↔ Escape.withoutReturns v.name = Escape.withoutReturns w.name)
    ∧ (∀ key other, Dot.ids 1 (clusterLine key).toList = Dot.ids 1 (clusterLine other).toList
      ↔ Escape.withoutReturns key = Escape.withoutReturns other)
    ∧ ∀ a b, Escape.quoted a = Escape.quoted b
      ↔ Escape.withoutReturns a = Escape.withoutReturns b := by
  refine ⟨fun v => nodeLine_mem_lines, fun key => clusterLine_mem_lines,
    fun f hf => ⟨flowLine_mem_lines hf, source_mem_of_mem_flows hf, target_mem_of_mem_flows hf, ?_⟩,
    fun v => ?_, fun key => ?_, fun v w => ?_, fun key other => ?_, fun a b => Escape.quoted_eq_iff⟩
  · rw [ids_flowLine, ids_nodeLine, ids_nodeLine, List.singleton_append]
  · rw [ids_nodeLine, List.length_singleton]
  · rw [ids_clusterLine, List.length_singleton]
  · rw [ids_nodeLine, ids_nodeLine, List.singleton_inj, Escape.quoted_eq_iff]
  · have h : ∀ a b, "cluster_" ++ a = "cluster_" ++ b ↔ a = b := by
      intro a b
      rw [String.ext_iff, String.toList_append, String.toList_append, List.append_cancel_left_eq,
        ← String.ext_iff]
    rw [ids_clusterLine, ids_clusterLine, List.singleton_inj, Escape.quoted_eq_iff,
      Escape.withoutReturns_append, Escape.withoutReturns_append]
    exact h _ _

/-- two handlers whose names differ in a carriage return, and a message between them -/
def lookalikes : Graph :=
  ((∅ : Graph).addFlow ⟨.ofName 3 "a", .ofName 3 "a\r", .ofName "m"⟩).1

/-- carriage returns get lost: different handlers have one id, and different modules too -/
theorem not_ids_injective :
    (¬ ∀ (s : DiagramSettings) (g : Graph) (highlight : Option String), g.WellFormed →
      ∀ v ∈ g.vertices, ∀ w ∈ g.vertices, v.name ≠ w.name →
        Dot.ids 1 (g.nodeLine s highlight v).toList ≠ Dot.ids 1 (g.nodeLine s highlight w).toList)
    ∧ ¬ ∀ g : Graph, g.WellFormed → ∀ key ∈ g.modules, ∀ other ∈ g.modules, key ≠ other →
        Dot.ids 1 (clusterLine key).toList ≠ Dot.ids 1 (clusterLine other).toList := by
  have h1 : lookalikes.WellFormed := by decide
  have h2 : lookalikes.vertices = [.ofName 3 "a", .ofName 3 "a\r"] := by decide
  have h3 : lookalikes.modules = ["a", "a\r"] := by decide
  have h4 : Escape.quoted "a" = Escape.quoted "a\r" := by decide
  have h5 : Escape.quoted ("cluster_" ++ "a") = Escape.quoted ("cluster_" ++ "a\r") := by decide
  refine ⟨fun h => ?_, fun h => ?_⟩
  · refine h .standard lookalikes none h1 (.ofName 3 "a") (by simp [h2]) (.ofName 3 "a\r")
      (by simp [h2]) (by decide) ?_
    rw [ids_nodeLine, ids_nodeLine]
    exact congrArg List.singleton h4
  · refine h lookalikes h1 "a" (by simp [h3]) "a\r" (by simp [h3]) (by decide) ?_
    rw [ids_clusterLine, ids_clusterLine, h5]

end Graph

end MessageFlow
