import MessageFlow.Proofs.Diagram.Syntax

/-!
# Diagrams are read as they are meant

A diagram is spelled line by line, and every line spells its tokens on its own (`Lines`), so that
what the lines of a node, an arrow or a cluster are read as can be said of each by itself:

* `spells_node`, `spells_arrow`   one statement, with the texts of the node or arrow in its places;
* `lines_clusterWith`, `lines_header`   a subgraph with its nodes, and the settings;
* `spells_dot`   together they are the document of the diagram (`documentOf`).

Two texts are spelled as they are, the splines and the border of the clusters.  What they are read as
is left open in `spells_dotWith`; in `spells_dot` they are words.
-/

namespace MessageFlow.Dot

/-! ### what is drawn -/

/-- a text as it is read back from between quotes -/
def quoted (t : String) : Value := .text (Escape.withoutReturns t)

/-- the attribute for a tooltip, if there is one -/
def hover (tooltip : Option String) : List (Value × Value) :=
  tooltip.toList.map fun t => (.word "tooltip", quoted t)

/-- a table with the namespace in its upper and the class in its lower row -/
def nodeStatement (id moduleColor namespaceRow classColor classRow : String)
    (tooltip : Option String) : Statement :=
  .node (quoted id) ((.word "label",
    .markup (Markup.table moduleColor namespaceRow classColor classRow)) :: hover tooltip)

def arrowStatement (source target label : String) (tooltip : Option String) : Statement :=
  .edge (quoted source) (quoted target)
    ((.word "label", quoted label) :: (.word "fontsize", .word "10.0") :: hover tooltip)

def clusterItem (key color : String) (nodes : List Statement) : Item :=
  .subgraph (quoted ("cluster_" ++ key))
    (.setting (.word "label") (quoted key) :: .setting (.word "color") (.word color)
      :: .setting (.word "rank") (quoted "same") :: nodes)

def header (direction : Direction) (splines : String) : List Item :=
  [.statement (.setting (.word "rankdir") (.word direction.label)),
    .statement (.node (.word "node") [(.word "shape", .word "plaintext")]),
    .statement (.setting (.word "splines") (.word splines))]

/-- the settings, with splines that are read as that value -/
def headerWith (direction : Direction) (splines : Value) : List Item :=
  [.statement (.setting (.word "rankdir") (.word direction.label)),
    .statement (.node (.word "node") [(.word "shape", .word "plaintext")]),
    .statement (.setting (.word "splines") splines)]

/-! ### lines -/

theorem Spells.of_eq {a b : String} {ts : List Token} (h : a = b) (hb : Spells b ts) :
    Spells a ts := h ▸ hb

/-- lines that are read as these tokens, whatever stands before and after them -/
def Lines (ls : List String) (ts : List Token) : Prop :=
  Spells (String.join (ls.map (· ++ "\n"))) ts

theorem Lines.nil : Lines [] [] := fun _ => rfl

theorem Lines.cons {l : String} {ls : List String} {ts us : List Token} (h1 : Spells (l ++ "\n") ts)
    (h2 : Lines ls us) : Lines (l :: ls) (ts ++ us) := by
  rw [Lines, List.map_cons, String.join_cons]
  exact h1.append h2

theorem Lines.append {ls ms : List String} {ts us : List Token} (h1 : Lines ls ts)
    (h2 : Lines ms us) : Lines (ls ++ ms) (ts ++ us) := by
  rw [Lines, List.map_append, String.join_append]
  exact Spells.append h1 h2

theorem Lines.flatMap {α : Type} {f : α → List String} {tokens : α → List Token} {l : List α}
    (h : ∀ x ∈ l, Lines (f x) (tokens x)) : Lines (l.flatMap f) (l.flatMap tokens) := by
  induction l with
  | nil => exact .nil
  | cons x l ih =>
    rw [List.flatMap_cons, List.flatMap_cons]
    exact (h x List.mem_cons_self).append (ih fun y hy => h y (List.mem_cons_of_mem x hy))

/-- what is complete at the end of its line -/
theorem Spells.line {l : String} {ts : List Token} (h : Spells l ts) : Spells (l ++ "\n") ts := by
  have h1 : Spells "\n" [] := fun _ => rfl
  have h2 := h.append h1
  rwa [List.append_nil] at h2

theorem Lines.map {α : Type} {f : α → String} {tokens : α → List Token} {l : List α}
    (h : ∀ x ∈ l, Spells (f x) (tokens x)) : Lines (l.map f) (l.flatMap tokens) := by
  rw [List.map_eq_flatMap]
  refine .flatMap fun x hx => ?_
  have h1 := Lines.cons (h x hx).line .nil
  rwa [List.append_nil] at h1

/-! ### the lines of a diagram -/

/-- how a node is read -/
def statementOf (n : Node) : Statement :=
  nodeStatement n.id n.moduleColor n.namespaceRow n.classColor n.classRow n.tooltip

theorem spells_label : Spells " [label=" [.sign .openBracket, .value (.word "label"), .sign .equals] :=
  fun _ => rfl

theorem spells_closeBracket : Spells "]" [.sign .closeBracket] := fun _ => rfl

theorem spells_node (n : Node) : Spells n.statement (statementOf n).tokens := by
  have h1 := ((spells_inQuotes n.id).append spells_label).append (spells_table n)
  unfold Node.statement statementOf
  cases n.tooltip with
  | none =>
    have h2 : Spells (Escape.tooltip none) [] := fun _ => rfl
    exact (h1.append h2).append spells_closeBracket
  | some t =>
    have h2 : Spells ", tooltip=" [.sign .comma, .value (.word "tooltip"), .sign .equals] :=
      fun _ => rfl
    exact (h1.append (h2.append (spells_inQuotes t))).append spells_closeBracket

/-- what stands behind the label of an arrow; the number ends only with what follows it -/
theorem spells_fontsize (tooltip : Option String) :
    Spells (", fontsize=10.0" ++ (Escape.tooltip tooltip ++ "]"))
      (.sign .comma :: attributeTokens ((.word "fontsize", .word "10.0") :: hover tooltip)) := by
  cases tooltip with
  | none =>
    have h1 : ", fontsize=10.0" ++ (Escape.tooltip none ++ "]") = ", fontsize=10.0]" := by decide
    exact .of_eq h1 fun _ => rfl
  | some t =>
    have h1 : ", fontsize=10.0" ++ ", tooltip=" = ", fontsize=10.0, tooltip=" := by decide
    have h2 : ", fontsize=10.0" ++ (Escape.tooltip (some t) ++ "]") =
        ", fontsize=10.0, tooltip=" ++ Escape.inQuotes t ++ "]" := by
      rw [← h1, Escape.tooltip, String.append_assoc, String.append_assoc, String.append_assoc]
    have h3 : Spells ", fontsize=10.0, tooltip=" [.sign .comma, .value (.word "fontsize"),
        .sign .equals, .value (.word "10.0"), .sign .comma, .value (.word "tooltip"),
        .sign .equals] := fun _ => rfl
    exact .of_eq h2 ((h3.append (spells_inQuotes t)).append spells_closeBracket)

theorem spells_arrow (a : Arrow) : Spells a.statement
    (arrowStatement a.source a.target a.label a.tooltip).tokens := by
  have h1 : Spells " -> " [.sign .arrow] := fun _ => rfl
  have h2 := ((spells_inQuotes a.source).append h1).append (spells_inQuotes a.target)
  have h3 := (h2.append spells_label).append (spells_inQuotes a.label)
  have h4 := h3.append (spells_fontsize a.tooltip)
  unfold Arrow.statement
  rw [String.append_assoc, String.append_assoc]
  exact h4

/-- how a cluster is read if its border is read as that value -/
def clusterWith (border : Value) (c : Cluster) : Item :=
  .subgraph (quoted ("cluster_" ++ c.key))
    (.setting (.word "label") (quoted c.key) :: .setting (.word "color") border
      :: .setting (.word "rank") (quoted "same") :: c.nodes.map statementOf)

/-- how a cluster is read -/
def clusterOf (color : String) (c : Cluster) : Item :=
  clusterItem c.key color (c.nodes.map statementOf)

theorem lines_clusterWith {color : String} {border : Value}
    (h : Spells (color ++ "\n") [.value border]) (c : Cluster) :
    Lines (c.lines color) (clusterWith border c).tokens := by
  have h1 : Spells "\tsubgraph " [.value (.word "subgraph")] := fun _ => rfl
  have h2 : Spells "\t\x7b" [.sign .openBrace] := fun _ => rfl
  have h3 : Spells "\t\tlabel = " [.value (.word "label"), .sign .equals] := fun _ => rfl
  have h4 : Spells "\t\tcolor = " [.value (.word "color"), .sign .equals] := fun _ => rfl
  have h5 : Spells "\t\trank=" [.value (.word "rank"), .sign .equals] := fun _ => rfl
  have h6 : Spells "\t\t" [] := fun _ => rfl
  have h7 : Spells "\t\x7d" [.sign .closeBrace] := fun _ => rfl
  have h8 := (h4.append h).of_eq String.append_assoc
  have h9 : "\t\trank=\"same\"" = "\t\trank=" ++ Escape.inQuotes "same" := by decide
  have h10 := (h5.append (spells_inQuotes "same")).of_eq h9
  have h11 := Lines.cons (h1.append (spells_inQuotes ("cluster_" ++ c.key))).line (.cons h2.line
    (.cons (h3.append (spells_inQuotes c.key)).line (.cons h8 (.cons h10.line .nil))))
  have h12 := h11.append (Lines.map (l := c.nodes) fun n _ => h6.append (spells_node n))
  have h13 := h12.append (.cons h7.line .nil)
  unfold Cluster.lines
  rw [clusterWith, Item.tokens, blockTokens, List.flatMap_cons, List.flatMap_cons,
    List.flatMap_cons, List.flatMap_map]
  exact h13

/-- how a diagram is read if its splines and the borders of its clusters are read as these values -/
def documentWith (splines border : Value) (d : Diagram) : Document where
  name := .word "G"
  items := headerWith d.direction splines ++ d.clusters.map (clusterWith border)
    ++ d.arrows.map fun a => .statement (arrowStatement a.source a.target a.label a.tooltip)

/-- how a diagram is read -/
def documentOf (d : Diagram) : Document where
  name := .word "G"
  items := header d.direction d.splines ++ d.clusters.map (clusterOf d.clusterColor)
    ++ d.arrows.map fun a => .statement (arrowStatement a.source a.target a.label a.tooltip)

theorem lines_header {splines : String} {v : Value} (h : Spells (splines ++ "\n") [.value v])
    (direction : Direction) :
    Lines ["\trankdir=" ++ direction.label, "\tnode [shape=plaintext]", "\tsplines=" ++ splines, ""]
      ((headerWith direction v).flatMap Item.tokens) := by
  have h1 : Spells "\trankdir=" [.value (.word "rankdir"), .sign .equals] := fun _ => rfl
  have h2 : Spells "\tnode [shape=plaintext]" [.value (.word "node"), .sign .openBracket,
      .value (.word "shape"), .sign .equals, .value (.word "plaintext"), .sign .closeBracket] :=
    fun _ => rfl
  have h3 : Spells "\tsplines=" [.value (.word "splines"), .sign .equals] := fun _ => rfl
  have h4 : Spells "" [] := fun _ => rfl
  have h5 : isIdentifier direction.label = true := by cases direction <;> decide
  have h6 := (h1.append (spells_word h5)).of_eq String.append_assoc
  have h7 := (h3.append h).of_eq String.append_assoc
  exact .cons h6 (.cons h2.line (.cons h7 (.cons h4.line .nil)))

theorem spells_start : Spells "digraph G \x7b"
    [.value (.word "digraph"), .value (.word "G"), .sign .openBrace] := fun _ => rfl

/-- **The text of a diagram spells its document**, if the two texts that are spelled as they are spell
one value each -/
theorem spells_dotWith (d : Diagram) {splines border : Value}
    (h1 : Spells (d.splines ++ "\n") [.value splines])
    (h2 : Spells (d.clusterColor ++ "\n") [.value border]) :
    Spells d.dot (documentWith splines border d).tokens := by
  have h4 : Spells "" [] := fun _ => rfl
  have h5 : Spells "\t" [] := fun _ => rfl
  have h6 : Spells "\x7d" [.sign .closeBrace] := fun _ => rfl
  have h7 := Lines.cons spells_start.line (lines_header h1 d.direction)
  have h8 := h7.append (Lines.flatMap (l := d.clusters) fun c _ => lines_clusterWith h2 c)
  have h9 := h8.append (Lines.cons h4.line .nil)
  have h10 := h9.append (Lines.map (l := d.arrows) fun a _ => h5.append (spells_arrow a))
  have h11 := h10.append (.cons h6.line .nil)
  unfold Diagram.dot Diagram.lines
  refine Eq.mp (congrArg (Lines _) ?_) h11
  simp only [documentWith, Document.tokens, blockTokens, clusterWith, Item.tokens,
    List.flatMap_append, List.flatMap_map, List.append_assoc, List.append_nil, List.nil_append,
    List.cons_append]

theorem spells_dot (d : Diagram) (h1 : isIdentifier d.splines = true)
    (h2 : isIdentifier d.clusterColor = true) : Spells d.dot (documentOf d).tokens :=
  spells_dotWith d (spells_word h1) (spells_word h2)

end MessageFlow.Dot
