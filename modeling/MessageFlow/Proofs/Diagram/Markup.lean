import MessageFlow.Diagram.Dot
import MessageFlow.Proofs.Diagram.Escape

/-!
# Reading a table back

A label that is written like HTML is a row of tags, each with attributes between double quotes and
with the text that stands before the next tag.  `Markup.read` takes such a label apart and undoes
its escapes; the label of a node always has the same tags, with its four texts in them
(`read_label`).
-/

namespace MessageFlow

/-- a scanner that only collects what it reads -/
theorem foldlM_collect {σ : Type} {step : σ → Char → Option σ} (f : List Char → σ) {cs : List Char}
    (h : ∀ c ∈ cs, ∀ raw, step (f raw) c = some (f (c :: raw))) (raw : List Char) :
    cs.foldlM step (f raw) = some (f (cs.reverse ++ raw)) := by
  induction cs generalizing raw with
  | nil => rfl
  | cons c cs ih =>
    rw [List.foldlM_cons, h c List.mem_cons_self raw, Option.bind_eq_bind, Option.bind_some,
      ih (fun d hd => h d (List.mem_cons_of_mem c hd)), List.reverse_cons, List.append_assoc,
      List.singleton_append]

/-- the text of a table cell is collected if the scanner stops at the delimiters of tables only -/
theorem foldlM_collect_html {σ : Type} (step : σ → Char → Option σ) (f : List Char → σ)
    (h : ∀ raw c, c ≠ '<' → c ≠ '>' → c ≠ '"' → step (f raw) c = some (f (c :: raw)))
    (t : String) (raw : List Char) :
    (Escape.html t).toList.foldlM step (f raw) = some (f ((Escape.html t).toList.reverse ++ raw)) := by
  refine foldlM_collect f ?_ raw
  intro c hc raw
  rw [Escape.toList_html] at hc
  obtain ⟨hl, hr, hq⟩ := Escape.flatMap_htmlChar_ne _ c hc
  exact h raw c hl hr hq

namespace Markup

/-- a tag and the text up to the next one -/
structure Piece where
  /-- the name, with a slash before it if the tag closes what another one opens -/
  tag : String
  attributes : List (String × String)
  text : String
  deriving DecidableEq

/-- where in a label a scanner is; names and texts that are being read have their last character
first, and so do attributes -/
inductive Mode where
  /-- before the first tag -/
  | outside
  | tag (name : List Char)
  /-- between the attributes of a tag -/
  | inside (tag : String) (attributes : List (String × String))
  | attribute (tag : String) (attributes : List (String × String)) (name : List Char)
  /-- between the name of an attribute and its value -/
  | equals (tag : String) (attributes : List (String × String)) (name : String)
  | value (tag : String) (attributes : List (String × String)) (name : String) (raw : List Char)
  | text (tag : String) (attributes : List (String × String)) (raw : List Char)

structure Scanner where
  mode : Mode
  /-- the pieces so far, the last one first -/
  pieces : List Piece

def word (letters : List Char) : String := .ofList letters.reverse

/-- the text that is spelled by what was read -/
def content? (raw : List Char) : Option String := (Escape.entities raw.reverse).map .ofList

/-- a tag with its text, which ends here -/
def piece? (tag : String) (attributes : List (String × String)) (raw : List Char) : Option Piece :=
  (content? raw).map fun t => ⟨tag, attributes.reverse, t⟩

namespace Scanner

def step (s : Scanner) (c : Char) : Option Scanner :=
  match s.mode with
  | .outside => if c = '<' then some { s with mode := .tag [] } else none
  | .tag name =>
    if c = '>' then some { s with mode := .text (word name) [] [] }
    else if c = ' ' then some { s with mode := .inside (word name) [] }
    else some { s with mode := .tag (c :: name) }
  | .inside tag attributes =>
    if c = '>' then some { s with mode := .text tag attributes [] }
    else if c = ' ' then some s
    else some { s with mode := .attribute tag attributes [c] }
  | .attribute tag attributes name =>
    if c = '=' then some { s with mode := .equals tag attributes (word name) }
    else some { s with mode := .attribute tag attributes (c :: name) }
  | .equals tag attributes name =>
    if c = '"' then some { s with mode := .value tag attributes name [] } else none
  | .value tag attributes name raw =>
    if c = '"' then
      (content? raw).map fun v => { s with mode := .inside tag ((name, v) :: attributes) }
    else some { s with mode := .value tag attributes name (c :: raw) }
  | .text tag attributes raw =>
    if c = '<' then (piece? tag attributes raw).map fun p => ⟨.tag [], p :: s.pieces⟩
    else if c = '>' then none
    else some { s with mode := .text tag attributes (c :: raw) }

def run (s : Scanner) (cs : List Char) : Option Scanner := cs.foldlM step s

/-- all pieces, if the scanner is in no tag -/
def pieces? (s : Scanner) : Option (List Piece) :=
  match s.mode with
  | .text tag attributes raw => (piece? tag attributes raw).map fun p => (p :: s.pieces).reverse
  | _ => none

theorem run_append {s t u : Scanner} {cs ds : List Char} (h1 : s.run cs = some t)
    (h2 : t.run ds = some u) : s.run (cs ++ ds) = some u := by
  rw [run, List.foldlM_append]
  exact (congrArg (Option.bind · _) h1).trans h2

end Scanner

/-- the pieces that a label consists of -/
def read (label : List Char) : Option (List Piece) :=
  (Scanner.run ⟨.outside, []⟩ label).bind Scanner.pieces?

/-! ### free text -/

section

variable (tag : String) (attributes : List (String × String)) (pieces : List Piece) (t : String)

theorem content?_html : content? (Escape.html t).toList.reverse = some t := by
  rw [content?, List.reverse_reverse, Escape.toList_html, Escape.entities_flatMap_htmlChar,
    Option.map_some, String.ofList_toList]

/-- an escaped value ends where its quote is -/
theorem run_value (name : String) :
    Scanner.run ⟨.value tag attributes name [], pieces⟩ ((Escape.html t).toList ++ ['"']) =
      some ⟨.inside tag ((name, t) :: attributes), pieces⟩ := by
  have h1 := foldlM_collect_html Scanner.step (fun raw => ⟨.value tag attributes name raw, pieces⟩)
    (fun _ _ _ _ hq => if_neg hq) t []
  rw [List.append_nil] at h1
  refine Scanner.run_append h1 ?_
  simp only [Scanner.run, List.foldlM_cons, List.foldlM_nil, Scanner.step, if_true, content?_html,
    Option.map_some, Option.bind_eq_bind, Option.bind_some, Option.pure_def]

/-- an escaped text ends where the next tag begins -/
theorem run_text :
    Scanner.run ⟨.text tag attributes [], pieces⟩ ((Escape.html t).toList ++ ['<']) =
      some ⟨.tag [], ⟨tag, attributes.reverse, t⟩ :: pieces⟩ := by
  have h1 := foldlM_collect_html Scanner.step (fun raw => ⟨.text tag attributes raw, pieces⟩)
    (fun _ _ hl hr _ => (if_neg hl).trans (if_neg hr)) t []
  rw [List.append_nil] at h1
  refine Scanner.run_append h1 ?_
  simp only [Scanner.run, List.foldlM_cons, List.foldlM_nil, Scanner.step, if_true, piece?,
    content?_html, Option.map_some, Option.bind_eq_bind, Option.bind_some, Option.pure_def]

end

/-! ### the label of a node -/

/-- two rows of one cell each -/
def table (upperColor upperText lowerColor lowerText : String) : List Piece :=
  [⟨"TABLE", [("BORDER", "0"), ("CELLBORDER", "1"), ("CELLSPACING", "0")], ""⟩,
    ⟨"TR", [], ""⟩, ⟨"TD", [("BGCOLOR", upperColor)], upperText⟩, ⟨"/TD", [], ""⟩, ⟨"/TR", [], ""⟩,
    ⟨"TR", [], ""⟩, ⟨"TD", [("PORT", "out"), ("BGCOLOR", lowerColor)], lowerText⟩,
    ⟨"/TD", [], ""⟩, ⟨"/TR", [], ""⟩, ⟨"/TABLE", [], ""⟩]

/-- what stands between the outermost angle brackets of the table of a node -/
def label (n : Node) : List Char :=
  "<TABLE BORDER=\"0\" CELLBORDER=\"1\" CELLSPACING=\"0\"><TR><TD BGCOLOR=\"".toList
    ++ ((Escape.html n.moduleColor).toList ++ ['"']) ++ [ '>' ]
    ++ ((Escape.html n.namespaceRow).toList ++ ['<'])
    ++ "/TD></TR><TR><TD PORT=\"out\" BGCOLOR=\"".toList
    ++ ((Escape.html n.classColor).toList ++ ['"']) ++ [ '>' ]
    ++ ((Escape.html n.classRow).toList ++ ['<']) ++ "/TD></TR></TABLE>".toList

theorem toList_table (n : Node) : n.table.toList = ['<'] ++ label n ++ ['>'] := by
  unfold Node.table label
  simp

theorem read_label (n : Node) :
    read (label n) = some (table n.moduleColor n.namespaceRow n.classColor n.classRow) := by
  have h1 : Scanner.run ⟨.outside, []⟩
      "<TABLE BORDER=\"0\" CELLBORDER=\"1\" CELLSPACING=\"0\"><TR><TD BGCOLOR=\"".toList =
      some ⟨.value "TD" [] "BGCOLOR" [], [⟨"TR", [], ""⟩,
        ⟨"TABLE", [("BORDER", "0"), ("CELLBORDER", "1"), ("CELLSPACING", "0")], ""⟩]⟩ := by rfl
  have h2 : ∀ as ps, Scanner.run ⟨.inside "TD" as, ps⟩ ['>'] = some ⟨.text "TD" as [], ps⟩ :=
    fun _ _ => rfl
  have h3 : ∀ ps, Scanner.run ⟨.tag [], ps⟩ "/TD></TR><TR><TD PORT=\"out\" BGCOLOR=\"".toList =
      some ⟨.value "TD" [("PORT", "out")] "BGCOLOR" [],
        ⟨"TR", [], ""⟩ :: ⟨"/TR", [], ""⟩ :: ⟨"/TD", [], ""⟩ :: ps⟩ := by
    intro ps
    rfl
  have h4 : ∀ ps, Scanner.run ⟨.tag [], ps⟩ "/TD></TR></TABLE>".toList =
      some ⟨.text "/TABLE" [] [], ⟨"/TR", [], ""⟩ :: ⟨"/TD", [], ""⟩ :: ps⟩ := by
    intro ps
    rfl
  have h5 := Scanner.run_append h1 (run_value "TD" [] _ n.moduleColor "BGCOLOR")
  have h6 := Scanner.run_append (Scanner.run_append h5 (h2 _ _)) (run_text "TD" _ _ n.namespaceRow)
  have h7 := Scanner.run_append h6 (h3 _)
  have h8 := Scanner.run_append h7 (run_value "TD" _ _ n.classColor "BGCOLOR")
  have h9 := Scanner.run_append (Scanner.run_append h8 (h2 _ _)) (run_text "TD" _ _ n.classRow)
  have h10 := Scanner.run_append h9 (h4 _)
  exact congrArg (Option.bind · Scanner.pieces?) h10

end Markup

end MessageFlow
