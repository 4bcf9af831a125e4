import MessageFlow.Proofs.Diagram.Scanner

/-!
# The statements of DOT text

`Dot.read` makes a document of DOT text: settings, nodes, edges, and subgraphs with such statements
in them.  Every document has one spelling in tokens (`Document.tokens`), and this spelling is read as
the document again (`document_tokens`), so that a text has no other structure than the one read.
-/

namespace MessageFlow.Dot

inductive Statement where
  /-- a setting of the graph or subgraph that it stands in -/
  | setting (name value : Value)
  /-- a node, or the attributes of all nodes if the word for a node stands in place of a name -/
  | node (id : Value) (attributes : List (Value × Value))
  | edge (source target : Value) (attributes : List (Value × Value))
  deriving DecidableEq

inductive Item where
  | statement (s : Statement)
  | subgraph (name : Value) (body : List Statement)
  deriving DecidableEq

/-- a directed graph -/
structure Document where
  name : Value
  items : List Item
  deriving DecidableEq

/-! ### reading -/

/-- what a reader makes of the first tokens, and the tokens that it leaves -/
abbrev Outcome (α : Type) := Option (α × List Token)

/-- the attributes up to the bracket that closes them -/
def attributes : List Token → Outcome (List (Value × Value))
  | .sign .closeBracket :: ts => some ([], ts)
  | .value n :: .sign .equals :: .value v :: .sign .closeBracket :: ts => some ([(n, v)], ts)
  | .value n :: .sign .equals :: .value v :: .sign .comma :: ts =>
    (attributes ts).map fun r => ((n, v) :: r.1, r.2)
  | _ => none

def statement : List Token → Outcome Statement
  | .value n :: .sign .equals :: .value v :: ts => some (.setting n v, ts)
  | .value n :: .sign .openBracket :: ts => (attributes ts).map fun r => (.node n r.1, r.2)
  | .value s :: .sign .arrow :: .value t :: .sign .openBracket :: ts =>
    (attributes ts).map fun r => (.edge s t r.1, r.2)
  | _ => none

/-- what can be read up to a closing brace, at most `n` times -/
def untilBrace {α : Type} (reader : List Token → Outcome α) : Nat → List Token → Outcome (List α)
  | 0, _ => none
  | n + 1, ts =>
    match reader ts with
    | some (x, rest) => (untilBrace reader n rest).map fun r => (x :: r.1, r.2)
    | none =>
      match ts with
      | .sign .closeBrace :: rest => some ([], rest)
      | _ => none

/-- what stands between braces; nothing is read without a token -/
def block {α : Type} (reader : List Token → Outcome α) : List Token → Outcome (List α)
  | .sign .openBrace :: ts => untilBrace reader ts.length ts
  | _ => none

def item : List Token → Outcome Item
  | .value w :: .value n :: ts =>
    if w = .word "subgraph" then (block statement ts).map fun r => (.subgraph n r.1, r.2) else none
  | ts => (statement ts).map fun r => (.statement r.1, r.2)

def document : List Token → Option Document
  | .value w :: .value n :: ts =>
    if w = .word "digraph" then
      match block item ts with
      | some (items, []) => some ⟨n, items⟩
      | _ => none
    else none
  | _ => none

/-- the document that a text spells -/
def read (text : String) : Option Document := (scan text).bind document

/-! ### spelling -/

def attributeTokens : List (Value × Value) → List Token
  | [] => [.sign .closeBracket]
  | [(n, v)] => [.value n, .sign .equals, .value v, .sign .closeBracket]
  | (n, v) :: as => .value n :: .sign .equals :: .value v :: .sign .comma :: attributeTokens as

def Statement.tokens : Statement → List Token
  | .setting n v => [.value n, .sign .equals, .value v]
  | .node n as => .value n :: .sign .openBracket :: attributeTokens as
  | .edge s t as =>
    .value s :: .sign .arrow :: .value t :: .sign .openBracket :: attributeTokens as

def blockTokens {α : Type} (tokens : α → List Token) (xs : List α) : List Token :=
  .sign .openBrace :: (xs.flatMap tokens ++ [.sign .closeBrace])

def Item.tokens : Item → List Token
  | .statement s => s.tokens
  | .subgraph n body => .value (.word "subgraph") :: .value n :: blockTokens Statement.tokens body

def Document.tokens (d : Document) : List Token :=
  .value (.word "digraph") :: .value d.name :: blockTokens Item.tokens d.items

theorem attributes_tokens (as : List (Value × Value)) (rest : List Token) :
    attributes (attributeTokens as ++ rest) = some (as, rest) := by
  induction as with
  | nil => rfl
  | cons a as ih =>
    cases as with
    | nil => rfl
    | cons b as =>
      rw [attributeTokens]
      · simp only [List.cons_append, attributes, ih, Option.map_some]
      · simp

theorem statement_tokens (s : Statement) (rest : List Token) :
    statement (s.tokens ++ rest) = some (s, rest) := by
  cases s with
  | setting n v => rfl
  | node n as =>
    simp only [Statement.tokens, List.cons_append, statement, attributes_tokens, Option.map_some]
  | edge s t as =>
    simp only [Statement.tokens, List.cons_append, statement, attributes_tokens, Option.map_some]

section

variable {α : Type} {reader : List Token → Outcome α} {tokens : α → List Token}

theorem untilBrace_tokens (h1 : ∀ x rest, reader (tokens x ++ rest) = some (x, rest))
    (h2 : ∀ rest, reader (.sign .closeBrace :: rest) = none) {xs : List α} {n : Nat}
    (hn : xs.length < n) (rest : List Token) :
    untilBrace reader n (xs.flatMap tokens ++ .sign .closeBrace :: rest) = some (xs, rest) := by
  induction xs generalizing n with
  | nil =>
    cases n with
    | zero => exact absurd hn (Nat.lt_irrefl 0)
    | succ n => simp only [List.flatMap_nil, List.nil_append, untilBrace, h2]
  | cons x xs ih =>
    cases n with
    | zero => exact absurd hn (Nat.not_lt_zero _)
    | succ n =>
      have h3 := ih (Nat.lt_of_succ_lt_succ hn)
      simp only [List.flatMap_cons, List.append_assoc, untilBrace, h1, h3, Option.map_some]

/-- a reader that reads every spelling back and takes no brace reads a whole block -/
theorem block_tokens (h1 : ∀ x rest, reader (tokens x ++ rest) = some (x, rest))
    (h2 : ∀ rest, reader (.sign .closeBrace :: rest) = none) (xs : List α) (rest : List Token) :
    block reader (blockTokens tokens xs ++ rest) = some (xs, rest) := by
  -- what is spelled by no token would be read without the brace
  have h3 : ∀ x, 1 ≤ (tokens x).length := by
    intro x
    by_contra h4
    have h5 := h1 x [.sign .closeBrace]
    rw [List.length_eq_zero_iff.mp (Nat.lt_one_iff.mp (Nat.lt_of_not_le h4)), List.nil_append,
      h2] at h5
    contradiction
  have h4 : xs.length ≤ (xs.flatMap tokens).length := by
    induction xs with
    | nil => exact Nat.le_refl 0
    | cons x xs ih =>
      have := h3 x
      rw [List.flatMap_cons, List.length_append, List.length_cons]
      omega
  rw [blockTokens, List.cons_append, List.append_assoc, List.singleton_append, block]
  refine untilBrace_tokens h1 h2 ?_ rest
  rw [List.length_append, List.length_cons]
  omega

end

theorem item_tokens (i : Item) (rest : List Token) : item (i.tokens ++ rest) = some (i, rest) := by
  cases i with
  | statement s =>
    have h1 := statement_tokens s rest
    -- no statement begins with two values
    have h2 : item (s.tokens ++ rest) = (statement (s.tokens ++ rest)).map
        fun r => (.statement r.1, r.2) := by
      cases s <;> rfl
    rw [Item.tokens, h2, h1, Option.map_some]
  | subgraph n body =>
    have h1 := block_tokens statement_tokens (fun _ => rfl) body rest
    simp only [Item.tokens, List.cons_append, item, if_true, h1, Option.map_some]

theorem document_tokens (d : Document) : document d.tokens = some d := by
  have h1 := block_tokens item_tokens (fun _ => rfl) d.items []
  rw [List.append_nil] at h1
  simp only [Document.tokens, document, if_true, h1]

/-- a text that spells a document is read as this document -/
theorem Spells.read {text : String} {d : Document} (h : Spells text d.tokens) :
    read text = some d := by
  rw [Dot.read, h.scan, Option.bind_some, document_tokens]

end MessageFlow.Dot
