import MessageFlow.Proofs.Diagram.Markup

/-!
# Scanning DOT text

`Dot.scan` splits DOT text into tokens: signs, words, quoted texts and labels that are written like
HTML.  A backslash takes the next character of a quoted text with it, so that the text ends at the
first quote that stands for itself, and a label ends at the angle bracket that closes its first one.

`Spells` says what a text contributes between two tokens, wherever it stands.  Words, escaped texts
(`spells_inQuotes`) and tables (`spells_table`) are each read as one value, whatever they contain.
-/

namespace MessageFlow.Dot

inductive Sign where
  | openBrace
  | closeBrace
  | openBracket
  | closeBracket
  | equals
  | comma
  | arrow
  deriving DecidableEq

inductive Value where
  /-- an identifier or a number -/
  | word (w : String)
  /-- a quoted text, its escapes undone -/
  | text (t : String)
  | markup (label : List Markup.Piece)
  deriving DecidableEq

inductive Token where
  | sign (s : Sign)
  | value (v : Value)
  deriving DecidableEq

/-- what a scanner is reading, with the last character first -/
inductive Mode where
  | between
  | word (letters : List Char)
  | number (digits : List Char)
  /-- behind the first character of an arrow -/
  | dash
  | quoted (raw : List Char)
  /-- behind a backslash in a quoted text -/
  | escape (raw : List Char)
  /-- in a label, with the number of angle brackets that are open in it -/
  | html (depth : Nat) (raw : List Char)

structure Scanner where
  mode : Mode
  /-- the tokens so far, the last one first -/
  tokens : List Token

def isGap (c : Char) : Bool := c = ' ' || c = '\t' || c = '\n' || c = '\r'

/-- what a word may begin with -/
def isLetter (c : Char) : Bool := c.isAlpha || c = '_' || 128 ≤ c.toNat

def Sign.ofChar? (c : Char) : Option Sign :=
  match c with
  | '\x7b' => some openBrace
  | '\x7d' => some closeBrace
  | '[' => some openBracket
  | ']' => some closeBracket
  | '=' => some equals
  | ',' => some comma
  | _ => none

def Token.word (letters : List Char) : Token := .value (.word (.ofList letters.reverse))

namespace Scanner

/-- the first character behind a token -/
def start (tokens : List Token) (c : Char) : Option Scanner :=
  if isGap c then some ⟨.between, tokens⟩
  else if isLetter c then some ⟨.word [c], tokens⟩
  else if c.isDigit then some ⟨.number [c], tokens⟩
  else if c = '"' then some ⟨.quoted [], tokens⟩
  else if c = '<' then some ⟨.html 0 [], tokens⟩
  else if c = '-' then some ⟨.dash, tokens⟩
  else (Sign.ofChar? c).map fun s => ⟨.between, .sign s :: tokens⟩

def step (s : Scanner) (c : Char) : Option Scanner :=
  match s.mode with
  | .between => start s.tokens c
  | .word letters =>
    if isLetter c || c.isDigit then some { s with mode := .word (c :: letters) }
    else start (.word letters :: s.tokens) c
  | .number digits =>
    if c.isDigit || (c = '.' && !digits.contains '.') then
      some { s with mode := .number (c :: digits) }
    else start (.word digits :: s.tokens) c
  | .dash => if c = '>' then some ⟨.between, .sign .arrow :: s.tokens⟩ else none
  | .quoted raw =>
    if c = '"' then
      (Escape.unquote raw.reverse).map fun t => ⟨.between, .value (.text (.ofList t)) :: s.tokens⟩
    else if c = '\\' then some { s with mode := .escape raw }
    else some { s with mode := .quoted (c :: raw) }
  | .escape raw => some { s with mode := .quoted (c :: '\\' :: raw) }
  | .html depth raw =>
    if c = '<' then some { s with mode := .html (depth + 1) (c :: raw) }
    else if c = '>' then
      match depth with
      | 0 => (Markup.read raw.reverse).map fun l => ⟨.between, .value (.markup l) :: s.tokens⟩
      | depth + 1 => some { s with mode := .html depth (c :: raw) }
    else some { s with mode := .html depth (c :: raw) }

def run (s : Scanner) (cs : List Char) : Option Scanner := cs.foldlM step s

/-- all tokens, if the scanner is in none -/
def tokens? (s : Scanner) : Option (List Token) :=
  match s.mode with
  | .between => some s.tokens.reverse
  | _ => none

theorem run_append {s t u : Scanner} {cs ds : List Char} (h1 : s.run cs = some t)
    (h2 : t.run ds = some u) : s.run (cs ++ ds) = some u := by
  rw [run, List.foldlM_append]
  exact (congrArg (Option.bind · _) h1).trans h2

end Scanner

/-- the tokens of a text that ends with a sign or a gap -/
def scan (text : String) : Option (List Token) :=
  (Scanner.run ⟨.between, []⟩ text.toList).bind Scanner.tokens?

/-- between two tokens the text is read as these tokens -/
def Spells (text : String) (tokens : List Token) : Prop :=
  ∀ done, Scanner.run ⟨.between, done⟩ text.toList = some ⟨.between, tokens.reverse ++ done⟩

theorem Spells.append {a b : String} {ts us : List Token} (ha : Spells a ts) (hb : Spells b us) :
    Spells (a ++ b) (ts ++ us) := by
  intro done
  rw [String.toList_append, List.reverse_append, List.append_assoc]
  exact Scanner.run_append (ha done) (hb _)

theorem Spells.scan {text : String} {ts : List Token} (h : Spells text ts) :
    scan text = some ts := by
  rw [Dot.scan, h [], Option.bind_some, Scanner.tokens?, List.append_nil, List.reverse_reverse]

/-! ### words -/

/-- letters and digits, a letter first -/
def isIdentifier (w : String) : Bool :=
  match w.toList with
  | [] => false
  | c :: cs => isLetter c && cs.all fun d => isLetter d || d.isDigit

theorem isIdentifier_iff {w : String} : isIdentifier w = true ↔
    ∃ c cs, w.toList = c :: cs ∧ isLetter c = true ∧ ∀ d ∈ cs, (isLetter d || d.isDigit) = true := by
  cases hw : w.toList with
  | nil => simp [isIdentifier, hw]
  | cons c cs => simp [isIdentifier, hw]

theorem isGap_of_isLetter {c : Char} (h : isLetter c = true) : isGap c = false := by
  by_contra h1
  rw [Bool.not_eq_false, isGap] at h1
  simp only [Bool.or_eq_true, decide_eq_true_eq] at h1
  obtain ((rfl | rfl) | rfl) | rfl := h1 <;> exact absurd h (by decide)

/-- an identifier ends with its line -/
theorem spells_word {w : String} (h : isIdentifier w = true) :
    Spells (w ++ "\n") [.value (.word w)] := by
  obtain ⟨c, cs, hw, hc, hcs⟩ := isIdentifier_iff.mp h
  intro done
  have h1 : Scanner.step ⟨.between, done⟩ c = some ⟨.word [c], done⟩ := by
    simp only [Scanner.step, Scanner.start, isGap_of_isLetter hc, hc, if_true, Bool.false_eq_true,
      if_false]
  have h2 : ∀ d ∈ cs, ∀ letters,
      Scanner.step ⟨.word letters, done⟩ d = some ⟨.word (d :: letters), done⟩ :=
    fun d hd _ => if_pos (hcs d hd)
  have h3 : Scanner.run ⟨.word [c], done⟩ cs = some ⟨.word (cs.reverse ++ [c]), done⟩ :=
    foldlM_collect (fun letters => (⟨.word letters, done⟩ : Scanner)) h2 [c]
  have h4 : Scanner.run ⟨.between, done⟩ w.toList = some ⟨.word w.toList.reverse, done⟩ := by
    rw [hw, List.reverse_cons, Scanner.run, List.foldlM_cons, h1]
    exact h3
  have h5 : ∀ letters, Scanner.run ⟨.word letters, done⟩ ['\n'] =
      some ⟨.between, Token.word letters :: done⟩ := fun _ => rfl
  have h6 := Scanner.run_append h4 (h5 _)
  rw [Token.word, List.reverse_reverse, String.ofList_toList] at h6
  rw [String.toList_append]
  exact h6

/-! ### quoted texts -/

theorem run_quotedChar (c : Char) (raw : List Char) (done : List Token) :
    Scanner.run ⟨.quoted raw, done⟩ (Escape.quotedChar c) =
      some ⟨.quoted ((Escape.quotedChar c).reverse ++ raw), done⟩ := by
  obtain ⟨-, h1⟩ | ⟨d, h1, -⟩ | ⟨h1, h2, h3, -⟩ := Escape.quotedChar_cases c
  · rw [h1]; rfl
  · rw [h1]; rfl
  · rw [h1]; simp [Scanner.run, Scanner.step, h2, h3]

theorem run_flatMap_quotedChar (cs raw : List Char) (done : List Token) :
    Scanner.run ⟨.quoted raw, done⟩ (cs.flatMap Escape.quotedChar) =
      some ⟨.quoted ((cs.flatMap Escape.quotedChar).reverse ++ raw), done⟩ := by
  induction cs generalizing raw with
  | nil => rfl
  | cons c cs ih =>
    rw [List.flatMap_cons, List.reverse_append, List.append_assoc]
    exact Scanner.run_append (run_quotedChar c raw done) (ih _)

/-- a quote that stands for itself ends the text -/
theorem run_quote (done : List Token) {cs t : List Char} (h : Escape.unquote cs = some t) :
    Scanner.run ⟨.quoted cs.reverse, done⟩ ['"'] =
      some ⟨.between, .value (.text (.ofList t)) :: done⟩ := by
  simp [Scanner.run, Scanner.step, h]

/-- **A quoted text is one value**, whatever it contains: it ends at its own quote -/
theorem spells_inQuotes (t : String) :
    Spells (Escape.inQuotes t) [.value (.text (Escape.withoutReturns t))] := by
  intro done
  have h1 : (Escape.inQuotes t).toList = ['"'] ++ t.toList.flatMap Escape.quotedChar ++ ['"'] := by
    simp [Escape.inQuotes, Escape.quoted]
  have h2 : Scanner.run ⟨.between, done⟩ ['"'] = some ⟨.quoted [], done⟩ := rfl
  have h3 := run_flatMap_quotedChar t.toList [] done
  have h4 := run_quote done (Escape.unquote_flatMap_quotedChar t.toList)
  rw [List.append_nil] at h3
  rw [h1]
  exact Scanner.run_append (Scanner.run_append h2 h3) h4

example : scan "\"a\\\"\\n\" -> b\n" =
    some [.value (.text "a\"\n"), .sign .arrow, .value (.word "b")] := by decide +kernel

/-! ### tables -/

/-- in a label the scanner collects these characters, and has `e` brackets open then -/
def Collects (d : Nat) (cs : List Char) (e : Nat) : Prop :=
  ∀ raw done, Scanner.run ⟨.html d raw, done⟩ cs = some ⟨.html e (cs.reverse ++ raw), done⟩

theorem Collects.append {d e f : Nat} {cs ds : List Char} (h1 : Collects d cs e)
    (h2 : Collects e ds f) : Collects d (cs ++ ds) f := by
  intro raw done
  rw [List.reverse_append, List.append_assoc]
  exact Scanner.run_append (h1 raw done) (h2 _ done)

theorem collects_html (d : Nat) (t : String) : Collects d (Escape.html t).toList d := by
  intro raw done
  exact foldlM_collect_html Scanner.step (fun raw => ⟨.html d raw, done⟩)
    (fun _ _ hl hr _ => (if_neg hl).trans (if_neg hr)) t raw

theorem collects_label (n : Node) : Collects 0 (Markup.label n) 0 := by
  have h1 : Collects 0
      "<TABLE BORDER=\"0\" CELLBORDER=\"1\" CELLSPACING=\"0\"><TR><TD BGCOLOR=\"".toList 1 := by
    intro raw done
    rfl
  have h2 : ∀ d, Collects d ['"'] d := fun _ _ _ => rfl
  have h3 : Collects 1 ['>'] 0 := fun _ _ => rfl
  have h4 : Collects 0 ['<'] 1 := fun _ _ => rfl
  have h5 : Collects 1 "/TD></TR><TR><TD PORT=\"out\" BGCOLOR=\"".toList 1 := by
    intro raw done
    rfl
  have h6 : Collects 1 "/TD></TR></TABLE>".toList 0 := by
    intro raw done
    rfl
  have h7 := h1.append ((collects_html 1 n.moduleColor).append (h2 1))
  have h8 := (h7.append h3).append ((collects_html 0 n.namespaceRow).append h4)
  have h9 := (h8.append h5).append ((collects_html 1 n.classColor).append (h2 1))
  have h10 := (h9.append h3).append ((collects_html 0 n.classRow).append h4)
  exact h10.append h6

/-- the bracket that closes the first one ends the label -/
theorem run_bracket (done : List Token) {cs : List Char} {l : List Markup.Piece}
    (h : Markup.read cs = some l) :
    Scanner.run ⟨.html 0 cs.reverse, done⟩ ['>'] = some ⟨.between, .value (.markup l) :: done⟩ := by
  simp [Scanner.run, Scanner.step, h]

/-- **A table is one value**, whatever its texts contain: it ends at its own bracket -/
theorem spells_table (n : Node) : Spells n.table
    [.value (.markup (Markup.table n.moduleColor n.namespaceRow n.classColor n.classRow))] := by
  intro done
  have h1 : Scanner.run ⟨.between, done⟩ ['<'] = some ⟨.html 0 [], done⟩ := rfl
  have h2 := collects_label n [] done
  have h3 := run_bracket done (Markup.read_label n)
  rw [List.append_nil] at h2
  rw [Markup.toList_table]
  exact Scanner.run_append (Scanner.run_append h1 h2) h3

end MessageFlow.Dot
