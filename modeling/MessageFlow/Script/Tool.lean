import MessageFlow.Script.State

/-!
# Tools

What the commands have in common that are programs of their own: a tool changes the state of the
script that calls it, by its arguments.
-/

namespace MessageFlow.Script

open Text (Bytes utf8)

/-- what a command does with its arguments, in one of the lines of a script -/
abbrev Tool := State → Nat → List Bytes → State

/-- the options of a command by their letters, with their values, and the other arguments -/
structure Options where
  set : List (Char × String)
  rest : List String

namespace Options

def has (o : Options) (c : Char) : Bool := (o.set.lookup c).isSome

def value? (o : Options) (c : Char) : Option String := o.set.lookup c

/-- the letters in one argument, and the letter whose value is the next argument -/
def letters (valued : List Char) : List Char → List (Char × String) × Option Char
  | [] => ([], none)
  | c :: cs =>
    if valued.contains c then
      if cs = [] then ([], some c) else ([(c, .ofList cs)], none)
    else
      let (more, open?) := letters valued cs
      ((c, "") :: more, open?)

/-- reads arguments; `valued` are the letters that have a value, and `open?` is the letter whose
value comes first -/
def read (valued : List Char) (open? : Option Char) : List String → Options
  | [] => ⟨[], []⟩
  | a :: more =>
    match open? with
    | some c =>
      let o := read valued none more
      ⟨(c, a) :: o.set, o.rest⟩
    | none =>
      match a.toList with
      | ['-', '-'] => ⟨[], more⟩
      | '-' :: c :: cs =>
        let (set, open?) := letters valued (c :: cs)
        let o := read valued open? more
        ⟨set ++ o.set, o.rest⟩
      | _ =>
        let o := read valued none more
        ⟨o.set, a :: o.rest⟩

end Options

/-- the options of a tool among its arguments -/
def options (valued : List Char) (args : List Bytes) : Options :=
  .read valued none (args.map Text.ofUtf8Lossy)

/-- a path in messages -/
def quoted (path : String) : String := "'" ++ path ++ "'"

namespace State

/-- does something for each of some paths; the status tells whether one of them failed -/
def forEach (s : State) (paths : List String) (act : State → String → Except String State) : State :=
  paths.foldl (fun s path =>
    match act s path with
    | .ok s => s
    | .error text => { s.complain text with status := 1 }) (s.ended 0)

/-- the contents of some files, or the input where there are none or the path is a dash -/
def contents (s : State) (paths : List String) (complaint : String → FileFault → String) :
    State × List Bytes :=
  (if paths = [] then ["-"] else paths).foldl (fun (s, all) path =>
    if path = "-" ∨ path = "/dev/stdin" then ({ s with input := [] }, all ++ [s.input])
    else if path = "/dev/null" then (s, all ++ [[]])
    else
      match s.tree.read s.base path with
      | .ok bytes => (s, all ++ [bytes])
      | .error fault => ({ s.complain (complaint path fault) with status := 1 }, all)) (s.ended 0, [])

/-- the contents of some files one after the other -/
def joinedContents (s : State) (paths : List String) (complaint : String → FileFault → String) :
    State × Bytes :=
  let (s, all) := s.contents paths complaint
  (s, all.flatten)

end State

/-- the usual complaint of a tool about a path -/
def plainly (tool path : String) (fault : FileFault) : String :=
  tool ++ ": " ++ path ++ ": " ++ faultText fault

/-- the lines of some bytes, each with its line feed -/
def linesOf : Bytes → List Bytes
  | [] => []
  | b :: bs =>
    if b = 0x0A then [b] :: linesOf bs
    else match linesOf bs with
      | [] => [[b]]
      | line :: lines => (b :: line) :: lines

theorem linesOf_flatten (bytes : Bytes) : (linesOf bytes).flatten = bytes := by
  induction bytes with
  | nil => rfl
  | cons b bs ih =>
    unfold linesOf
    split
    · simp [ih]
    · split
      next h =>
        have h1 : bs = [] := by rw [← ih, h]; rfl
        rw [h1]
        rfl
      next line lines h =>
        rw [h, List.flatten_cons] at ih
        rw [List.flatten_cons, List.cons_append, ih]

/-- the line without its line feed -/
def bare (line : Bytes) : Bytes := if line.getLast? = some 0x0A then line.dropLast else line

end MessageFlow.Script
