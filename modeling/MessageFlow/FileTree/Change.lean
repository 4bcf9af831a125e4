import MessageFlow.FileTree.Basic

/-!
# Reading and changing a file tree

What programs do to a tree by paths: telling what is there, reading and writing files, making
directories, and moving a file to another path.  Each operation answers the new tree or the fault
that keeps it from happening.
-/

namespace MessageFlow

open Text (Bytes)

/-- what a path leads to -/
inductive FileKind where
  | directory
  | file
  deriving DecidableEq

namespace FileTree

/-- what a path leads to -/
def kind (t : FileTree) (base : Place) (path : String) : Except FileFault FileKind := do
  match t.find? (← t.follow base path) with
  | some .directory => pure .directory
  | some (.file _ _) => pure .file
  | _ => .error .notFound

/-- the content of a file -/
def read (t : FileTree) (base : Place) (path : String) : Except FileFault Bytes := do
  match t.find? (← t.follow base path) with
  | some .directory => .error .isADirectory
  | some (.file content _) => pure content
  | _ => .error .notFound

/-- makes one directory, where nothing is yet -/
def makeDirectory (t : FileTree) (base : Place) (path : String) : Except FileFault FileTree := do
  match ← t.tip base path with
  | .special _ => .error .alreadyExists
  | .named directory name _ =>
    match t.find? (directory ++ [name]) with
    | some _ => .error .alreadyExists
    | none => pure (t.set (directory ++ [name]) .directory)

/-- the place of the file that writing to a path changes; a link is followed, even to nothing -/
def writePlace (t : FileTree) (links : Nat) (base : Place) (path : String) :
    Except FileFault Place :=
  match _h : t.approach links base path with
  | .error fault => .error fault
  | .ok (.special _, _) => .error .isADirectory
  | .ok (.named directory name slash, left) =>
    if slash then .error .isADirectory
    else match t.find? (directory ++ [name]) with
      | some .directory => .error .isADirectory
      | some (.link target) =>
        match _e : left with
        | 0 => .error .tooManyLinks
        | n + 1 => t.writePlace n directory target
      | _ => .ok (directory ++ [name])
termination_by links
decreasing_by
  have h1 := approach_le _h
  omega

/-- puts a content at a place; a file that can be run stays so -/
def put (t : FileTree) (p : Place) (content : Bytes) : FileTree :=
  match t.find? p with
  | some (.file _ executable) => t.set p (.file content executable)
  | _ => t.set p (.file content false)

/-- writes a whole file, which need not exist before -/
def write (t : FileTree) (base : Place) (path : String) (content : Bytes) :
    Except FileFault FileTree := do
  pure (t.put (← t.writePlace linkLimit base path) content)

/-- the length of the longest of some names -/
def longest : List String → Nat
  | [] => 0
  | name :: names => max name.length (longest names)

/-- a name that is longer than all names in the tree, so that nothing has it -/
def freshName (t : FileTree) : String :=
  .ofList (List.replicate (longest (t.entries.flatMap (·.1)) + 1) '~')

/-- creates an empty file of a new name in a directory -/
def stage (t : FileTree) (base : Place) (path : String) : Except FileFault (Place × FileTree) := do
  let directory ← t.follow base path
  match t.find? directory with
  | some .directory =>
    let place := directory ++ [t.freshName]
    pure (place, t.set place (.file [] false))
  | _ => .error .notADirectory

/-- moves the file at a place to a path, over the file or link that may be there -/
def move (t : FileTree) (source : Place) (base : Place) (path : String) :
    Except FileFault FileTree := do
  if path.contains '\x00' then .error .invalid
  match ← t.tip base path with
  | .special _ => .error .busy
  | .named directory name slash =>
    if slash then .error .notADirectory
    else match t.find? (directory ++ [name]), t.find? source with
      | some .directory, _ => .error .isADirectory
      | _, none => .error .notFound
      | _, some e => pure ((t.erase source).set (directory ++ [name]) e)

/-- takes away what is at a place and below it -/
def removeAll (t : FileTree) (p : Place) : FileTree :=
  ⟨t.entries.filter fun e => ¬ p.isPrefixOf e.1⟩

/-- puts an entry at a place and makes the directories above it that are missing -/
def plant (t : FileTree) (p : Place) (e : Entry) : FileTree :=
  let above := (List.range p.length).map p.take
  let missing := above.filter fun q => t.find? q = none
  (missing.foldl (fun t q => t.set q .directory) t).set p e

theorem length_le_longest {name : String} {names : List String} (h : name ∈ names) :
    name.length ≤ longest names := by
  induction names with
  | nil => simp at h
  | cons n ns ih =>
    rcases List.mem_cons.mp h with rfl | h
    · exact Nat.le_max_left _ _
    · exact Nat.le_trans (ih h) (Nat.le_max_right _ _)

theorem freshName_notMem (t : FileTree) : t.freshName ∉ t.entries.flatMap (·.1) := by
  intro h
  have h1 := length_le_longest h
  simp only [freshName, String.length_ofList, List.length_replicate] at h1
  omega

theorem find?_fresh (t : FileTree) (p : Place) : t.find? (p ++ [t.freshName]) = none := by
  have h : t.entries.find? (·.1 = p ++ [t.freshName]) = none := by
    rw [List.find?_eq_none]
    intro e he h1
    have h2 : e.1 = p ++ [t.freshName] := by simpa using h1
    refine freshName_notMem t (List.mem_flatMap.mpr ⟨e, he, ?_⟩)
    rw [h2]
    simp
  simp [find?, h]

theorem find?_put (t : FileTree) (p q : Place) (content : Bytes) (h : p ≠ []) (hq : q ≠ p) :
    (t.put p content).find? q = t.find? q := by
  unfold put
  split <;> rw [find?_set t p q _ h, if_neg hq]

theorem find?_removeAll (t : FileTree) (p q : Place) (h : ¬ p <+: q) :
    (t.removeAll p).find? q = t.find? q := by
  unfold removeAll find?
  rw [find?_filter_entries _ fun x hx => by simpa [hx] using h]

end FileTree

end MessageFlow
