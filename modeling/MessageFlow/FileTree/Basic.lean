import MessageFlow.FileTree.Fault
import MessageFlow.FileTree.Path
import MessageFlow.Text.Utf8

/-!
# File trees

A `FileTree` holds directories, files and symbolic links, each at its place.  A place is the list of
names from the root; links are followed on the way there (`FileTree.follow`), as far as `linkLimit`
allows.  The root is always a directory.
-/

namespace MessageFlow

open Text (Bytes)

/-- the names from the root to an entry -/
abbrev Place := List String

inductive Entry where
  | directory
  | file (content : Bytes) (executable : Bool)
  | link (target : String)
  deriving DecidableEq

structure FileTree where
  entries : List (Place × Entry)

namespace FileTree

def find? (t : FileTree) (p : Place) : Option Entry :=
  if p = [] then some .directory else (t.entries.find? (·.1 = p)).map (·.2)

/-- puts an entry at a place, instead of what is there -/
def set (t : FileTree) (p : Place) (e : Entry) : FileTree :=
  ⟨(p, e) :: t.entries.filter (·.1 ≠ p)⟩

/-- takes away what is at a place -/
def erase (t : FileTree) (p : Place) : FileTree := ⟨t.entries.filter (·.1 ≠ p)⟩

/-- the names in a directory, in the order in which the tree holds them -/
def children (t : FileTree) (p : Place) : List String :=
  t.entries.filterMap fun e => if e.1.dropLast = p then e.1.getLast? else none

/-- entries that are taken away do not matter, if none of them is at the place that is looked up -/
theorem find?_filter_entries (entries : List (Place × Entry)) {keep : Place × Entry → Bool}
    {q : Place} (h : ∀ x, x.1 = q → keep x = true) :
    (entries.filter keep).find? (·.1 = q) = entries.find? (·.1 = q) := by
  rw [List.find?_filter]
  congr 1
  funext x
  by_cases hx : x.1 = q
  · simp [hx, h x hx]
  · simp [hx]

theorem find?_set (t : FileTree) (p q : Place) (e : Entry) (h : p ≠ []) :
    (t.set p e).find? q = if q = p then some e else t.find? q := by
  unfold find? set
  by_cases hq : q = p
  · subst hq
    simp [h]
  · by_cases h0 : q = []
    · simp [h0, Ne.symm h]
    · have h1 : ¬ p = q := fun h => hq h.symm
      simp only [h0, hq, if_false, List.find?_cons, h1, decide_false]
      rw [find?_filter_entries _ fun x hx => decide_eq_true (hx ▸ hq)]

theorem find?_erase (t : FileTree) (p q : Place) (h : p ≠ []) :
    (t.erase p).find? q = if q = p then none else t.find? q := by
  unfold find? erase
  by_cases hq : q = p
  · subst hq
    simp [h]
  · by_cases h0 : q = []
    · simp [h0, Ne.symm h]
    · simp only [h0, hq, if_false]
      rw [find?_filter_entries _ fun x hx => decide_eq_true (hx ▸ hq)]

/-! ### looking places up -/

/-- how many links are followed on the way to one place -/
def linkLimit : Nat := 40

/-- the longest name and the longest path, in bytes -/
def nameLimit : Nat := 255
def pathLimit : Nat := 4095

/-- the names to go through for a path; a slash at the end asks for a directory -/
def steps (path : String) : List String :=
  let parts := (Path.split path.toList).map String.ofList
  parts.filter (· ≠ "") ++ if parts.getLast? = some "" then ["."] else []

/-- where a path starts, seen from a working directory -/
def startOf (base : Place) (path : String) : Place := if Path.isAbsolute path then [] else base

/-- goes from a place through names, following the links among them; answers where that leads and how
many links may be followed from there -/
def go (t : FileTree) (links : Nat) (here : Place) : List String → Except FileFault (Place × Nat)
  | [] => .ok (here, links)
  | name :: names =>
    match t.find? here with
    | none => .error .notFound
    | some (.file _ _) => .error .notADirectory
    | some (.link _) => .error .notADirectory
    | some .directory =>
      if name = "." then go t links here names
      else if name = ".." then go t links here.dropLast names
      else if nameLimit < name.utf8ByteSize then .error .nameTooLong
      else match t.find? (here ++ [name]) with
        | none => .error .notFound
        | some (.link target) =>
          match links with
          | 0 => .error .tooManyLinks
          | links + 1 =>
            go t links (startOf here target) (steps target ++ names)
        | some _ => go t links (here ++ [name]) names
termination_by names => (links, names.length)

theorem go_le {t : FileTree} {links left : Nat} {here p : Place} {names : List String}
    (h : t.go links here names = .ok (p, left)) : left ≤ links := by
  fun_induction go t links here names <;> grind

/-- what makes a text no path -/
def pathFault? (path : String) : Option FileFault :=
  if path.contains '\x00' then some .nulInPath
  else if path = "" then some .notFound
  else if pathLimit < path.utf8ByteSize then some .nameTooLong
  else none

/-- the place that a path leads to, seen from a working directory -/
def follow (t : FileTree) (base : Place) (path : String) : Except FileFault Place :=
  match pathFault? path with
  | some fault => .error fault
  | none => (t.go linkLimit (startOf base path) (steps path)).map (·.1)

/-- the end of a path, which may not exist yet -/
inductive Tip where
  /-- a name in a directory, with or without a slash behind it -/
  | named (directory : Place) (name : String) (slash : Bool)
  /-- the root, or a name of dots -/
  | special (place : Place)

/-- the names to go through for a path, without what a slash at the end asks for -/
def trunk (path : String) : List String :=
  if path.endsWith "/" then (steps path).dropLast else steps path

/-- follows a path up to its last name; answers too how many links may be followed from there -/
def approach (t : FileTree) (links : Nat) (base : Place) (path : String) :
    Except FileFault (Tip × Nat) :=
  match pathFault? path with
  | some fault => .error fault
  | none =>
    match (trunk path).getLast? with
    | none => .ok (.special (startOf base path), links)
    | some name =>
      if name = "." ∨ name = ".." then
        match t.go links (startOf base path) (trunk path) with
        | .error fault => .error fault
        | .ok (place, left) => .ok (.special place, left)
      else
        match t.go links (startOf base path) (trunk path).dropLast with
        | .error fault => .error fault
        | .ok (directory, left) =>
          match t.find? directory with
          | some .directory =>
            if nameLimit < name.utf8ByteSize then .error .nameTooLong
            else .ok (.named directory name (path.endsWith "/"), left)
          | _ => .error .notADirectory

theorem approach_le {t : FileTree} {links left : Nat} {base : Place} {path : String} {tip : Tip}
    (h : t.approach links base path = .ok (tip, left)) : left ≤ links := by
  unfold approach at h
  repeat' split at h
  all_goals grind [→ go_le]

/-- follows a path up to its last name -/
def tip (t : FileTree) (base : Place) (path : String) : Except FileFault Tip :=
  (t.approach linkLimit base path).map (·.1)

end FileTree

end MessageFlow
