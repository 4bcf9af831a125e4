/-!
# Paths

A path is a text with names between slashes.  What it means depends on where it is looked up; the
functions here take it as a text.  Several slashes count as one, a name of one dot means nothing
except at the start, and a name of two dots stands for itself.
-/

namespace MessageFlow.Path

/-- the parts between the slashes, as they stand there -/
def split : List Char → List (List Char)
  | [] => [[]]
  | c :: cs =>
    if c = '/' then [] :: split cs
    else match split cs with
      | [] => [[c]]
      | s :: ss => (c :: s) :: ss

def isAbsolute (path : String) : Bool := path.startsWith "/"

/-- the names of a path, with the dot at its start if there is one -/
def names (path : String) : List String :=
  match (split path.toList).map String.ofList with
  | [] => []
  | first :: more =>
    (if first = "" then [] else [first]) ++ more.filter (fun n => n ≠ "" ∧ n ≠ ".")

/-- the last name, unless the path ends in dots -/
def fileName? (path : String) : Option String :=
  match (names path).getLast? with
  | none => none
  | some n => if n = "." ∨ n = ".." then none else some n

/-- what follows the last dot of the last name; a dot at the start of a name does not count -/
def extension? (path : String) : Option String := do
  let reversed := (← fileName? path).toList.reverse
  let tail := reversed.takeWhile (· ≠ '.')
  match reversed.drop tail.length with
  | _ :: _ :: _ => some (.ofList tail.reverse)
  | _ => none

/-- the path without its last name, empty if there is only one; the root has no parent -/
def parent? (path : String) : Option String :=
  match names path with
  | [] => none
  | ns => some ((if isAbsolute path then "/" else "") ++ "/".intercalate ns.dropLast)

/-- the path and all its parents, the empty path excepted -/
def ancestors (path : String) : List String :=
  let root := if isAbsolute path then "/" else ""
  let ns := names path
  let parents := (List.range ns.length).reverse.map fun n => root ++ "/".intercalate (ns.take n)
  (path :: parents).filter (· ≠ "")

/-- a name below a path -/
def join (path name : String) : String :=
  if path = "" ∨ path.endsWith "/" then path ++ name else path ++ "/" ++ name

end MessageFlow.Path
