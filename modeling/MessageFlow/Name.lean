/-!
# Qualified names

Handlers and messages have qualified names, segments with dots between them.  `moduleKey` keeps the
first segments of a name: handlers with one module key are drawn in one cluster.  `namespaceOf` and
`short` are what stands before and behind the last dot of a name.
-/

namespace MessageFlow.Name

/-- the segments between the dots, at least one -/
def segments : List Char → List (List Char)
  | [] => [[]]
  | c :: cs =>
    if c = '.' then [] :: segments cs
    else match segments cs with
      | [] => [[c]]
      | s :: ss => (c :: s) :: ss

/-- number of segments that make a module key unless the settings say otherwise -/
def defaultDepth : Nat := 3

/-- the first `depth` segments of a name, and never fewer than one -/
def moduleKey (depth : Nat) (name : String) : String :=
  .ofList (List.intercalate ['.'] ((segments name.toList).take (max depth 1)))

/-- the part after the last dot, or the whole name if it has none -/
def short (name : String) : String :=
  .ofList (name.toList.reverse.takeWhile (· ≠ '.')).reverse

/-- the part before the last dot, empty if there is none -/
def namespaceOf (name : String) : String :=
  .ofList ((name.toList.reverse.dropWhile (· ≠ '.')).drop 1).reverse

theorem segments_ne_nil (cs : List Char) : segments cs ≠ [] := by
  cases cs with
  | nil => simp [segments]
  | cons c cs =>
    unfold segments
    split
    · simp
    · split <;> simp

theorem segments_dot (cs : List Char) : segments ('.' :: cs) = [] :: segments cs := by
  simp [segments]

end MessageFlow.Name
