import MessageFlow.Manifest.Collect

/-!
# Collected manifests

A manifest is told by what is read from its file (`readFile_eq_map`).  Reading the manifests of a
directory one after the other, and adding each to the ones before it, is reading them all and
combining them (`readAll_eq_combine`): the first fault decides either way.
-/

namespace MessageFlow.Manifest

variable {m : Type → Type} [Monad m] [Host m]

/-- the manifest in a file, told by what is read -/
def ofContent (path : String) : Except FileFault Text.Bytes → Except Fault Manifest
  | .error fault => .error (.file fault)
  | .ok bytes =>
    match Text.ofUtf8 bytes with
    | .error _ => .error (.file .notText)
    | .ok text => (ofText text).mapError (Fault.manifest path)

theorem readFile_eq_map [LawfulMonad m] (path : String) :
    readFile path = (ofContent path <$> Host.read path : m _) := by
  rw [readFile, ← bind_pure_comp]
  congr 1
  funext r
  cases r with
  | error fault => rfl
  | ok bytes =>
    rw [ofContent]
    dsimp only
    cases Text.ofUtf8 bytes <;> rfl

/-- the manifests in some files, in their order -/
def readEach : List FoundFile → m (Except Fault (List Manifest))
  | [] => pure (.ok [])
  | f :: fs => do
    match ← readFile f.path with
    | .error fault => pure (.error fault)
    | .ok manifest => do pure ((← readEach fs).map (manifest :: ·))

theorem readAll_eq_foldl [LawfulMonad m] (sofar : Manifest) (fs : List FoundFile) :
    readAll sofar fs = (Except.map (List.foldl absorb sofar) <$> readEach fs : m _) := by
  induction fs generalizing sofar with
  | nil => rw [readAll, readEach, map_pure]; rfl
  | cons f fs ih =>
    rw [readAll, readEach, map_bind]
    congr 1
    funext r
    cases r with
    | error fault => rw [map_pure]; rfl
    | ok manifest =>
      show readAll (sofar.absorb manifest) fs = Except.map (List.foldl absorb sofar) <$>
        (readEach fs >>= fun r => pure (r.map (manifest :: ·)))
      rw [ih, bind_pure_comp, Functor.map_map]
      congr 1
      funext r
      cases r <;> rfl

theorem readAll_eq_combine [LawfulMonad m] (fs : List FoundFile) :
    readAll ∅ fs = (Except.map combine <$> readEach fs : m _) :=
  readAll_eq_foldl ∅ fs

/-- a manifest that stands alone in a directory is added to an empty one -/
theorem readAll_singleton [LawfulMonad m] (f : FoundFile) :
    readAll ∅ [f] = (Except.map (absorb ∅) <$> readFile f.path : m _) := by
  rw [readAll, ← bind_pure_comp]
  congr 1
  funext r
  cases r <;> rfl

end MessageFlow.Manifest
