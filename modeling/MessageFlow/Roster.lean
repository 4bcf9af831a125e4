/-!
# Rosters

A `Roster name` is a list whose members stand in strictly ascending order of their names, so that no
name occurs twice.  Names are compared character by character.  `Roster.put` adds a member at its
place; a member of the same name is combined with the new one instead.  Message sets, observation
maps, metadata tables and the modules of a graph are rosters.
-/

namespace MessageFlow

structure Roster {α : Type} (name : α → String) where
  members : List α
  ascending : members.Pairwise (fun a b => name a < name b)
  deriving DecidableEq

namespace Roster

variable {α : Type} {name : α → String}

/-- puts `x` at its place; where its name is taken by `y`, `join y x` replaces `y` -/
def insertInto (name : α → String) (join : α → α → α) (x : α) : List α → List α
  | [] => [x]
  | y :: ys =>
    if name x < name y then x :: y :: ys
    else if name y = name x then join y x :: ys
    else y :: insertInto name join x ys

theorem mem_insertInto {join : α → α → α} {x z : α} {l : List α}
    (h : z ∈ insertInto name join x l) :
    z = x ∨ z ∈ l ∨ ∃ y ∈ l, name y = name x ∧ z = join y x := by
  induction l with
  | nil => simp [insertInto] at h; exact .inl h
  | cons y ys ih =>
    unfold insertInto at h
    split at h
    · simp only [List.mem_cons] at h ⊢
      grind
    · split at h
      · simp only [List.mem_cons] at h ⊢
        grind
      · simp only [List.mem_cons] at h ⊢
        grind

theorem pairwise_insertInto {join : α → α → α}
    (hj : ∀ y x, name y = name x → name (join y x) = name x) (x : α) {l : List α}
    (h : l.Pairwise (fun a b => name a < name b)) :
    (insertInto name join x l).Pairwise (fun a b => name a < name b) := by
  induction l with
  | nil => simp [insertInto]
  | cons y ys ih =>
    obtain ⟨hy, hys⟩ := List.pairwise_cons.mp h
    unfold insertInto
    split
    · rename_i hlt
      refine List.pairwise_cons.mpr ⟨fun z hz => ?_, h⟩
      rcases List.mem_cons.mp hz with rfl | hz
      · exact hlt
      · exact String.lt_trans hlt (hy z hz)
    · split
      · rename_i he
        refine List.pairwise_cons.mpr ⟨fun z hz => ?_, hys⟩
        rw [hj y x he, ← he]
        exact hy z hz
      · rename_i hlt hne
        refine List.pairwise_cons.mpr ⟨fun z hz => ?_, ih hys⟩
        have hyx : name y < name x := by grind
        rcases mem_insertInto hz with rfl | hz | ⟨w, hw, he, rfl⟩
        · exact hyx
        · exact hy z hz
        · rw [hj w x he]; exact hyx

def empty : Roster name := ⟨[], List.Pairwise.nil⟩

instance : EmptyCollection (Roster name) := ⟨empty⟩

/-- adds a member; one of the same name becomes `join old new` -/
def put (r : Roster name) (join : α → α → α)
    (hj : ∀ y x, name y = name x → name (join y x) = name x) (x : α) : Roster name :=
  ⟨insertInto name join x r.members, pairwise_insertInto hj x r.ascending⟩

/-- the member of that name -/
def find? (r : Roster name) (n : String) : Option α := r.members.find? (name · = n)

def contains (r : Roster name) (n : String) : Bool := (r.find? n).isSome

def names (r : Roster name) : List String := r.members.map name

def size (r : Roster name) : Nat := r.members.length

def isEmpty (r : Roster name) : Bool := r.members.isEmpty

end Roster

/-- the distinct texts of a list in ascending order -/
def distinct (texts : List String) : List String :=
  (texts.foldl (fun r t => r.put (fun _ x => x) (fun _ _ _ => rfl) t)
    (∅ : Roster (fun t : String => t))).members

end MessageFlow
