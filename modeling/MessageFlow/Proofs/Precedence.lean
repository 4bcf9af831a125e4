import Mathlib.Data.List.Basic
import MessageFlow.Message

/-!
# The first remark counts

Several observations of one handler, or of one message, become one: the first of them absorbs the
others in their order.

* `combined`             the members of a list in one;
* `combined_append`, `foldl_merge_combined`   they may be combined in parts first, if `join` is
  associative;
* `Handler.FirstOf`, `combined_handlers_eq_some_iff`   what combined handlers tell: the name and the
  module of the first one, and of either remark the first that is there;
* `Message.FirstOf`, `combined_messages_eq_some_iff`   the same for messages.
-/

namespace MessageFlow

section
variable {α : Type} (join : α → α → α)

/-- the members of a list in one, the first one being joined with the others in turn -/
def combined : List α → Option α
  | [] => none
  | x :: xs => some (xs.foldl join x)

theorem exists_combined_iff {l : List α} : (∃ x, combined join l = some x) ↔ l ≠ [] := by
  cases l <;> simp [combined]

variable [Std.Associative join]

theorem combined_append (k l : List α) :
    combined join (k ++ l) = (combined join k).merge join (combined join l) := by
  cases k with
  | nil => rw [List.nil_append, combined, Option.merge_none_left]
  | cons x xs =>
    cases l with
    | nil => rw [List.append_nil, combined, combined, Option.merge_none_right]
    | cons y ys =>
      show some ((xs ++ y :: ys).foldl join x) = some (join (xs.foldl join x) (ys.foldl join y))
      rw [List.foldl_append, List.foldl_cons, List.foldl_assoc]

/-- parts that are combined in their order, each of them being combined before -/
theorem foldl_merge_combined (ls : List (List α)) :
    (ls.map (combined join)).foldl (Option.merge join) none = combined join ls.flatten := by
  have h1 : ∀ k, (ls.map (combined join)).foldl (Option.merge join) (combined join k) =
      combined join (k ++ ls.flatten) := by
    induction ls with
    | nil => intro k; simp
    | cons l ls ih =>
      intro k
      rw [List.map_cons, List.foldl_cons, ← combined_append, ih, List.flatten_cons,
        List.append_assoc]
  exact h1 []

end

/-- a list of which some members count, one by one -/
theorem foldl_merge_filter {α : Type} (join : α → α → α) [Std.Associative join] (p : α → Prop)
    [DecidablePred p] (l : List α) :
    (l.map fun x => if p x then some x else none).foldl (Option.merge join) none =
      combined join (l.filter p) := by
  have h1 : (l.map fun x => if p x then some x else none) =
      (l.map fun x => [x].filter p).map (combined join) := by
    rw [List.map_map]
    apply List.map_congr_left
    intro x _
    by_cases hx : p x <;> simp [hx, combined]
  rw [h1, foldl_merge_combined, ← List.flatMap_def, ← List.filter_flatMap, List.flatMap_singleton']

/-- what is told of the members may be told of the one they come to -/
theorem map_combined {α β : Type} {join : α → α → α} {join' : β → β → β} {φ : α → β}
    (hφ : ∀ x y, φ (join x y) = join' (φ x) (φ y)) (l : List α) :
    (combined join l).map φ = combined join' (l.map φ) := by
  cases l with
  | nil => rfl
  | cons x xs =>
    show some (φ (xs.foldl join x)) = some ((xs.map φ).foldl join' (φ x))
    rw [List.foldl_map, List.foldl_hom φ fun x y => (hφ x y).symm]

/-- the first value in a list is that of its first member, if it has one -/
theorem findSome?_cons_or {α β : Type} (f : α → Option β) (x : α) (l : List α) :
    (x :: l).findSome? f = (f x).or (l.findSome? f) := by
  rw [List.findSome?_cons]
  cases f x <;> rfl

/-! ### handlers -/

/-- a handler that several observations of it show: its name and its module are those of the first
one, and either remark is the first that one of them has -/
structure Handler.FirstOf (v : Handler) (hs : List Handler) : Prop where
  name : hs.head?.map Handler.name = some v.name
  moduleKey : hs.head?.map Handler.moduleKey = some v.moduleKey
  comment : v.comment = hs.findSome? Handler.comment
  entryPoint : v.entryPoint = hs.findSome? Handler.entryPoint

instance : Std.Associative Handler.absorb := ⟨Handler.absorb_assoc⟩

theorem Handler.foldl_absorb (h : Handler) (hs : List Handler) : hs.foldl Handler.absorb h =
    ⟨h.name, h.moduleKey, (h :: hs).findSome? Handler.comment,
      (h :: hs).findSome? Handler.entryPoint⟩ := by
  induction hs generalizing h with
  | nil => simp [findSome?_cons_or]
  | cons k hs ih =>
    rw [List.foldl_cons, ih]
    simp only [findSome?_cons_or, Handler.absorb, Option.or_assoc]

theorem combined_handlers_eq_some_iff {v : Handler} {hs : List Handler} :
    combined Handler.absorb hs = some v ↔ v.FirstOf hs := by
  cases hs with
  | nil => exact ⟨nofun, fun h => absurd h.name nofun⟩
  | cons h hs =>
    rw [combined, Handler.foldl_absorb, Option.some_inj]
    constructor
    · rintro rfl
      exact ⟨rfl, rfl, rfl, rfl⟩
    · rintro ⟨h1, h2, h3, h4⟩
      obtain ⟨name, moduleKey, comment, entryPoint⟩ := v
      simp only [List.head?_cons, Option.map_some, Option.some_inj] at h1 h2
      rw [h1, h2, ← h3, ← h4]

/-! ### messages -/

/-- a message that several observations of it show: its comment is the first that one of them has -/
structure Message.FirstOf (m : Message) (ms : List Message) : Prop where
  name : ms.head?.map Message.name = some m.name
  comment : m.comment = ms.findSome? Message.comment

instance : Std.Associative Message.absorb := ⟨Message.absorb_assoc⟩

theorem Message.foldl_absorb (m : Message) (ms : List Message) :
    ms.foldl Message.absorb m = ⟨m.name, (m :: ms).findSome? Message.comment⟩ := by
  induction ms generalizing m with
  | nil => simp [findSome?_cons_or]
  | cons n ms ih =>
    rw [List.foldl_cons, ih]
    simp only [findSome?_cons_or, Message.absorb, Option.or_assoc]

theorem combined_messages_eq_some_iff {m : Message} {ms : List Message} :
    combined Message.absorb ms = some m ↔ m.FirstOf ms := by
  cases ms with
  | nil => exact ⟨nofun, fun h => absurd h.name nofun⟩
  | cons n ms =>
    rw [combined, Message.foldl_absorb, Option.some_inj]
    constructor
    · rintro rfl
      exact ⟨rfl, rfl⟩
    · rintro ⟨h1, h2⟩
      obtain ⟨name, comment⟩ := m
      simp only [List.head?_cons, Option.map_some, Option.some_inj] at h1
      rw [h1, ← h2]

end MessageFlow
