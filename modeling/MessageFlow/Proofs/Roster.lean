import Mathlib.Data.List.Nodup
import Mathlib.Data.String.Basic
import MessageFlow.Roster

/-!
# Looking members of rosters up

A roster is determined by what its names lead to, so that its operations are described by lookups:

* `find?_eq_some_iff`     a lookup finds the member of that name;
* `ext_find?`             rosters that agree on all lookups are equal;
* `find?_put`             what is put is combined with what was there;
* `find?_foldl_put_each`  so of a list that is put, the members of one name are combined in turn;
* `find?_foldl_put`       and a whole roster that is put into another is combined with it, name by name;
* `find?_foldl_put_same`  where all members of one name are the same, that one is found;
* `foldl_put_perm`        the members of a roster make it again, in whatever order they are put;
* `mem_distinct`          the distinct texts of a list.
-/

namespace MessageFlow

/-! ### members under their keys -/

section
variable {α κ : Type} [DecidableEq κ] {key : α → κ} {l : List α} {k : κ} {x : α}

theorem find?_cons_of_eq (h : key x = k) : (x :: l).find? (key · = k) = some x :=
  List.find?_cons_of_pos (by simpa using h)

theorem find?_cons_of_ne (h : key x ≠ k) :
    (x :: l).find? (key · = k) = l.find? (key · = k) :=
  List.find?_cons_of_neg (by simpa using h)

theorem find?_of_forall_ne (h : ∀ z ∈ l, key z ≠ k) : l.find? (key · = k) = none := by
  rw [List.find?_eq_none]
  intro z hz he
  exact h z hz (of_decide_eq_true he)

/-- in a list with distinct keys, a member is found under its key -/
theorem find?_eq_some_iff_mem (hl : (l.map key).Nodup) :
    l.find? (key · = k) = some x ↔ x ∈ l ∧ key x = k := by
  constructor
  · intro h
    exact ⟨List.mem_of_find?_eq_some h, by simpa using List.find?_some h⟩
  · rintro ⟨hx, rfl⟩
    cases h : l.find? (key · = key x) with
    | none => exact absurd (decide_eq_true rfl) (List.find?_eq_none.mp h x hx)
    | some y =>
      have hy : key y = key x := by simpa using List.find?_some h
      rw [List.inj_on_of_nodup_map hl (List.mem_of_find?_eq_some h) hx hy]

end

namespace Roster

variable {α : Type} {name : α → String} {r s : Roster name}

/-! ### lookups -/

theorem names_ascending (r : Roster name) : r.names.Pairwise (· < ·) :=
  List.pairwise_map.mpr r.ascending

theorem names_nodup (r : Roster name) : r.names.Nodup :=
  r.names_ascending.imp fun h => ne_of_lt h

theorem find?_eq_some_iff {n : String} {x : α} :
    r.find? n = some x ↔ x ∈ r.members ∧ name x = n :=
  find?_eq_some_iff_mem r.names_nodup

theorem find?_eq_none_iff {n : String} : r.find? n = none ↔ n ∉ r.names := by
  rw [Option.eq_none_iff_forall_ne_some, names, List.mem_map]
  constructor
  · rintro h ⟨x, hx⟩
    exact h x (find?_eq_some_iff.mpr hx)
  · exact fun h x hx => h ⟨x, find?_eq_some_iff.mp hx⟩

theorem contains_iff {n : String} : r.contains n = true ↔ n ∈ r.names := by
  rw [contains, Option.isSome_iff_ne_none, ne_eq, find?_eq_none_iff, not_not]

theorem find?_empty (n : String) : (∅ : Roster name).find? n = none := rfl

/-- a roster is what its lookups tell -/
theorem ext_find? (h : ∀ n, r.find? n = s.find? n) : r = s := by
  obtain ⟨l, hl⟩ := r
  obtain ⟨k, hk⟩ := s
  have h1 : ∀ x, x ∈ l ↔ x ∈ k := by
    intro x
    have h2 := find?_eq_some_iff (r := ⟨l, hl⟩) (n := name x) (x := x)
    rw [h (name x), find?_eq_some_iff] at h2
    constructor
    · exact fun hx => (h2.mpr ⟨hx, rfl⟩).1
    · exact fun hx => (h2.mp ⟨hx, rfl⟩).1
  have hnd : ∀ {m : List α}, m.Pairwise (fun a b => name a < name b) → m.Nodup := fun hm =>
    hm.imp fun hlt he => ne_of_lt hlt (congrArg name he)
  have h2 : l.Perm k := (List.perm_ext_iff_of_nodup (hnd hl) (hnd hk)).mpr h1
  have h3 : l = k := h2.eq_of_pairwise (fun a b _ _ hab hba => absurd hba (lt_asymm hab)) hl hk
  subst h3
  rfl

/-! ### putting members in -/

/-- combining a member with itself again and again changes nothing, if `join` is idempotent -/
theorem foldl_merge_eq_some_iff {join : α → α → α} {c : α} (hc : join c c = c) {l : List (Option α)}
    (hl : ∀ o ∈ l, o = none ∨ o = some c) {x : α} :
    l.foldl (Option.merge join) none = some x ↔ x = c ∧ some c ∈ l := by
  have h1 : ∀ a, a = none ∨ a = some c →
      (l.foldl (Option.merge join) a = some x ↔ x = c ∧ (a = some c ∨ some c ∈ l)) := by
    induction l with
    | nil => rintro a (rfl | rfl) <;> simp [eq_comm]
    | cons o os ih =>
      obtain ⟨ho, hos⟩ := List.forall_mem_cons.mp hl
      intro a ha
      have h2 : a.merge join o = none ∨ a.merge join o = some c := by
        rcases ha with rfl | rfl <;> rcases ho with rfl | rfl <;> simp [hc]
      rw [List.foldl_cons, ih hos _ h2, List.mem_cons]
      rcases ha with rfl | rfl <;> rcases ho with rfl | rfl <;> simp [hc]
  simpa using h1 none (.inl rfl)

section
variable {join : α → α → α} (hj : ∀ y x, name y = name x → name (join y x) = name x)
include hj

theorem find?_insertInto (x : α) {l : List α} (h : l.Pairwise (fun a b => name a < name b))
    (n : String) :
    (insertInto name join x l).find? (name · = n) =
      (l.find? (name · = n)).merge join (if name x = n then some x else none) := by
  induction l with
  | nil =>
    rw [insertInto, List.find?_nil, Option.merge_none_left, List.find?_singleton]
    simp only [decide_eq_true_eq]
  | cons y ys ih =>
    obtain ⟨hy, hys⟩ := List.pairwise_cons.mp h
    rw [insertInto]
    by_cases hlt : name x < name y
    · rw [if_pos hlt]
      by_cases hn : name x = n
      · have h1 : ∀ z ∈ y :: ys, name z ≠ n := by
          intro z hz
          rw [← hn]
          rcases List.mem_cons.mp hz with rfl | hz
          · exact ne_of_gt hlt
          · exact ne_of_gt (hlt.trans (hy z hz))
        rw [find?_cons_of_eq hn, find?_of_forall_ne h1, if_pos hn, Option.merge_none_left]
      · rw [find?_cons_of_ne hn, if_neg hn, Option.merge_none_right]
    · rw [if_neg hlt]
      by_cases he : name y = name x
      · rw [if_pos he]
        by_cases hn : name x = n
        · rw [find?_cons_of_eq ((hj y x he).trans hn), find?_cons_of_eq (he.trans hn), if_pos hn,
            Option.merge_some_some]
        · have h1 : name (join y x) ≠ n := fun h2 => hn ((hj y x he).symm.trans h2)
          have h2 : name y ≠ n := fun h3 => hn (he.symm.trans h3)
          rw [find?_cons_of_ne h1, find?_cons_of_ne h2, if_neg hn, Option.merge_none_right]
      · rw [if_neg he]
        by_cases hn : name y = n
        · have h1 : name x ≠ n := fun h2 => he (hn.trans h2.symm)
          rw [find?_cons_of_eq hn, find?_cons_of_eq hn, if_neg h1, Option.merge_none_right]
        · rw [find?_cons_of_ne hn, find?_cons_of_ne hn, ih hys]

theorem find?_put (r : Roster name) (x : α) (n : String) :
    (r.put join hj x).find? n = (r.find? n).merge join (if name x = n then some x else none) :=
  find?_insertInto hj x r.ascending n

/-- of a list that is put, the members of one name are combined with what was there in their order -/
theorem find?_foldl_put_each (r : Roster name) (l : List α) (n : String) :
    (l.foldl (fun r x => r.put join hj x) r).find? n
      = (l.map fun x => if name x = n then some x else none).foldl (Option.merge join) (r.find? n) := by
  induction l generalizing r with
  | nil => rfl
  | cons x xs ih => rw [List.foldl_cons, ih, find?_put hj, List.map_cons, List.foldl_cons]

/-- putting all members of a roster, each changed by `g`, into another combines the two -/
theorem find?_foldl_put_map {g : α → α} (hg : ∀ x, name (g x) = name x) (r s : Roster name)
    (n : String) :
    (s.members.foldl (fun r x => r.put join hj (g x)) r).find? n
      = (r.find? n).merge join ((s.find? n).map g) := by
  obtain ⟨l, hl⟩ := s
  show _ = (r.find? n).merge join ((l.find? (name · = n)).map g)
  induction l generalizing r with
  | nil =>
    rw [List.find?_nil, Option.map_none, Option.merge_none_right]
    rfl
  | cons x xs ih =>
    obtain ⟨hx, hxs⟩ := List.pairwise_cons.mp hl
    rw [List.foldl_cons, ih (r.put join hj (g x)) hxs, find?_put hj, hg]
    by_cases hn : name x = n
    · have h1 : ∀ z ∈ xs, name z ≠ n := by
        intro z hz
        rw [← hn]
        exact ne_of_gt (hx z hz)
      rw [find?_cons_of_eq hn, find?_of_forall_ne h1, if_pos hn, Option.map_none, Option.map_some,
        Option.merge_none_right]
    · rw [find?_cons_of_ne hn, if_neg hn, Option.merge_none_right]

/-- putting all members of a roster into another combines the two -/
theorem find?_foldl_put (r s : Roster name) (n : String) :
    (s.members.foldl (fun r x => r.put join hj x) r).find? n
      = (r.find? n).merge join (s.find? n) := by
  rw [find?_foldl_put_map hj (fun _ => rfl) r s n, Option.map_id']

/-- of a list whose members of one name are all the same, that one is found -/
theorem find?_foldl_put_same {l : List α} {n : String} {c : α} (hc : join c c = c)
    (hl : ∀ x ∈ l, name x = n → x = c) {x : α} :
    (l.foldl (fun r x => r.put join hj x) (∅ : Roster name)).find? n = some x ↔
      x = c ∧ ∃ y ∈ l, name y = n := by
  have h1 : ∀ o ∈ l.map (fun x => if name x = n then some x else none), o = none ∨ o = some c := by
    intro o ho
    obtain ⟨y, hy, rfl⟩ := List.mem_map.mp ho
    by_cases hn : name y = n
    · exact .inr (by rw [if_pos hn, hl y hy hn])
    · exact .inl (if_neg hn)
  rw [find?_foldl_put_each, find?_empty, foldl_merge_eq_some_iff hc h1, List.mem_map]
  refine and_congr_right fun _ => exists_congr fun y => and_congr_right fun hy => ?_
  by_cases hn : name y = n
  · rw [if_pos hn, hl y hy hn]
    exact ⟨fun _ => (hl y hy hn) ▸ hn, fun _ => rfl⟩
  · rw [if_neg hn]
    exact ⟨fun h => absurd h nofun, fun h => absurd h hn⟩

end

/-- the members of a roster make it again, in whatever order they are put -/
theorem foldl_put_perm (r : Roster name) {l : List α} (hl : l.Perm r.members) :
    l.foldl (fun t x => t.put (fun _ y => y) (fun _ _ _ => rfl) x) (∅ : Roster name) = r := by
  refine ext_find? fun n => Option.ext fun x => ?_
  cases hf : r.find? n with
  | some c =>
    have hsame : ∀ y ∈ l, name y = n → y = c := by
      intro y hy hn
      have h1 := find?_eq_some_iff.mpr ⟨hl.mem_iff.mp hy, hn⟩
      rw [hf] at h1
      exact (Option.some.inj h1).symm
    obtain ⟨hc, hn⟩ := find?_eq_some_iff.mp hf
    rw [find?_foldl_put_same _ rfl hsame, Option.some_inj, eq_comm]
    exact and_iff_left ⟨c, hl.mem_iff.mpr hc, hn⟩
  | none =>
    have hnone : ∀ y ∈ l, name y ≠ n := by
      intro y hy hn
      have h1 := find?_eq_some_iff.mpr ⟨hl.mem_iff.mp hy, hn⟩
      rw [hf] at h1
      contradiction
    rw [find?_foldl_put_same (c := x) _ rfl fun y hy hn => absurd hn (hnone y hy)]
    refine iff_of_false ?_ nofun
    rintro ⟨-, y, hy, hn⟩
    exact hnone y hy hn

end Roster

/-! ### distinct texts -/

theorem distinct_ascending (texts : List String) : (distinct texts).Pairwise (· < ·) := by
  rw [distinct]
  exact Roster.ascending _

theorem mem_distinct {texts : List String} {t : String} : t ∈ distinct texts ↔ t ∈ texts := by
  have h1 : ∀ r : Roster (fun t : String => t), t ∈ r.members ↔ r.find? t = some t := by
    intro r
    rw [Roster.find?_eq_some_iff]
    exact ⟨fun h => ⟨h, rfl⟩, fun h => h.1⟩
  rw [distinct, h1, Roster.find?_foldl_put_same _ rfl (fun _ _ h => h)]
  simp

end MessageFlow
