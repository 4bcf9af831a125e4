import Mathlib.Data.List.Sort
import MessageFlow.Proofs.Observation.Set

/-!
# The algebra of merging

Uniting two observation maps is associative, and a map that was united before is not united again:
what it tells stands already behind what came before it.  So maps may be merged in parts, and one
that occurs twice counts once.

* `Roster.foldl_put_again`   a roster that is put in once more changes nothing;
* `union_assoc`, `union_union_left`   uniting maps;
* `merge_append`, `merge_union_of_mem`   merging lists of maps;
* `sameNames_of_message?`   maps in which the same handlers were seen with the same messages;
* `merge_in_parts`   all laws together.
-/

namespace MessageFlow

theorem Handler.absorb_absorb_left (h k : Handler) : (h.absorb k).absorb h = h.absorb k := by
  cases hc : h.comment <;> cases he : h.entryPoint <;> simp [absorb, hc, he]

theorem Message.absorb_absorb_left (m n : Message) : (m.absorb n).absorb m = m.absorb n := by
  cases hc : m.comment <;> simp [absorb, hc]

namespace Roster

variable {α : Type} {name : α → String} {join : α → α → α}

/-- what was found first and is joined again adds nothing -/
theorem merge_merge_left (hs : ∀ x, join x x = x) (hl : ∀ x y, join (join x y) x = join x y)
    (o p : Option α) : (o.merge join p).merge join o = o.merge join p := by
  cases o with
  | none => rw [Option.merge_none_left, Option.merge_none_right]
  | some x =>
    cases p with
    | none => rw [Option.merge_none_right, Option.merge_some_some, hs]
    | some y => rw [Option.merge_some_some, Option.merge_some_some, hl]

theorem foldl_put_again (hj : ∀ y x, name y = name x → name (join y x) = name x)
    (hs : ∀ x, join x x = x) (hl : ∀ x y, join (join x y) x = join x y) (r s : Roster name) :
    r.members.foldl (fun r x => r.put join hj x) (s.members.foldl (fun r x => r.put join hj x) r) =
      s.members.foldl (fun r x => r.put join hj x) r := by
  apply ext_find?
  intro n
  rw [find?_foldl_put, find?_foldl_put, merge_merge_left hs hl]

end Roster

namespace MessageSet

theorem union_union_left (s t : MessageSet) : (s.union t).union s = s.union t :=
  Roster.foldl_put_again _ Message.absorb_self Message.absorb_absorb_left s t

theorem union_self (s : MessageSet) : s.union s = s := union_union_left s ∅

end MessageSet

namespace Observed

theorem absorb_self (o : Observed) : o.absorb o = o := by
  rw [absorb, Handler.absorb_self, MessageSet.union_self]

theorem absorb_absorb_left (o p : Observed) : (o.absorb p).absorb o = o.absorb p := by
  rw [absorb, absorb, Handler.absorb_absorb_left, MessageSet.union_union_left]

end Observed

namespace ObservationMap

/-! ### uniting maps -/

theorem union_assoc (m n o : ObservationMap) : (m.union n).union o = m.union (n.union o) := by
  apply Roster.ext_find?
  intro h
  rw [find?_union, find?_union, find?_union, find?_union]
  exact Std.Associative.assoc _ _ _

instance : Std.Associative union := ⟨union_assoc⟩

theorem union_union_left (m n : ObservationMap) : (m.union n).union m = m.union n :=
  Roster.foldl_put_again _ Observed.absorb_self Observed.absorb_absorb_left m n

theorem empty_union (m : ObservationMap) : union ∅ m = m := by
  apply Roster.ext_find?
  intro h
  rw [find?_union, Roster.find?_empty, Option.merge_none_left]

/-! ### merging lists of maps -/

theorem merge_singleton (m : ObservationMap) : merge [m] = m := empty_union m

theorem merge_append (xs ys : List ObservationMap) :
    merge (xs ++ ys) = (merge xs).union (merge ys) := by
  calc merge (xs ++ ys)
      = ys.foldl union ((merge xs).union ∅) := List.foldl_append
    _ = (merge xs).union (merge ys) := List.foldl_assoc

theorem merge_cons (x : ObservationMap) (xs : List ObservationMap) :
    merge (x :: xs) = x.union (merge xs) := by
  rw [← List.singleton_append, merge_append, merge_singleton]

/-- a map that was merged has nothing more to tell -/
theorem merge_union_of_mem {x : ObservationMap} {xs : List ObservationMap} (hx : x ∈ xs) :
    (merge xs).union x = merge xs := by
  obtain ⟨before, after, rfl⟩ := List.append_of_mem hx
  -- `x` already stands before the maps that come after it
  rw [merge_append, merge_cons, union_assoc, union_union_left]

/-! ### names -/

/-- what holds of two united maps if it holds of one of them, holds of merged maps likewise -/
theorem merge_iff {P : ObservationMap → Prop} (h0 : ¬ P ∅)
    (hP : ∀ m n : ObservationMap, P (m.union n) ↔ P m ∨ P n) (xs : List ObservationMap) :
    P (merge xs) ↔ ∃ x ∈ xs, P x := by
  induction xs with
  | nil =>
    show P ∅ ↔ _
    simp [h0]
  | cons x xs ih => rw [merge_cons, hP, ih, List.exists_mem_cons_iff]

theorem mem_names_merge {xs : List ObservationMap} {h : String} :
    h ∈ (merge xs).names ↔ ∃ x ∈ xs, h ∈ x.names := by
  apply merge_iff (P := fun m => h ∈ m.names) List.not_mem_nil
  intro m n
  simp only [← Roster.contains_iff, Roster.contains, find?_union]
  cases m.find? h <;> cases n.find? h <;> simp

theorem message?_union (m n : ObservationMap) (h k : String) :
    (m.union n).message? h k = (m.message? h k).merge Message.absorb (n.message? h k) := by
  rw [message?, find?_union, message_merge]
  rfl

theorem exists_message?_merge {xs : List ObservationMap} {h k : String} :
    (∃ y, (merge xs).message? h k = some y) ↔ ∃ x ∈ xs, ∃ y, x.message? h k = some y := by
  apply merge_iff (P := fun m => ∃ y, m.message? h k = some y) (fun h => nomatch h)
  intro m n
  rw [message?_union]
  cases m.message? h k <;> cases n.message? h k <;> simp

theorem mem_names_messages {m : ObservationMap} {h k : String} {o : Observed}
    (ho : m.find? h = some o) : k ∈ o.messages.names ↔ ∃ y, m.message? h k = some y := by
  rw [← Roster.contains_iff, Roster.contains, Option.isSome_iff_exists, message?, ho]
  rfl

theorem sameNames_of_message? {m n : ObservationMap} (hh : ∀ h, h ∈ m.names ↔ h ∈ n.names)
    (hk : ∀ h k, (∃ y, m.message? h k = some y) ↔ ∃ y, n.message? h k = some y) :
    m.sameNames n = true := by
  have h1 : ∀ h, (m.find? h).map (·.messages.names) = (n.find? h).map (·.messages.names) := by
    intro h
    have h2 := hh h
    rw [← not_iff_not, ← Roster.find?_eq_none_iff, ← Roster.find?_eq_none_iff] at h2
    cases ho : m.find? h with
    | none => rw [h2.mp ho]
    | some o =>
      cases hp : n.find? h with
      | none => rw [h2.mpr hp] at ho; cases ho
      | some p =>
        have h3 : o.messages.names = p.messages.names := by
          apply o.messages.names_ascending.eq_of_mem_iff p.messages.names_ascending
          intro k
          rw [mem_names_messages ho, mem_names_messages hp, hk]
        simp only [Option.map_some, h3]
  have h2 : ∀ (m : ObservationMap) (h : String) (ks : List String),
      (h, ks) ∈ m.members.map (fun o => (o.name, o.messages.names)) ↔
        (m.find? h).map (·.messages.names) = some ks := by
    intro m h ks
    rw [List.mem_map, Option.map_eq_some_iff]
    refine exists_congr fun o => ?_
    rw [Roster.find?_eq_some_iff, Prod.mk.injEq, and_assoc]
  have h3 : ∀ m : ObservationMap,
      (m.members.map fun o => (o.name, o.messages.names)).Pairwise fun a b => a.1 < b.1 :=
    fun m => List.pairwise_map.mpr m.ascending
  have : Std.Irrefl fun a b : String × List String => a.1 < b.1 := ⟨fun a => lt_irrefl a.1⟩
  have : Std.Antisymm fun a b : String × List String => a.1 < b.1 :=
    ⟨fun a b hab hba => absurd hba (lt_asymm hab)⟩
  -- both lists are in the order of the handlers, so that their members decide
  rw [sameNames, beq_iff_eq]
  apply (h3 m).eq_of_mem_iff (h3 n)
  rintro ⟨h, ks⟩
  rw [h2, h2, h1]

/-- **Maps may be merged in parts, and each counts once.**  A part that was merged before stands for
its maps, at the end as well as at the beginning, with all remarks and modules; a map that occurs
again changes nothing, and a single one stays what it is.  In another order the remarks may differ,
but the handlers and the messages of each of them are those of all maps together, and they always
come in the order of their names. -/
theorem merge_in_parts (xs ys : List ObservationMap) :
    merge (xs ++ [merge ys]) = merge (xs ++ ys)
    ∧ merge ([merge xs] ++ ys) = merge (xs ++ ys)
    ∧ (∀ x ∈ xs, merge (xs ++ [x]) = merge xs)
    ∧ (∀ x, merge [x] = x)
    ∧ (∀ xs', xs'.Perm xs →
        (∀ h, h ∈ (merge xs').names ↔ ∃ x ∈ xs, h ∈ x.names)
        ∧ (∀ h k, (∃ y, (merge xs').message? h k = some y) ↔
            ∃ x ∈ xs, ∃ y, x.message? h k = some y)
        ∧ (merge xs').sameNames (merge xs) = true)
    ∧ (merge xs).names.Pairwise (· < ·)
    ∧ ∀ o ∈ (merge xs).members, o.messages.names.Pairwise (· < ·) := by
  refine ⟨?_, ?_, ?_, merge_singleton, ?_, (merge xs).names_ascending,
    fun o _ => o.messages.names_ascending⟩
  · rw [merge_append, merge_singleton, merge_append]
  · rw [merge_append, merge_singleton, merge_append]
  · intro x hx
    rw [merge_append, merge_singleton, merge_union_of_mem hx]
  · intro xs' hp
    have hn : ∀ h, h ∈ (merge xs').names ↔ ∃ x ∈ xs, h ∈ x.names := by
      intro h
      simp only [mem_names_merge, hp.mem_iff]
    have hm : ∀ h k, (∃ y, (merge xs').message? h k = some y) ↔
        ∃ x ∈ xs, ∃ y, x.message? h k = some y := by
      intro h k
      simp only [exists_message?_merge, hp.mem_iff]
    refine ⟨hn, hm, sameNames_of_message? ?_ ?_⟩
    · exact fun h => (hn h).trans mem_names_merge.symm
    · exact fun h k => (hm h k).trans exists_message?_merge.symm

/-- a handler with one remark, and the same handler with another one -/
def early : ObservationMap := insert ∅ ⟨"a", "m", some "first", none⟩ [⟨"k", none⟩]
def late : ObservationMap := insert ∅ ⟨"a", "n", some "second", none⟩ [⟨"k", some "sent"⟩]

/-- in another order another remark counts, but the names are the same -/
theorem merge_in_parts_late :
    merge [early, late, early] = merge [early, late]
    ∧ merge [late, early] ≠ merge [early, late]
    ∧ (merge [late, early]).sameNames (merge [early, late]) = true := by
  obtain ⟨-, -, h1, -, h2, -⟩ := merge_in_parts [early, late] []
  refine ⟨h1 early List.mem_cons_self, by decide, (h2 [late, early] (.swap _ _ _)).2.2⟩

end ObservationMap

end MessageFlow
