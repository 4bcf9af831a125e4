import Mathlib.Data.List.TakeWhile
import MessageFlow.Proofs.Name

/-!
# Where names are cut

A module key is counted off from the left and a namespace is found from the right, but both end just
before a dot.  So a name is written with that dot in it, `a ++ "." ++ b`, and what is cut off there
is told by what stands on either side:

* `moduleKey_append_dot`   `a`, if it has as many segments as the depth says;
* `namespaceOf_append_dot`, `short_append_dot`   `a` and `b`, if no dot follows.

There is such a dot for any number of dots before it (`exists_dot`), and with that the cuts of a name
are known (`cuts_of_name`).
-/

namespace MessageFlow.Name

variable {name a b : String} {d : Nat}

/-! ### dots -/

/-- a name has one segment more than dots -/
theorem length_segments (cs : List Char) : (segments cs).length = cs.count '.' + 1 := by
  induction cs with
  | nil => rfl
  | cons c cs ih =>
    by_cases hc : c = '.'
    · rw [hc, segments_dot, List.length_cons, ih, List.count_cons_self]
    · rw [List.count_cons_of_ne hc, ← ih, segments, if_neg hc]
      cases h : segments cs with
      | nil => exact absurd h (segments_ne_nil cs)
      | cons s ss => rfl

theorem toList_append_dot (a b : String) : (a ++ "." ++ b).toList = a.toList ++ '.' :: b.toList := by
  rw [String.toList_append, String.toList_append, List.append_assoc]
  rfl

theorem segments_append_dot (a b : String) :
    segments (a ++ "." ++ b).toList = segments a.toList ++ segments b.toList := by
  rw [toList_append_dot, segments_eq_splitOn, segments_eq_splitOn, segments_eq_splitOn,
    List.splitOn_append_cons_self]

theorem count_dot_append_dot (a b : String) :
    (a ++ "." ++ b).toList.count '.' = a.toList.count '.' + b.toList.count '.' + 1 := by
  rw [toList_append_dot, List.count_append, List.count_cons_self, Nat.add_assoc]

theorem exists_dot_of_lt_count {cs : List Char} {n : Nat} (h : n < cs.count '.') :
    ∃ u v, cs = u ++ '.' :: v ∧ u.count '.' = n := by
  induction cs generalizing n with
  | nil => exact absurd h (Nat.not_lt_zero n)
  | cons c cs ih =>
    by_cases hc : c = '.'
    · subst hc
      cases n with
      | zero => exact ⟨[], cs, rfl, rfl⟩
      | succ n =>
        rw [List.count_cons_self] at h
        obtain ⟨u, v, rfl, hu⟩ := ih (Nat.lt_of_succ_lt_succ h)
        exact ⟨'.' :: u, v, rfl, by rw [List.count_cons_self, hu]⟩
    · rw [List.count_cons_of_ne hc] at h
      obtain ⟨u, v, rfl, hu⟩ := ih h
      exact ⟨c :: u, v, rfl, by rw [List.count_cons_of_ne hc, hu]⟩

/-- the dot with `n` dots before it -/
theorem exists_dot {n : Nat} (h : n < name.toList.count '.') :
    ∃ a b : String, name = a ++ "." ++ b ∧ a.toList.count '.' = n := by
  obtain ⟨u, v, huv, hu⟩ := exists_dot_of_lt_count h
  refine ⟨.ofList u, .ofList v, ?_, ?_⟩
  · rw [String.ext_iff, toList_append_dot, String.toList_ofList, String.toList_ofList, huv]
  · rw [String.toList_ofList, hu]

/-- the last dot -/
theorem exists_last_dot (h : '.' ∈ name.toList) :
    ∃ a b : String, name = a ++ "." ++ b ∧ '.' ∉ b.toList := by
  have hpos : 0 < name.toList.count '.' := List.count_pos_iff.mpr h
  obtain ⟨a, b, rfl, ha⟩ := exists_dot (Nat.sub_one_lt_of_lt hpos)
  have hb := count_dot_append_dot a b
  exact ⟨a, b, rfl, List.count_eq_zero.mp (by omega)⟩

/-! ### module keys -/

theorem moduleKey_of_length_le (h : (segments name.toList).length ≤ max d 1) :
    moduleKey d name = name := by
  rw [String.ext_iff, toList_moduleKey, ← segments_eq_splitOn, List.take_of_length_le h,
    segments_eq_splitOn, List.intercalate_splitOn]

theorem moduleKey_append_dot (h : a.toList.count '.' + 1 = max d 1) (b : String) :
    moduleKey d (a ++ "." ++ b) = a := by
  rw [← length_segments] at h
  rw [String.ext_iff, toList_moduleKey, ← segments_eq_splitOn, segments_append_dot, ← h,
    List.take_left, segments_eq_splitOn, List.intercalate_splitOn]

/-! ### namespaces -/

theorem dot_notMem_short (name : String) : '.' ∉ (short name).toList := by
  rw [short, String.toList_ofList, List.mem_reverse]
  intro h
  have h1 := List.mem_takeWhile_imp h
  exact absurd h1 (by decide)

/-- seen from its end, a name with a dot in it begins with what follows the dot -/
theorem reverse_append_dot (a b : String) :
    (a ++ "." ++ b).toList.reverse = b.toList.reverse ++ '.' :: a.toList.reverse := by
  rw [toList_append_dot, List.reverse_append, List.reverse_cons, List.append_assoc,
    List.singleton_append]

theorem ne_dot_of_mem_reverse {cs : List Char} (h : '.' ∉ cs) :
    ∀ c ∈ cs.reverse, (c ≠ '.' : Bool) = true := by
  intro c hc
  exact decide_eq_true fun he => h (he ▸ List.mem_reverse.mp hc)

theorem short_append_dot (a : String) (hb : '.' ∉ b.toList) : short (a ++ "." ++ b) = b := by
  rw [String.ext_iff, short, String.toList_ofList, reverse_append_dot,
    List.takeWhile_append_of_pos (ne_dot_of_mem_reverse hb),
    List.takeWhile_cons_of_neg (by decide), List.append_nil, List.reverse_reverse]

theorem namespaceOf_append_dot (a : String) (hb : '.' ∉ b.toList) :
    namespaceOf (a ++ "." ++ b) = a := by
  rw [String.ext_iff, namespaceOf, String.toList_ofList, reverse_append_dot,
    List.dropWhile_append_of_pos (ne_dot_of_mem_reverse hb),
    List.dropWhile_cons_of_neg (by decide), List.drop_one, List.tail_cons, List.reverse_reverse]

theorem short_of_notMem (h : '.' ∉ name.toList) : short name = name := by
  rw [String.ext_iff, short, String.toList_ofList,
    List.takeWhile_eq_self_iff.mpr (ne_dot_of_mem_reverse h), List.reverse_reverse]

theorem namespaceOf_of_notMem (h : '.' ∉ name.toList) : namespaceOf name = "" := by
  rw [String.ext_iff, namespaceOf, String.toList_ofList,
    List.dropWhile_eq_nil_iff.mpr (ne_dot_of_mem_reverse h)]
  rfl

/-- **The cuts of a name.**  A module key of a module key is that of the smaller depth.  It is the
whole name if this has no more segments than the depth says, and otherwise ends before the dot with
that number.  A short name has no dot and stands behind the last dot of its name, with the namespace
before it, which is the module key of all segments but one; a name without dots is its own short name
and has an empty namespace. -/
theorem cuts_of_name (name : String) (d e : Nat) :
    moduleKey e (moduleKey d name) = moduleKey (min (max d 1) (max e 1)) name
    ∧ ((name.toList.splitOn '.').length ≤ max d 1 → moduleKey d name = name)
    ∧ (max d 1 < (name.toList.splitOn '.').length → ∃ rest,
        name = moduleKey d name ++ "." ++ rest ∧ (moduleKey d name).toList.count '.' + 1 = max d 1)
    ∧ '.' ∉ (short name).toList
    ∧ ('.' ∈ name.toList → name = namespaceOf name ++ "." ++ short name)
    ∧ ('.' ∉ name.toList → namespaceOf name = "" ∧ short name = name)
    ∧ (2 ≤ (name.toList.splitOn '.').length →
        namespaceOf name = moduleKey ((name.toList.splitOn '.').length - 1) name) := by
  rw [← segments_eq_splitOn]
  refine ⟨?_, moduleKey_of_length_le, fun h => ?_, dot_notMem_short name, fun h => ?_,
    fun h => ⟨namespaceOf_of_notMem h, short_of_notMem h⟩, fun h => ?_⟩
  · rw [moduleKey_moduleKey, Nat.min_comm]
  · rw [length_segments] at h
    have hlt : max d 1 - 1 < name.toList.count '.' := by omega
    obtain ⟨a, b, hab, ha⟩ := exists_dot hlt
    have hd : a.toList.count '.' + 1 = max d 1 := by omega
    have hk : moduleKey d name = a := by rw [hab, moduleKey_append_dot hd]
    rw [hk]
    exact ⟨b, hab, hd⟩
  · obtain ⟨a, b, rfl, hb⟩ := exists_last_dot h
    rw [namespaceOf_append_dot a hb, short_append_dot a hb]
  · rw [length_segments] at h
    have hpos : 0 < name.toList.count '.' := by omega
    -- all dots but the last one are in the namespace, so it has all segments but one
    obtain ⟨a, b, rfl, hb⟩ := exists_last_dot (List.count_pos_iff.mp hpos)
    have ha := count_dot_append_dot a b
    have hb0 := List.count_eq_zero.mpr hb
    rw [namespaceOf_append_dot a hb, length_segments, moduleKey_append_dot (by omega)]

/-- dots at both ends and next to each other: three segments are cut off, too many are asked for, and
the last segment is empty; an empty name has no dot -/
theorem cuts_of_name_dotted :
    (max 3 1 < ("..shop.desk.".toList.splitOn '.').length
      ∧ ∃ rest, "..shop.desk." = moduleKey 3 "..shop.desk." ++ "." ++ rest
        ∧ (moduleKey 3 "..shop.desk.").toList.count '.' + 1 = max 3 1)
    ∧ (("..shop.desk.".toList.splitOn '.').length ≤ max 5 1
      ∧ moduleKey 5 "..shop.desk." = "..shop.desk.")
    ∧ ('.' ∈ "..shop.desk.".toList
      ∧ "..shop.desk." = namespaceOf "..shop.desk." ++ "." ++ short "..shop.desk.")
    ∧ ('.' ∉ "".toList ∧ namespaceOf "" = "" ∧ short "" = "")
    ∧ (2 ≤ ("..shop.desk.".toList.splitOn '.').length
      ∧ namespaceOf "..shop.desk." = moduleKey 4 "..shop.desk.")
    ∧ moduleKey 3 "..shop.desk." = "..shop" ∧ namespaceOf "..shop.desk." = "..shop.desk" := by
  have hlen : ("..shop.desk.".toList.splitOn '.').length = 5 := by decide
  have hdot : '.' ∈ "..shop.desk.".toList := by decide
  have hnone : '.' ∉ "".toList := by decide
  obtain ⟨-, -, hcut, -, hlast, -, hnamespace⟩ := cuts_of_name "..shop.desk." 3 0
  obtain ⟨-, hwhole, -⟩ := cuts_of_name "..shop.desk." 5 0
  obtain ⟨-, -, -, -, -, hshort, -⟩ := cuts_of_name "" 0 0
  rw [hlen] at hcut hwhole hnamespace ⊢
  exact ⟨⟨by decide, hcut (by decide)⟩, ⟨by decide, hwhole (by decide)⟩, ⟨hdot, hlast hdot⟩,
    ⟨hnone, hshort hnone⟩, ⟨by decide, hnamespace (by decide)⟩, by decide, by decide⟩

end MessageFlow.Name
