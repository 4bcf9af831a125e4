import MessageFlow.Manifest.Format
import MessageFlow.Proofs.Json.Value
import MessageFlow.Proofs.Manifest.Meaning
import MessageFlow.Proofs.Roster

/-!
# Manifests are read as they are written

A reader of an object takes its members into a draft, in which every field is filled at most once.
What the members of one name make of their field does not depend on the others (`Fills`), so that
their order makes no difference.

* `reads_record`, `reads_handlers`, `reads_messages`   what says a part of a manifest is read as it;
* `Sections.reads`     what says a manifest is read as that manifest;
* `Sections.refuses`   with another member it is refused, for the name of that member.
-/

namespace MessageFlow.Manifest

open Json (Value Reader Reads Run)

/-! ### fields of a draft -/

/-- what values make of a field of a draft, which takes one value at most -/
inductive Fills {α : Type} (read : Reader α) : Option α → List Value → Option α → Prop
  | keep (x : Option α) : Fills read x [] x
  | put {v : Value} {a : α} (h : Reads read v (.ok a)) : Fills read none [v] (some a)

section

variable {α : Type} {read : Reader α}

/-- the next member has the name of the field -/
theorem Fills.here {x y : Option α} {name : String} {v : Value} {l : List (String × Value)}
    (h : Fills read x (valuesOf name ((name, v) :: l)) y) :
    x = none ∧ ∃ a, Reads read v (.ok a) ∧ Fills read (some a) (valuesOf name l) y := by
  rw [valuesOf_self] at h
  generalize valuesOf name l = vs at h ⊢
  cases h with
  | put h => exact ⟨rfl, _, h, .keep _⟩

/-- the next member has another name -/
theorem Fills.skip {x y : Option α} {name other : String} {v : Value} {l : List (String × Value)}
    (h : Fills read x (valuesOf name ((other, v) :: l)) y) (hn : other ≠ name) :
    Fills read x (valuesOf name l) y := by
  rwa [valuesOf_other hn] at h

theorem Fills.nil {x y : Option α} (h : Fills read x [] y) : y = x := by
  cases h
  rfl

theorem Fills.some_of_ne_nil {y : Option α} {vs : List Value} (h : Fills read none vs y)
    (hvs : vs ≠ []) : ∃ a, y = some a := by
  cases h with
  | keep => exact absurd rfl hvs
  | put => exact ⟨_, rfl⟩

theorem Fills.split {x y : Option α} {vs ws : List Value} (h : Fills read x (vs ++ ws) y) :
    ∃ z, Fills read x vs z ∧ Fills read z ws y := by
  cases vs with
  | nil => exact ⟨x, .keep x, h⟩
  | cons v vs =>
    rw [List.cons_append] at h
    generalize hl : v :: (vs ++ ws) = l at h
    cases h with
    | keep => cases hl
    | put h =>
      obtain ⟨rfl, hnil⟩ := List.cons.inj hl
      obtain ⟨rfl, rfl⟩ := List.append_eq_nil_iff.mp hnil
      exact ⟨_, .put h, .keep _⟩

/-- what is written for a field is what the field of the draft gets, or the field is missing -/
theorem Field.fills {default : Option α} {Means : Value → α → Prop} {vs : List Value} {a : α}
    (hread : ∀ v a, Means v a → Reads read v (.ok a)) (h : Field default Means vs a) :
    ∃ y, Fills read none vs y ∧ y.or default = some a := by
  cases h with
  | present h => exact ⟨_, .put (hread _ _ h), rfl⟩
  | missing h => exact ⟨_, .keep none, h⟩

end

/-- a field of a draft that is read, or its default -/
theorem getD_of_or {α : Type} {o : Option α} {default a : α} (h : o.or (some default) = some a) :
    o.getD default = a := by
  cases o <;> exact Option.some.inj h

theorem join_of_or {o : Option (Option String)} {a : Option String}
    (h : o.or (some none) = some a) : o.join = a := by
  cases o <;> exact Option.some.inj h

/-! ### records -/

theorem reads_remark {v : Value} {o : Option String} (h : MeansRemark v o) :
    Reads readRemark v (.ok o) := by
  cases h with
  | null => exact Json.reads_optional_null _
  | text t => exact Reads.optional (Json.reads_text "a string" t)

theorem reads_name {v : Value} {t : String} (h : MeansName v t) : Reads readName v (.ok t) := by
  cases h
  exact Json.reads_text "a string" t

theorem reads_kind {v : Value} {k : Kind} (h : MeansKind v k) : Reads readKind v (.ok k) := by
  cases h
  refine Json.reads_variant ?_
  rw [kindNamed, Kind.ofLabel?_label]

theorem reads_names {v : Value} {ts : List String} (h : MeansNames v ts) :
    Reads readNames v (.ok ts) := by
  cases h
  refine Reads.list ?_
  induction ts with
  | nil => exact .nil
  | cons t ts ih => exact .cons (Json.reads_text "a string" t) ih

/-- the members of a record in any order, among others -/
theorem RecordDraft.run {k k' : Option Kind} {h h' : Option String} {ms ms' : Option (List String)}
    {l : List (String × Value)} (hk : Fills readKind k (valuesOf "kind" l) k')
    (hh : Fills readName h (valuesOf "handler" l) h')
    (hm : Fills readNames ms (valuesOf "messages" l) ms') :
    Run member ⟨k, h, ms⟩ l (.ok ⟨k', h', ms'⟩) := by
  induction l generalizing k h ms with
  | nil =>
    rw [hk.nil, hh.nil, hm.nil]
    exact .done _
  | cons m l ih =>
    obtain ⟨name, v⟩ := m
    by_cases h1 : name = "kind"
    · subst h1
      obtain ⟨rfl, a, ha, hk⟩ := hk.here
      exact .take (ha.takes (⟨some ·, h, ms⟩) fun _ => rfl)
        (ih hk (hh.skip (by decide)) (hm.skip (by decide)))
    by_cases h2 : name = "handler"
    · subst h2
      obtain ⟨rfl, a, ha, hh⟩ := hh.here
      exact .take (ha.takes (⟨k, some ·, ms⟩) fun _ => rfl)
        (ih (hk.skip (by decide)) hh (hm.skip (by decide)))
    by_cases h3 : name = "messages"
    · subst h3
      obtain ⟨rfl, a, ha, hm⟩ := hm.here
      exact .take (ha.takes (⟨k, h, some ·⟩) fun _ => rfl)
        (ih (hk.skip (by decide)) (hh.skip (by decide)) hm)
    refine .take (Json.takes_ignore fun cs => ?_) (ih (hk.skip h1) (hh.skip h2) (hm.skip h3))
    unfold member
    split <;> first | contradiction | rfl

theorem reads_record {v : Value} {r : Record} (h : MeansRecord v r) :
    Reads readRecord v (.ok r) := by
  cases h with
  | @mk ms kind handler messages hk hh hm =>
    obtain ⟨k, hk, h1⟩ := hk.fills fun _ _ => reads_kind
    obtain ⟨h, hh, h2⟩ := hh.fills fun _ _ => reads_name
    obtain ⟨ns, hm, h3⟩ := hm.fills fun _ _ => reads_names
    rw [Option.or_none] at h1 h2
    subst h1 h2
    have h4 : RecordDraft.finish ⟨some kind, some handler, ns⟩ = .ok ⟨kind, handler, messages⟩ := by
      rw [RecordDraft.finish, getD_of_or h3]
    rw [← h4]
    exact (RecordDraft.run hk hh hm).reads_fields _ _ _

/-! ### tables -/

/-- the members of the entry of a handler in any order, among others -/
theorem RemarkDraft.run_handler {c c' e e' : Option (Option String)} {l : List (String × Value)}
    (hc : Fills readRemark c (valuesOf "comment" l) c')
    (he : Fills readRemark e (valuesOf "entry_point" l) e') :
    Run handlerMember ⟨c, e⟩ l (.ok ⟨c', e'⟩) := by
  induction l generalizing c e with
  | nil =>
    rw [hc.nil, he.nil]
    exact .done _
  | cons m l ih =>
    obtain ⟨name, v⟩ := m
    by_cases h1 : name = "comment"
    · subst h1
      obtain ⟨rfl, a, ha, hc⟩ := hc.here
      exact .take (ha.takes (⟨some ·, e⟩) fun _ => rfl) (ih hc (he.skip (by decide)))
    by_cases h2 : name = "entry_point"
    · subst h2
      obtain ⟨rfl, a, ha, he⟩ := he.here
      exact .take (ha.takes (⟨c, some ·⟩) fun _ => rfl) (ih (hc.skip (by decide)) he)
    refine .take (Json.takes_ignore fun cs => ?_) (ih (hc.skip h1) (he.skip h2))
    unfold handlerMember
    split <;> first | contradiction | rfl

/-- the members of the entry of a message in any order, among others -/
theorem RemarkDraft.run_message {c c' e : Option (Option String)} {l : List (String × Value)}
    (hc : Fills readRemark c (valuesOf "comment" l) c') :
    Run messageMember ⟨c, e⟩ l (.ok ⟨c', e⟩) := by
  induction l generalizing c with
  | nil =>
    rw [hc.nil]
    exact .done _
  | cons m l ih =>
    obtain ⟨name, v⟩ := m
    by_cases h1 : name = "comment"
    · subst h1
      obtain ⟨rfl, a, ha, hc⟩ := hc.here
      exact .take (ha.takes (⟨some ·, e⟩) fun _ => rfl) (ih hc)
    refine .take (Json.takes_ignore fun cs => ?_) (ih (hc.skip h1))
    unfold messageMember
    split <;> first | contradiction | rfl

theorem reads_handler {name : String} {v : Value} {e : HandlerEntry} (h : MeansHandler name v e) :
    Reads (readHandlerEntry name) v (.ok e) := by
  cases h with
  | @mk ms comment entryPoint hc he =>
    obtain ⟨c, hc, h1⟩ := hc.fills fun _ _ => reads_remark
    obtain ⟨p, he, h2⟩ := he.fills fun _ _ => reads_remark
    have h3 : RemarkDraft.handlerEntry ⟨c, p⟩ name = ⟨name, comment, entryPoint⟩ := by
      rw [RemarkDraft.handlerEntry, join_of_or h1, join_of_or h2]
    rw [← h3]
    exact (RemarkDraft.run_handler hc he).reads_fields _ _ _

theorem reads_message {name : String} {v : Value} {e : MessageEntry} (h : MeansMessage name v e) :
    Reads (readMessageEntry name) v (.ok e) := by
  cases h with
  | @mk ms comment hc =>
    obtain ⟨c, hc, h1⟩ := hc.fills fun _ _ => reads_remark
    have h2 : RemarkDraft.messageEntry ⟨c, none⟩ name = ⟨name, comment⟩ := by
      rw [RemarkDraft.messageEntry, join_of_or h1]
    rw [← h2]
    exact (RemarkDraft.run_message hc).reads_fields _ _ _

/-- the entries of a table are set one by one -/
theorem reads_table {α : Type} {name : α → String} {Means : String → Value → α → Prop}
    {read : String → Reader α} (hread : ∀ n v e, Means n v e → Reads (read n) v (.ok e))
    {set : Roster name → α → Roster name}
    (hset : ∀ t e, set t e = t.put (fun _ f => f) (fun _ _ _ => rfl) e)
    {v : Value} {t : Roster name} (h : MeansTable Means v t) :
    Reads (Json.object (fun t n cs => do
      let (e, rest) ← Json.valueOf (read n) cs
      pure (set t e, rest)) ∅) v (.ok t) := by
  cases h with
  | @mk ms entries t h hp =>
    have h1 : entries.foldl set ∅ = t := by
      rw [← t.foldl_put_perm hp, funext fun t => funext (hset t)]
    rw [← h1]
    refine Run.reads_object ?_
    generalize (∅ : Roster name) = start
    clear h1 hp
    induction h generalizing start with
    | nil => exact .done _
    | @cons m e ms es he _ ih =>
      refine .take ?_ (ih _)
      intro before after cs rest hb ha hs hr
      dsimp only
      rw [Json.valueOf_of_reads hb ha hs hr (hread m.1 m.2 e he)]
      rfl

theorem reads_handlers {v : Value} {t : HandlerTable} (h : MeansTable MeansHandler v t) :
    Reads readHandlerTable v (.ok t) := by
  have h1 : ∀ n v e, MeansHandler n v e → Reads (readHandlerEntry n) v (.ok e) :=
    fun _ _ _ => reads_handler
  have h2 := @reads_table _ _ _ _ h1 HandlerTable.set (fun _ _ => rfl) v t h
  exact h2

theorem reads_messages {v : Value} {t : MessageTable} (h : MeansTable MeansMessage v t) :
    Reads readMessageTable v (.ok t) := by
  have h1 : ∀ n v e, MeansMessage n v e → Reads (readMessageEntry n) v (.ok e) :=
    fun _ _ _ => reads_message
  have h2 := @reads_table _ _ _ _ h1 MessageTable.set (fun _ _ => rfl) v t h
  exact h2

/-! ### the whole manifest -/

theorem reads_records {v : Value} {rs : List Record} (h : MeansRecords v rs) :
    Reads (Json.list readRecord) v (.ok rs) := by
  cases h with
  | mk h => exact Reads.list (h.imp fun _ _ => reads_record)

/-- the sections in any order -/
theorem Draft.run {t t' : Option HandlerTable} {u u' : Option MessageTable}
    {rs rs' : Option (List Record)} {l : List (String × Value)}
    (ht : Fills readHandlerTable t (valuesOf "handlers" l) t')
    (hu : Fills readMessageTable u (valuesOf "messages" l) u')
    (hr : Fills (Json.list readRecord) rs (valuesOf "observations" l) rs')
    (hl : ∀ p ∈ l, p.1 = "handlers" ∨ p.1 = "messages" ∨ p.1 = "observations") :
    Run member ⟨t, u, rs⟩ l (.ok ⟨t', u', rs'⟩) := by
  induction l generalizing t u rs with
  | nil =>
    rw [ht.nil, hu.nil, hr.nil]
    exact .done _
  | cons m l ih =>
    obtain ⟨hm, hothers⟩ := List.forall_mem_cons.mp hl
    obtain ⟨name, v⟩ := m
    obtain rfl | rfl | rfl : name = "handlers" ∨ name = "messages" ∨ name = "observations" := hm
    · obtain ⟨rfl, a, ha, ht⟩ := ht.here
      exact .take (ha.takes (⟨some ·, u, rs⟩) fun _ => rfl)
        (ih ht (hu.skip (by decide)) (hr.skip (by decide)) hothers)
    · obtain ⟨rfl, a, ha, hu⟩ := hu.here
      exact .take (ha.takes (⟨t, some ·, rs⟩) fun _ => rfl)
        (ih (ht.skip (by decide)) hu (hr.skip (by decide)) hothers)
    · obtain ⟨rfl, a, ha, hr⟩ := hr.here
      exact .take (ha.takes (⟨t, u, some ·⟩) fun _ => rfl)
        (ih (ht.skip (by decide)) (hu.skip (by decide)) hr hothers)

namespace Sections

variable {m : Manifest}

theorem reads {ms : List (String × Value)} (h : Sections m ms) :
    Reads read (.ofMembers ms) (.ok m) := by
  obtain ⟨t, ht, h1⟩ := h.handlers.fills fun _ _ => reads_handlers
  obtain ⟨u, hu, h2⟩ := h.messages.fills fun _ _ => reads_messages
  obtain ⟨rs, hr, h3⟩ := h.records.fills fun _ _ => reads_records
  have h4 : Draft.finish ⟨t, u, rs⟩ = m := by
    rw [Draft.finish, getD_of_or h1, getD_of_or h2, getD_of_or h3]
  rw [← h4]
  exact (Draft.run ht hu hr h.names).reads_fields _ _ _

theorem mem_sections {ms : List (String × Value)} (h : Sections m ms) : ∀ p ∈ ms,
    p.1 ∈ Draft.sections := by
  intro p hp
  simpa only [Draft.sections, List.mem_cons, List.not_mem_nil, or_false] using h.names p hp

/-- a further member is refused, whatever its value is: for its name if it is no section, and as a
repetition behind a section of that name -/
theorem refuses {before after : List (String × Value)} (h : Sections m (before ++ after))
    {name : String} (hname : name ∈ Draft.sections → ∃ p ∈ before, p.1 = name) (v : Value) :
    Reads read (.ofMembers (before ++ (name, v) :: after)) (.error
      (if name ∈ Draft.sections then .duplicateField name
        else .unknownField name Draft.sections)) := by
  obtain ⟨hh, hm, hr, hnames⟩ := h
  rw [valuesOf_append] at hh hm hr
  obtain ⟨t, ht, -⟩ := hh.fills fun _ _ => reads_handlers
  obtain ⟨u, hu, -⟩ := hm.fills fun _ _ => reads_messages
  obtain ⟨rs, hr, -⟩ := hr.fills fun _ _ => reads_records
  obtain ⟨t, ht, -⟩ := ht.split
  obtain ⟨u, hu, -⟩ := hu.split
  obtain ⟨rs, hr, -⟩ := hr.split
  have hrun := Draft.run ht hu hr fun p hp => hnames p (List.mem_append_left after hp)
  refine (hrun.append (.refuse (fun cs => ?_) after)).reads_fields _ _ _
  show Draft.member _ name cs = _
  by_cases hn : name ∈ Draft.sections
  · have hvalues : valuesOf name before ≠ [] := by
      obtain ⟨p, hp, rfl⟩ := hname hn
      exact List.ne_nil_of_mem (List.mem_map_of_mem (List.mem_filter.mpr ⟨hp, by simp⟩))
    rw [if_pos hn]
    simp only [Draft.sections, List.mem_cons, List.not_mem_nil, or_false] at hn
    obtain rfl | rfl | rfl := hn
    · obtain ⟨a, rfl⟩ := ht.some_of_ne_nil hvalues
      rfl
    · obtain ⟨a, rfl⟩ := hu.some_of_ne_nil hvalues
      rfl
    · obtain ⟨a, rfl⟩ := hr.some_of_ne_nil hvalues
      rfl
  · rw [if_neg hn]
    simp only [Draft.sections, List.mem_cons, List.not_mem_nil, or_false, not_or] at hn
    obtain ⟨h1, h2, h3⟩ := hn
    unfold Draft.member
    split <;> first | contradiction | rfl

end Sections

end MessageFlow.Manifest
