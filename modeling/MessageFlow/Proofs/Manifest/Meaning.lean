import MessageFlow.Manifest.Basic
import MessageFlow.Proofs.Json.Grammar

/-!
# What values say as manifests

Which values say which manifest, said without a reader (`Sections`): a table is an object with one
member for each entry, in any order, and a record is an object of its fields.  A part that is empty
may be missing, and entries and records may have further members, which say nothing.

* `exists_text`   every manifest has a text that says it, whatever its names and remarks consist of.
-/

namespace MessageFlow

open Json (Value)

namespace Manifest

/-! ### what is written -/

/-- the values of the members of that name -/
def valuesOf (name : String) (ms : List (String × Value)) : List Value :=
  (ms.filter (·.1 = name)).map Prod.snd

@[simp] theorem valuesOf_self (name : String) (v : Value) (ms : List (String × Value)) :
    valuesOf name ((name, v) :: ms) = v :: valuesOf name ms := by
  rw [valuesOf, List.filter_cons_of_pos (by simp), List.map_cons]
  rfl

theorem valuesOf_other {name other : String} (h : other ≠ name) (v : Value)
    (ms : List (String × Value)) : valuesOf name ((other, v) :: ms) = valuesOf name ms := by
  rw [valuesOf, List.filter_cons_of_neg (by simpa using h)]
  rfl

theorem valuesOf_append (name : String) (ms ns : List (String × Value)) :
    valuesOf name (ms ++ ns) = valuesOf name ms ++ valuesOf name ns := by
  rw [valuesOf, List.filter_append, List.map_append]
  rfl

/-- a field has one value, or is missing and has its default -/
inductive Field {α : Type} (default : Option α) (Means : Value → α → Prop) : List Value → α → Prop
  | present {v : Value} {a : α} (h : Means v a) : Field default Means [v] a
  | missing {a : α} (h : default = some a) : Field default Means [] a

inductive MeansRemark : Value → Option String → Prop
  | null : MeansRemark .null none
  | text (t : String) : MeansRemark (.ofText t) (some t)

inductive MeansName : Value → String → Prop
  | mk (t : String) : MeansName (.ofText t) t

inductive MeansKind : Value → Kind → Prop
  | mk (k : Kind) : MeansKind (.ofText k.label) k

inductive MeansNames : Value → List String → Prop
  | mk (ts : List String) : MeansNames (.list (ts.map .ofText)) ts

/-- the remarks on a handler; other members mean nothing -/
inductive MeansHandler (name : String) : Value → HandlerEntry → Prop
  | mk {ms : List (String × Value)} {comment entryPoint : Option String}
      (hc : Field (some none) MeansRemark (valuesOf "comment" ms) comment)
      (he : Field (some none) MeansRemark (valuesOf "entry_point" ms) entryPoint) :
      MeansHandler name (.ofMembers ms) ⟨name, comment, entryPoint⟩

/-- the remark on a message; other members mean nothing -/
inductive MeansMessage (name : String) : Value → MessageEntry → Prop
  | mk {ms : List (String × Value)} {comment : Option String}
      (hc : Field (some none) MeansRemark (valuesOf "comment" ms) comment) :
      MeansMessage name (.ofMembers ms) ⟨name, comment⟩

/-- a record; members other than its fields mean nothing -/
inductive MeansRecord : Value → Record → Prop
  | mk {ms : List (String × Value)} {kind : Kind} {handler : String} {messages : List String}
      (hk : Field none MeansKind (valuesOf "kind" ms) kind)
      (hh : Field none MeansName (valuesOf "handler" ms) handler)
      (hm : Field (some []) MeansNames (valuesOf "messages" ms) messages) :
      MeansRecord (.ofMembers ms) ⟨kind, handler, messages⟩

/-- a member for every entry, in any order -/
inductive MeansTable {α : Type} {name : α → String} (Means : String → Value → α → Prop) :
    Value → Roster name → Prop
  | mk {ms : List (String × Value)} {entries : List α} {t : Roster name}
      (h : List.Forall₂ (fun m e => Means m.1 m.2 e) ms entries) (hp : entries.Perm t.members) :
      MeansTable Means (.ofMembers ms) t

inductive MeansRecords : Value → List Record → Prop
  | mk {vs : List Value} {rs : List Record} (h : List.Forall₂ MeansRecord vs rs) :
      MeansRecords (.list vs) rs

/-- the sections, of which any may be missing -/
structure Sections (m : Manifest) (ms : List (String × Value)) : Prop where
  handlers : Field (some ∅) (MeansTable MeansHandler) (valuesOf "handlers" ms) m.handlers
  messages : Field (some ∅) (MeansTable MeansMessage) (valuesOf "messages" ms) m.messages
  records : Field (some []) MeansRecords (valuesOf "observations" ms) m.records
  names : ∀ p ∈ ms, p.1 = "handlers" ∨ p.1 = "messages" ∨ p.1 = "observations"

/-! ### every manifest can be written -/

/-- a text, or null for none -/
def remarkValue : Option String → Value
  | none => .null
  | some t => .ofText t

theorem means_remarkValue (o : Option String) : MeansRemark (remarkValue o) o := by
  cases o with
  | none => exact .null
  | some t => exact .text t

theorem exists_spells_remarkValue (o : Option String) : ∃ cs, Json.Spells (remarkValue o) cs := by
  cases o with
  | none => exact ⟨_, .null⟩
  | some t => exact Value.exists_spells_ofText t

theorem exists_handler (e : HandlerEntry) :
    ∃ v, MeansHandler e.name v e ∧ ∃ cs, Json.Spells v cs := by
  refine ⟨.ofMembers
      [("comment", remarkValue e.comment), ("entry_point", remarkValue e.entryPoint)],
    .mk (.present (means_remarkValue _)) (.present (means_remarkValue _)),
    Value.exists_spells_ofMembers ?_⟩
  simp only [List.forall_mem_cons, exists_spells_remarkValue, true_and]
  exact nofun

theorem exists_message (e : MessageEntry) :
    ∃ v, MeansMessage e.name v e ∧ ∃ cs, Json.Spells v cs := by
  refine ⟨.ofMembers [("comment", remarkValue e.comment)], .mk (.present (means_remarkValue _)),
    Value.exists_spells_ofMembers ?_⟩
  simp only [List.forall_mem_cons, exists_spells_remarkValue, true_and]
  exact nofun

theorem exists_record (r : Record) : ∃ v, MeansRecord v r ∧ ∃ cs, Json.Spells v cs := by
  refine ⟨.ofMembers [("kind", .ofText r.kind.label), ("handler", .ofText r.handler),
    ("messages", .list (r.messages.map .ofText))],
    .mk (.present (.mk _)) (.present (.mk _)) (.present (.mk _)), Value.exists_spells_ofMembers ?_⟩
  have h1 : ∃ cs, Json.Spells (.list (r.messages.map .ofText)) cs := by
    refine Value.exists_spells_list fun v hv => ?_
    obtain ⟨t, -, rfl⟩ := List.mem_map.mp hv
    exact Value.exists_spells_ofText t
  simp only [List.forall_mem_cons, Value.exists_spells_ofText, h1, true_and]
  exact nofun

theorem exists_table {α : Type} {name : α → String} {Means : String → Value → α → Prop}
    (h : ∀ e, ∃ v, Means (name e) v e ∧ ∃ cs, Json.Spells v cs) (t : Roster name) :
    ∃ v, MeansTable Means v t ∧ ∃ cs, Json.Spells v cs := by
  have h1 : ∀ es : List α, ∃ ms : List (String × Value),
      List.Forall₂ (fun m e => Means m.1 m.2 e) ms es ∧ ∀ m ∈ ms, ∃ cs, Json.Spells m.2 cs := by
    intro es
    induction es with
    | nil => exact ⟨[], .nil, nofun⟩
    | cons e es ih =>
      obtain ⟨v, hv, hcs⟩ := h e
      obtain ⟨ms, hms, hs⟩ := ih
      exact ⟨(name e, v) :: ms, .cons hv hms, List.forall_mem_cons.mpr ⟨hcs, hs⟩⟩
  obtain ⟨ms, hms, hs⟩ := h1 t.members
  exact ⟨_, .mk hms (.refl _), Value.exists_spells_ofMembers hs⟩

theorem exists_records (rs : List Record) : ∃ v, MeansRecords v rs ∧ ∃ cs, Json.Spells v cs := by
  have h1 : ∃ vs, List.Forall₂ MeansRecord vs rs ∧ ∀ v ∈ vs, ∃ cs, Json.Spells v cs := by
    induction rs with
    | nil => exact ⟨[], .nil, nofun⟩
    | cons r rs ih =>
      obtain ⟨v, hv, hcs⟩ := exists_record r
      obtain ⟨vs, hvs, hs⟩ := ih
      exact ⟨v :: vs, .cons hv hvs, List.forall_mem_cons.mpr ⟨hcs, hs⟩⟩
  obtain ⟨vs, hvs, hs⟩ := h1
  exact ⟨_, .mk hvs, Value.exists_spells_list hs⟩

/-- every manifest can be written, whatever its texts consist of -/
theorem exists_text (m : Manifest) :
    ∃ ms text, Sections m ms ∧ Json.Denotes text (.ofMembers ms) := by
  obtain ⟨v, hv, hv'⟩ := exists_table exists_handler m.handlers
  obtain ⟨u, hu, hu'⟩ := exists_table exists_message m.messages
  obtain ⟨w, hw, hw'⟩ := exists_records m.records
  have h1 : ∀ p ∈ [("handlers", v), ("messages", u), ("observations", w)],
      ∃ cs, Json.Spells p.2 cs := by
    simp only [List.forall_mem_cons, hv', hu', hw', true_and]
    exact nofun
  obtain ⟨cs, h⟩ := Value.exists_spells_ofMembers h1
  refine ⟨_, .ofList cs, ⟨.present hv, .present hu, .present hw, by simp⟩, .mk .nil h .nil ?_⟩
  rw [String.toList_ofList, List.nil_append, List.append_nil]

end Manifest

end MessageFlow
