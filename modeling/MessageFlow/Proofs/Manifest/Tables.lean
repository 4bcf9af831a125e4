import MessageFlow.Manifest.Basic
import MessageFlow.Proofs.Roster

/-!
# The remarks of several manifests

Manifests that are combined share their tables: of every remark on a handler or a message, the first
one that is not blank holds, in whichever manifest it stands.

* `firstText`         the first text of several manifests that is not blank;
* `Grouped`           several manifests joined to one, in whatever groups;
* `Grouped.handler`, `Grouped.message`, `Grouped.records`   the handlers, messages and records of
  joined manifests.
-/

namespace MessageFlow

/-! ### filling tables in -/

theorem remark_idem (o : Option String) : (o.bind remark).bind remark = o.bind remark := by
  cases o with
  | none => rfl
  | some t =>
    by_cases h : Text.blank t <;> simp [remark, h]

theorem firstRemark_bind_remark (a b : Option String) :
    (firstRemark a b).bind remark = (a.bind remark).or (b.bind remark) := by
  rw [firstRemark]
  cases ha : a.bind remark with
  | none =>
    cases hb : b.bind remark with
    | none => simp [ha]
    | some t => simp [hb]
  | some t => simp [ha]

/-- when a table is filled in, the remarks that it has are kept and missing ones are taken over -/
theorem Roster.remark_foldl_put {α : Type} {name : α → String} (fill : α → α → α) (tidy : α → α)
    (text : α → Option String) (hj : ∀ y x, name y = name x → name (fill y x) = name x)
    (ht : ∀ x, name (tidy x) = name x)
    (hfill : ∀ x y, text (fill x y) = firstRemark (text x) (text y))
    (htidy : ∀ x, text (tidy x) = (text x).bind remark) (t u : Roster name) (n : String) :
    ((u.members.foldl (fun t x => t.put fill hj (tidy x)) t).find? n).bind
        (fun x => (text x).bind remark)
      = ((t.find? n).bind fun x => (text x).bind remark).or
          ((u.find? n).bind fun x => (text x).bind remark) := by
  rw [find?_foldl_put_map hj ht]
  cases t.find? n with
  | none =>
    cases u.find? n with
    | none => rfl
    | some y => simp [htidy, remark_idem]
  | some x =>
    cases u.find? n with
    | none => simp
    | some y => simp [hfill, htidy, firstRemark_bind_remark, remark_idem]

namespace Manifest

/-- the comment on a handler, unless it is blank -/
def comment? (m : Manifest) (handler : String) : Option String :=
  (m.handlers.find? handler).bind fun e => e.comment.bind remark

/-- the entry point that a handler is, unless it is blank -/
def entryPoint? (m : Manifest) (handler : String) : Option String :=
  (m.handlers.find? handler).bind fun e => e.entryPoint.bind remark

/-- the comment on a message, unless it is blank -/
def messageComment? (m : Manifest) (message : String) : Option String :=
  (m.messages.find? message).bind fun e => e.comment.bind remark

theorem comment?_absorb (m n : Manifest) (h : String) :
    (m.absorb n).comment? h = (m.comment? h).or (n.comment? h) :=
  Roster.remark_foldl_put HandlerEntry.fill HandlerEntry.tidy HandlerEntry.comment _ (fun _ => rfl)
    (fun _ _ => rfl) (fun _ => rfl) m.handlers n.handlers h

theorem entryPoint?_absorb (m n : Manifest) (h : String) :
    (m.absorb n).entryPoint? h = (m.entryPoint? h).or (n.entryPoint? h) :=
  Roster.remark_foldl_put HandlerEntry.fill HandlerEntry.tidy HandlerEntry.entryPoint _
    (fun _ => rfl) (fun _ _ => rfl) (fun _ => rfl) m.handlers n.handlers h

theorem messageComment?_absorb (m n : Manifest) (k : String) :
    (m.absorb n).messageComment? k = (m.messageComment? k).or (n.messageComment? k) :=
  Roster.remark_foldl_put MessageEntry.fill MessageEntry.tidy MessageEntry.comment _ (fun _ => rfl)
    (fun _ _ => rfl) (fun _ => rfl) m.messages n.messages k

/-! ### several manifests -/

/-- the first text of several manifests that is there and is not blank -/
def firstText (ms : List Manifest) (text : Manifest → Option String) : Option String :=
  ms.findSome? fun m => (text m).filter fun t => !Text.blank t

theorem bind_remark_eq_filter (o : Option String) :
    o.bind remark = o.filter fun t => !Text.blank t := by
  cases o with
  | none => rfl
  | some t => by_cases h : Text.blank t <;> simp [remark, Option.filter, h]

/-- several manifests joined to one: as they stand, one after the other, or in groups of which each
was joined before -/
inductive Grouped : List Manifest → Manifest → Prop
  | nothing : Grouped [] ∅
  | single (m : Manifest) : Grouped [m] m
  | absorb {ms ns : List Manifest} {m n : Manifest} :
      Grouped ms m → Grouped ns n → Grouped (ms ++ ns) (m.absorb n)

namespace Grouped

variable {ms ns : List Manifest} {m : Manifest}

theorem foldl (h : Grouped ms m) (ns : List Manifest) :
    Grouped (ms ++ ns) (ns.foldl Manifest.absorb m) := by
  induction ns generalizing ms m with
  | nil =>
    rw [List.append_nil]
    exact h
  | cons n ns ih =>
    rw [List.append_cons, List.foldl_cons]
    exact ih (h.absorb (.single n))

theorem combine (ms : List Manifest) : Grouped ms (combine ms) := nothing.foldl ms

/-- what of two manifests the first one tells, if it does, several tell as their first that does -/
theorem findSome? (h : Grouped ms m) {f : Manifest → Option String} (h0 : f ∅ = none)
    (hf : ∀ m n, f (m.absorb n) = (f m).or (f n)) : f m = ms.findSome? f := by
  induction h with
  | nothing => exact h0
  | single m => rw [List.findSome?_singleton]
  | absorb _ _ ih₁ ih₂ => rw [hf, ih₁, ih₂, List.findSome?_append]

theorem comment? (hm : Grouped ms m) (h : String) :
    m.comment? h = firstText ms fun m => (m.handlers.find? h).bind HandlerEntry.comment := by
  rw [hm.findSome? (f := (Manifest.comment? · h)) rfl (fun m n => comment?_absorb m n h), firstText]
  simp only [Manifest.comment?, ← bind_remark_eq_filter, Option.bind_assoc]

theorem entryPoint? (hm : Grouped ms m) (h : String) :
    m.entryPoint? h = firstText ms fun m => (m.handlers.find? h).bind HandlerEntry.entryPoint := by
  rw [hm.findSome? (f := (Manifest.entryPoint? · h)) rfl (fun m n => entryPoint?_absorb m n h),
    firstText]
  simp only [Manifest.entryPoint?, ← bind_remark_eq_filter, Option.bind_assoc]

theorem messageComment? (hm : Grouped ms m) (k : String) :
    m.messageComment? k =
      firstText ms fun m => (m.messages.find? k).bind MessageEntry.comment := by
  rw [hm.findSome? (f := (Manifest.messageComment? · k)) rfl
    (fun m n => messageComment?_absorb m n k), firstText]
  simp only [Manifest.messageComment?, ← bind_remark_eq_filter, Option.bind_assoc]

theorem records (hm : Grouped ms m) : m.records = ms.flatMap Manifest.records := by
  induction hm with
  | nothing => rfl
  | single m => rw [List.flatMap_singleton]
  | absorb _ _ ih₁ ih₂ =>
    rw [List.flatMap_append, ← ih₁, ← ih₂]
    rfl

end Grouped

/-! ### handlers and messages -/

theorem handler_eq (m : Manifest) (depth : Nat) (h : String) :
    m.handler depth h = ⟨h, Name.moduleKey depth h, m.comment? h, m.entryPoint? h⟩ := by
  rw [handler, comment?, entryPoint?]
  cases m.handlers.find? h <;> rfl

theorem message_eq (m : Manifest) (k : String) : m.message k = ⟨k, m.messageComment? k⟩ := by
  rw [message, messageComment?]
  cases m.messages.find? k <;> rfl

theorem Grouped.handler {ms : List Manifest} {m : Manifest} (hm : Grouped ms m) (depth : Nat)
    (h : String) : m.handler depth h = {
      name := h
      moduleKey := Name.moduleKey depth h
      comment := firstText ms fun m => (m.handlers.find? h).bind HandlerEntry.comment
      entryPoint := firstText ms fun m => (m.handlers.find? h).bind HandlerEntry.entryPoint } := by
  rw [handler_eq, hm.comment?, hm.entryPoint?]

theorem Grouped.message {ms : List Manifest} {m : Manifest} (hm : Grouped ms m) (k : String) :
    m.message k = ⟨k, firstText ms fun m => (m.messages.find? k).bind MessageEntry.comment⟩ := by
  rw [message_eq, hm.messageComment?]

theorem handler_combine (ms : List Manifest) (depth : Nat) (h : String) :
    (combine ms).handler depth h = {
      name := h
      moduleKey := Name.moduleKey depth h
      comment := firstText ms fun m => (m.handlers.find? h).bind HandlerEntry.comment
      entryPoint := firstText ms fun m => (m.handlers.find? h).bind HandlerEntry.entryPoint } :=
  (Grouped.combine ms).handler depth h

theorem message_combine (ms : List Manifest) (k : String) :
    (combine ms).message k =
      ⟨k, firstText ms fun m => (m.messages.find? k).bind MessageEntry.comment⟩ :=
  (Grouped.combine ms).message k

theorem records_combine (ms : List Manifest) :
    (combine ms).records = ms.flatMap Manifest.records :=
  (Grouped.combine ms).records

end Manifest

end MessageFlow
