import MessageFlow.Host.Session
import MessageFlow.Proofs.Except
import MessageFlow.Proofs.FileTree.Change

/-!
# What the steps of a session do

`Session.Ends x s ok fail` says how a program ends that may succeed or fail: what is then true of its
result and of the session.  Programs are taken apart with `Ends.cases`, one step after the other, so
that it is enough to say once what every step of a `Session` does to the tree, whatever goes wrong.

* `Session.At`         a session that differs from another one in its tree only, of which something
                       is known, and in what is left of its plan;
* `look_ends`, `change_ends`   the steps that look and the steps that change something;
* `makeDirectories_ends`       making directories adds directories and nothing else.
-/

namespace MessageFlow.Session

open Text (Bytes)

variable {ε ε' α β : Type} {s : Session}

/-- how a program ends that is run in a session -/
def Ends (x : StateM Session (Except ε α)) (s : Session) (ok : α → Session → Prop)
    (fail : ε → Session → Prop) : Prop :=
  match x.run s with
  | (.ok a, s') => ok a s'
  | (.error e, s') => fail e s'

section
variable {x : StateM Session (Except ε α)} {ok ok' : α → Session → Prop}
  {fail fail' : ε → Session → Prop}

theorem Ends.ok_of_run (hx : Ends x s ok fail) {a : α} {s' : Session}
    (h : x.run s = (.ok a, s')) : ok a s' := by
  unfold Ends at hx
  rw [h] at hx
  exact hx

theorem Ends.fail_of_run (hx : Ends x s ok fail) {e : ε} {s' : Session}
    (h : x.run s = (.error e, s')) : fail e s' := by
  unfold Ends at hx
  rw [h] at hx
  exact hx

theorem Ends.mono (hx : Ends x s ok fail) (hok : ∀ a s', ok a s' → ok' a s')
    (hfail : ∀ e s', fail e s' → fail' e s') : Ends x s ok' fail' := by
  unfold Ends at hx ⊢
  split at hx
  · exact hok _ _ hx
  · exact hfail _ _ hx

theorem Ends.pure_ok {a : α} (h : ok a s) : Ends (pure (.ok a)) s ok fail := h

theorem Ends.pure_error {e : ε} (h : fail e s) : Ends (pure (.error e)) s ok fail := h

/-- what is true of the session however the program ends -/
theorem Ends.of_snd {P : Session → Prop} (h : P (x.run s).2) :
    Ends x s (fun _ => P) (fun _ => P) := by
  unfold Ends
  split <;> rename_i h1 <;> rw [h1] at h <;> exact h

/-- a program that goes on after another one has ended in either way -/
theorem Ends.cases (hx : Ends x s ok fail) {f : Except ε α → StateM Session (Except ε' β)}
    {ok'' : β → Session → Prop} {fail'' : ε' → Session → Prop}
    (hok : ∀ a s', ok a s' → Ends (f (.ok a)) s' ok'' fail'')
    (hfail : ∀ e s', fail e s' → Ends (f (.error e)) s' ok'' fail'') :
    Ends (x >>= f) s ok'' fail'' := by
  unfold Ends at hx
  split at hx <;> rename_i h
  · have h1 := hok _ _ hx
    unfold Ends at h1 ⊢
    rw [StateT.run_bind, h]
    exact h1
  · have h1 := hfail _ _ hx
    unfold Ends at h1 ⊢
    rw [StateT.run_bind, h]
    exact h1

end

/-! ### the steps -/

/-- the session as it was, but for its tree and what is left of its plan -/
def At (s : Session) (P : FileTree → Prop) (s' : Session) : Prop :=
  ∃ t n, s' = { s with tree := t, plan := s.plan.drop n } ∧ P t

theorem At.mono {P Q : FileTree → Prop} {s' : Session} (h : s.At P s') (hPQ : ∀ t, P t → Q t) :
    s.At Q s' := by
  obtain ⟨t, n, hs, hP⟩ := h
  exact ⟨t, n, hs, hPQ t hP⟩

theorem At.trans {P Q R : FileTree → Prop} {s' s'' : Session} (h : s.At P s') (h' : s'.At Q s'')
    (hR : ∀ t, P s'.tree → Q t → R t) : s.At R s'' := by
  obtain ⟨t, n, rfl, hP⟩ := h
  obtain ⟨t', n', rfl, hQ⟩ := h'
  exact ⟨t', n + n', by rw [List.drop_drop], hR t' hP hQ⟩

theorem At.refl {P : FileTree → Prop} (h : P s.tree) : s.At P s := ⟨s.tree, 0, rfl, h⟩

theorem At.of_next {P : FileTree → Prop} {t : FileTree} (h : P t) :
    s.At P { s with tree := t, plan := s.plan.tail } := ⟨t, 1, by rw [List.drop_one], h⟩

theorem At.base {P : FileTree → Prop} {s' : Session} (h : s.At P s') : s'.base = s.base := by
  obtain ⟨t, n, rfl, _⟩ := h
  rfl

theorem At.tree {P : FileTree → Prop} {s' : Session} (h : s.At P s') : P s'.tree := by
  obtain ⟨t, n, rfl, hP⟩ := h
  exact hP

theorem run_look (failed : FileFault → ε) (f : FileTree → Place → Except ε α) (s : Session) :
    (look failed f).run s = (match s.plan.head?.join with
      | some mishap => .error (failed mishap.fault)
      | none => f s.tree s.base, { s with plan := s.plan.tail }) := by
  unfold look next
  cases h : s.plan.head?.join <;> simp [h] <;> rfl

theorem run_change (partly : Nat → FileTree → Place → Except FileFault FileTree)
    (f : FileTree → Place → Except FileFault (α × FileTree)) (s : Session) :
    (change partly f).run s = match s.plan.head?.join with
      | some mishap => (.error mishap.fault, match mishap.sent with
        | none => { s with plan := s.plan.tail }
        | some n => match partly n s.tree s.base with
          | .ok t => { s with plan := s.plan.tail, tree := t }
          | .error _ => { s with plan := s.plan.tail })
      | none => match f s.tree s.base with
        | .error fault => (.error fault, { s with plan := s.plan.tail })
        | .ok (a, t) => (.ok a, { s with plan := s.plan.tail, tree := t }) := by
  unfold change next
  cases h : s.plan.head?.join with
  | some mishap =>
    cases h1 : mishap.sent with
    | none => simp [h, h1]; rfl
    | some n =>
      cases h2 : partly n s.tree s.base <;> simp [h, h1, h2] <;> rfl
  | none =>
    cases h1 : f s.tree s.base <;> simp [h, h1] <;> rfl

/-- a change that is cut off after a part of it -/
theorem run_change_of_mishap {partly : Nat → FileTree → Place → Except FileFault FileTree}
    {f : FileTree → Place → Except FileFault (α × FileTree)} {s : Session} {fault : FileFault}
    {n : Nat} {t : FileTree} (hs : s.plan.head?.join = some ⟨fault, some n⟩)
    (ht : partly n s.tree s.base = .ok t) :
    (change partly f).run s = (.error fault, { s with plan := s.plan.tail, tree := t }) := by
  rw [run_change, hs]
  dsimp only
  rw [ht]

/-- a step that looks leaves the tree as it is -/
theorem look_ends {failed : FileFault → ε} {f : FileTree → Place → Except ε α} :
    Ends (look failed f) s (fun a s' => f s.tree s.base = .ok a ∧ s.At (· = s.tree) s')
      (fun _ s' => s.At (· = s.tree) s') := by
  have h1 : s.At (· = s.tree) { s with plan := s.plan.tail } := .of_next rfl
  unfold Ends
  rw [run_look]
  split <;> rename_i h
  · obtain ⟨h, rfl⟩ := Prod.ext_iff.mp h
    split at h
    · cases h
    · exact ⟨h, h1⟩
  · obtain ⟨h, rfl⟩ := Prod.ext_iff.mp h
    exact h1

theorem change_ends {partly : Nat → FileTree → Place → Except FileFault FileTree}
    {f : FileTree → Place → Except FileFault (α × FileTree)} :
    Ends (change partly f) s
      (fun a s' => s.At (fun t => f s.tree s.base = .ok (a, t)) s')
      (fun _ s' => s.At (fun t => t = s.tree ∨ ∃ n, partly n s.tree s.base = .ok t) s') := by
  have h1 : ∀ P : FileTree → Prop, P s.tree → s.At P { s with plan := s.plan.tail } :=
    fun P hP => .of_next hP
  unfold Ends
  rw [run_change]
  cases s.plan.head?.join with
  | some mishap =>
    dsimp only
    split
    · exact h1 _ (.inl rfl)
    · rename_i n _
      split
      · rename_i t ht
        exact .of_next (.inr ⟨n, ht⟩)
      · exact h1 _ (.inl rfl)
  | none =>
    dsimp only
    cases h : f s.tree s.base with
    | error fault => exact h1 _ (.inl rfl)
    | ok r => exact .of_next rfl

theorem changeWholly_ends {f : FileTree → Place → Except FileFault (α × FileTree)} :
    Ends (changeWholly f) s (fun a s' => s.At (fun t => f s.tree s.base = .ok (a, t)) s')
      (fun _ s' => s.At (· = s.tree) s') := by
  refine change_ends.mono (fun _ _ h => h) fun _ _ h => h.mono ?_
  rintro t (rfl | ⟨_, h⟩)
  · rfl
  · cases h
    rfl

/-! ### making directories -/

theorem makeDirectory_ends {path : String} :
    Ends (Host.makeDirectory path) s
      (fun _ s' => s.At (s.tree.Extends · s.base [path]) s') (fun _ s' => s.At (· = s.tree) s') := by
  refine changeWholly_ends.mono (fun _ _ h => h.mono fun t ht => ?_) fun _ _ h => h
  obtain ⟨_, h1, h2⟩ := exists_of_bind_eq_ok ht
  cases h2
  exact FileTree.makeDirectory_spec h1

theorem orThere_ends {path : String} (outcome : Except FileFault Unit) :
    Ends (Host.orThere path outcome) s (fun _ s' => s.At (· = s.tree) s')
      (fun _ s' => s.At (· = s.tree) s') := by
  cases outcome with
  | ok _ => exact .pure_ok (.refl rfl)
  | error fault =>
    refine look_ends.cases (fun kind s' h => ?_) fun _ s' h => .pure_error h
    cases kind with
    | directory => exact .pure_ok h.2
    | file => exact .pure_error h.2

/-- the session as it was, but for new directories that the paths name -/
abbrev Grown (s : Session) (paths : List String) (s' : Session) : Prop :=
  s.At (s.tree.Extends · s.base paths) s'

theorem Grown.refl (s : Session) (paths : List String) : s.Grown paths s :=
  At.refl (.refl _ _ _)

theorem Grown.of_same {paths : List String} {s' : Session} (h : s.At (· = s.tree) s') :
    s.Grown paths s' := h.mono fun _ ht => ht ▸ .refl _ _ _

theorem Grown.trans {paths : List String} {s' s'' : Session} (h : s.Grown paths s')
    (h' : s'.Grown paths s'') : s.Grown paths s'' :=
  At.trans h h' fun _ ht ht' => ht.trans (h.base ▸ ht')

theorem makeNested_ends (paths : List String) :
    Ends (Host.makeNested paths) s (fun _ => s.Grown paths) (fun _ => s.Grown paths) := by
  induction paths generalizing s with
  | nil => exact .pure_ok (.refl s _)
  | cons path above ih =>
    have hone : ∀ {s s' : Session}, s.Grown [path] s' → s.Grown (path :: above) s' :=
      fun h => h.mono fun _ ht => ht.mono (List.cons_subset_cons _ (List.nil_subset _))
    have hmore : ∀ {s s' : Session}, s.Grown above s' → s.Grown (path :: above) s' :=
      fun h => h.mono fun _ ht => ht.mono (List.subset_cons_self _ _)
    -- a directory that is there already changes nothing
    have hthere : ∀ {outcome : Except FileFault Unit} {s₂ : Session}, s.Grown (path :: above) s₂ →
        Ends (Host.orThere path outcome) s₂ (fun _ => s.Grown (path :: above))
          (fun _ => s.Grown (path :: above)) :=
      fun h => (orThere_ends _).mono (fun _ _ h' => h.trans (.of_same h'))
        fun _ _ h' => h.trans (.of_same h')
    refine makeDirectory_ends.cases (fun _ s₁ h1 => hthere (hone h1)) fun fault s₁ h1 => ?_
    cases fault with
    | notFound =>
      refine ih.cases (fun _ s₂ h2 => ?_) fun _ s₂ h2 =>
        .pure_error (Grown.trans (.of_same h1) (hmore h2))
      have h3 := Grown.trans (.of_same h1) (hmore h2)
      exact makeDirectory_ends.cases (fun _ s₃ h4 => hthere (h3.trans (hone h4)))
        fun _ s₃ h4 => hthere (h3.trans (.of_same h4))
    | _ => exact hthere (.of_same h1)

theorem makeDirectories_ends (path : String) :
    Ends (Host.makeDirectories path) s (fun _ => s.Grown (Path.ancestors path))
      (fun _ => s.Grown (Path.ancestors path)) :=
  makeNested_ends _

end MessageFlow.Session
