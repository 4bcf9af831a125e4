import MessageFlow.Proofs.Manifest.Collect
import MessageFlow.Proofs.Manifest.Records

/-!
# Manifests in groups

A blank remark is kept in the table of a manifest that is read alone, and is dropped when the
manifest is added to others; in a group that starts with it, it stays until another one fills it in.
The observations do not show any of this: they attach the first remark that is not blank, whichever
way the manifests came together.

* `observations_congr`   records with the same handlers and messages are the same observations;
* `Grouped.flatten`   combining groups that were combined before;
* `observations_of_groups`   the observations do not tell how manifests were grouped.
-/

namespace MessageFlow.Manifest

variable {m n : Manifest}

theorem observations_congr {depth : Nat} (hr : m.records = n.records)
    (hh : ∀ h, m.handler depth h = n.handler depth h) (hk : ∀ k, m.message k = n.message k) :
    m.observations depth = n.observations depth := by
  have h1 : m.sighting depth = n.sighting depth := by
    funext r
    rw [sighting, sighting, hh, funext hk]
  rw [observations_eq, observations_eq, hr, h1]

namespace Grouped

/-- two ways of joining the same manifests -/
theorem observations_eq {ms : List Manifest} (hm : Grouped ms m) (hn : Grouped ms n) (depth : Nat) :
    m.observations depth = n.observations depth := by
  apply observations_congr
  · rw [hm.records, hn.records]
  · intro h
    rw [hm.handler, hn.handler]
  · intro k
    rw [hm.message, hn.message]

/-- groups that were combined before -/
theorem flatten (gs : List (List Manifest)) :
    Grouped gs.flatten (Manifest.combine (gs.map Manifest.combine)) := by
  have h1 : ∀ {ms : List Manifest} {m : Manifest}, Grouped ms m →
      Grouped (ms ++ gs.flatten) ((gs.map Manifest.combine).foldl Manifest.absorb m) := by
    induction gs with
    | nil =>
      intro ms m hm
      rw [List.flatten_nil, List.append_nil]
      exact hm
    | cons g gs ih =>
      intro ms m hm
      rw [List.flatten_cons, ← List.append_assoc, List.map_cons, List.foldl_cons]
      exact ih (hm.absorb (.combine g))
  exact h1 .nothing

end Grouped

/-- **The observations do not tell how manifests were grouped.**  A manifest has the same
observations, with all remarks, whether it is taken as it stands or added to an empty one; so a file
that is read alone tells what it tells in a directory of its own.  Several manifests that are
combined one after the other have the observations of any groups of them that are combined first,
and of any other way to join them in their order. -/
theorem observations_of_groups (depth : Nat) :
    (∀ m : Manifest, (absorb ∅ m).observations depth = m.observations depth)
    ∧ (∀ {M : Type → Type} [Monad M] [LawfulMonad M] [Host M] (f : FoundFile),
        Except.map (·.observations depth) <$> (readAll ∅ [f] : M _) =
          Except.map (·.observations depth) <$> (readFile f.path : M _))
    ∧ (∀ gs : List (List Manifest), (combine (gs.map combine)).observations depth =
        (combine gs.flatten).observations depth)
    ∧ ∀ (ms : List Manifest) (m : Manifest), Grouped ms m →
        m.observations depth = (combine ms).observations depth := by
  have h1 : ∀ m : Manifest, (absorb ∅ m).observations depth = m.observations depth :=
    fun m => (Grouped.nothing.absorb (.single m)).observations_eq (.single m) depth
  refine ⟨h1, ?_, ?_, ?_⟩
  · intro M _ _ _ f
    rw [readAll_singleton, Functor.map_map]
    congr 1
    funext r
    cases r with
    | error fault => rfl
    | ok m => exact congrArg Except.ok (h1 m)
  · exact fun gs => (Grouped.flatten gs).observations_eq (.combine _) depth
  · exact fun ms m hm => hm.observations_eq (.combine ms) depth

/-- a blank comment on a handler that produces a message, and a comment that says something -/
def untold : Manifest := ⟨HandlerTable.set ∅ ⟨"a", some " ", none⟩, ∅, [⟨.sender, "a", ["m"]⟩]⟩
def told : Manifest := ⟨HandlerTable.set ∅ ⟨"a", some "sends", none⟩, ∅, []⟩

/-- the table of a file that is read alone keeps a blank remark, which no observation shows -/
theorem observations_of_groups_untold :
    absorb ∅ untold ≠ untold
    ∧ (absorb ∅ untold).observations 1 = untold.observations 1
    ∧ (untold.absorb (told.absorb untold)).observations 1 =
      (combine [untold, told, untold]).observations 1 := by
  obtain ⟨h1, -, -, h2⟩ := observations_of_groups 1
  refine ⟨by decide, h1 untold, h2 _ _ ?_⟩
  exact (Grouped.single untold).absorb ((Grouped.single told).absorb (.single untold))

end MessageFlow.Manifest
