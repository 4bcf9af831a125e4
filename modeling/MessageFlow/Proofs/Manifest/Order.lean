import MessageFlow.Proofs.FileTree.Walk
import MessageFlow.Proofs.Host.Looking
import MessageFlow.Proofs.Manifest.Collect
import MessageFlow.Proofs.Manifest.Graph

/-!
# The order of paths

Manifests are read in the order of their paths, name by name (`FoundFile.Before`), so that the order
in which they are found does not matter.

* `select_ordered`, `select_of_perm`   manifests in the order of their paths;
* `findSome?_select_eq_some_iff`   what is found first among them, without that order;
* `findSome?_select_append`   further manifests that have nothing new.
-/

namespace MessageFlow

-- names are compared one after the other, as the core library compares lists
attribute [local instance (high)] List.instLT List.instLE List.decidableLE

/-- the file comes before the other one in the order of paths, name by name -/
def FoundFile.Before (f g : FoundFile) : Prop := f.names < g.names

/-- no two files have the same names -/
def NamesApart (files : List FoundFile) : Prop :=
  ∀ f ∈ files, ∀ g ∈ files, f.names = g.names → f = g

namespace Manifest

variable {suffix : String} {files files' extra : List FoundFile} {β : Type}

/-! ### manifests in the order of their paths -/

theorem mem_select {f : FoundFile} :
    f ∈ select suffix files ↔ f ∈ files.filter (hasSuffix suffix) :=
  (List.mergeSort_perm _ _).mem_iff

theorem select_eq_nil_iff : select suffix files = [] ↔ ∀ f ∈ files, hasSuffix suffix f = false := by
  rw [List.eq_nil_iff_forall_not_mem]
  simp only [mem_select, List.mem_filter, not_and, Bool.not_eq_true]

theorem select_ordered (suffix : String) (files : List FoundFile) :
    (select suffix files).Pairwise fun f g => ¬ g.Before f := by
  have h1 : (select suffix files).Pairwise fun f g => decide (f.names ≤ g.names) = true := by
    apply List.pairwise_mergeSort
    · intro f g h hfg hgh
      rw [decide_eq_true_eq] at hfg hgh ⊢
      exact List.le_trans hfg hgh
    · intro f g
      rw [Bool.or_eq_true, decide_eq_true_eq, decide_eq_true_eq]
      exact List.le_total f.names g.names
  exact h1.imp of_decide_eq_true

theorem select_of_perm (ha : NamesApart files) (hp : files'.Perm files) :
    select suffix files' = select suffix files := by
  have h1 : (select suffix files').Perm (select suffix files) :=
    ((List.mergeSort_perm _ _).trans (hp.filter _)).trans (List.mergeSort_perm _ _).symm
  refine h1.eq_of_pairwise ?_ (select_ordered suffix files') (select_ordered suffix files)
  intro f g hf hg hfg hgf
  have hf' : f ∈ files := (List.mem_filter.mp (mem_select.mp (h1.mem_iff.mp hf))).1
  have hg' : g ∈ files := (List.mem_filter.mp (mem_select.mp hg)).1
  exact ha f hf' g hg' (List.le_antisymm hfg hgf)

/-- what is found first among the manifests is found in the first one that has it -/
theorem findSome?_select_eq_some_iff (ha : NamesApart files) {g : FoundFile → Option β} {b : β} :
    (select suffix files).findSome? g = some b ↔
      ∃ f ∈ files.filter (hasSuffix suffix), g f = some b
        ∧ ∀ e ∈ files.filter (hasSuffix suffix), e.Before f → g e = none := by
  rw [List.findSome?_eq_some_iff]
  constructor
  · rintro ⟨before, f, after, hs, hf, hbefore⟩
    have hord := select_ordered suffix files
    rw [hs, List.pairwise_append, List.pairwise_cons] at hord
    have hmem : ∀ e, e ∈ before ++ f :: after ↔ e ∈ files.filter (hasSuffix suffix) := by
      intro e
      rw [← hs, mem_select]
    refine ⟨f, (hmem f).mp (by simp), hf, fun e he hlt => ?_⟩
    rcases List.mem_append.mp ((hmem e).mpr he) with he | he
    · exact hbefore e he
    · rcases List.mem_cons.mp he with rfl | he
      · exact absurd hlt (List.lt_irrefl _)
      · exact absurd hlt (hord.2.1.1 e he)
  · rintro ⟨f, hmem, hf, hfirst⟩
    obtain ⟨before, after, hs, hnot⟩ := List.eq_append_cons_of_mem (mem_select.mpr hmem)
    have hord := select_ordered suffix files
    rw [hs, List.pairwise_append] at hord
    refine ⟨before, f, after, hs, hf, fun e he => ?_⟩
    have he' : e ∈ files.filter (hasSuffix suffix) := by
      rw [← mem_select, hs]
      exact List.mem_append_left _ he
    apply hfirst e he'
    -- `e` stands before `f` and is another file, so that its names are smaller
    by_contra hlt
    have h1 : ¬ f.Before e := hord.2.2 e he f List.mem_cons_self
    have h2 : e = f := ha e (List.mem_filter.mp he').1 f (List.mem_filter.mp hmem).1
      (List.le_antisymm h1 hlt)
    exact hnot (h2 ▸ he)

theorem findSome?_select_append (ha : NamesApart files) (ha' : NamesApart files')
    (hp : files'.Perm (files ++ extra)) {g g' : FoundFile → Option β}
    (hg : ∀ f ∈ files.filter (hasSuffix suffix), g' f = g f)
    (hlater : ∀ e ∈ extra.filter (hasSuffix suffix), ∃ f ∈ files.filter (hasSuffix suffix),
      f.Before e ∧ (g' f = none → g' e = none)) :
    (select suffix files').findSome? g' = (select suffix files).findSome? g := by
  have hmem : ∀ f, f ∈ files'.filter (hasSuffix suffix) ↔
      f ∈ files.filter (hasSuffix suffix) ∨ f ∈ extra.filter (hasSuffix suffix) := by
    intro f
    rw [(hp.filter _).mem_iff, List.filter_append, List.mem_append]
  -- a file that comes later is never the first one that has something
  apply Option.ext
  intro b
  rw [findSome?_select_eq_some_iff ha', findSome?_select_eq_some_iff ha]
  constructor
  · rintro ⟨f, hf, hb, hfirst⟩
    rcases (hmem f).mp hf with hf | hf
    · exact ⟨f, hf, (hg f hf).symm.trans hb, fun e he hlt =>
        (hg e he).symm.trans (hfirst e ((hmem e).mpr (.inl he)) hlt)⟩
    · obtain ⟨e, he, hlt, hnone⟩ := hlater f hf
      rw [hnone (hfirst e ((hmem e).mpr (.inl he)) hlt)] at hb
      cases hb
  · rintro ⟨f, hf, hb, hfirst⟩
    refine ⟨f, (hmem f).mpr (.inl hf), (hg f hf).trans hb, fun e he hlt => ?_⟩
    rcases (hmem e).mp he with he | he
    · exact (hg e he).trans (hfirst e he hlt)
    · obtain ⟨d, hd, hd', hnone⟩ := hlater e he
      exact hnone ((hg d hd).trans (hfirst d hd (List.lt_trans hd' hlt)))

end Manifest

end MessageFlow
