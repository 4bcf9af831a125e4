import MessageFlow.Proofs.Manifest.Order

/-!
# Directories of manifests

What a directory of manifests comes to does not depend on the order in which its files are found, nor
on copies of manifests that come later in the order of paths.  This is said of any host whose answers
do not change, so also of a tree of files that is only looked at (`FileTree.still`).

* `Host.readEach_eq`   reading some files: the first fault, or else all manifests;
* `Yields.collected`   what is collected from the files that a walk yields;
* `Yields.collected_eq_error_iff`, `Yields.collected_of_perm`   its fault, and another order of files;
* `Copies.analysed_eq`   further manifests with the content of some that come before them;
* `FileTree.view_collect`, `FileTree.yields_still`   trees as hosts;
* `collect_in_any_order`   all of it together.
-/

namespace MessageFlow

open Text (Bytes)
open Manifest (select hasSuffix combine firstText)

/-! ### hosts whose answers do not change -/

namespace Manifest

/-- the path is told by a fault only -/
theorem toOption_ofContent (path path' : String) (r : Except FileFault Bytes) :
    (ofContent path r).toOption = (ofContent path' r).toOption := by
  cases r with
  | error fault => rfl
  | ok bytes =>
    rw [ofContent, ofContent]
    cases Text.ofUtf8 bytes with
    | error _ => rfl
    | ok text =>
      dsimp only
      cases ofText text <;> rfl

end Manifest

namespace Host

/-- what the host gives for the manifest in a file -/
def manifest (H : Host Id) (path : String) : Except Fault Manifest := @Manifest.readFile Id _ H path

/-- what the host gives for the manifests that a path leads to -/
def collected (H : Host Id) (suffix source : String) : Except Fault Manifest :=
  @Manifest.collect Id _ H suffix source

/-- what the host gives for the analysis of a source -/
def analysed (H : Host Id) (depth : Nat) (suffix source : String) : Except Fault Analysis :=
  @Analysis.ofSource Id _ H depth suffix source

/-- why a file cannot be read as a manifest -/
def fault? (H : Host Id) (f : FoundFile) : Option Fault :=
  match H.manifest f.path with
  | .ok _ => none
  | .error fault => some fault

/-- the manifest in a file, if it can be read -/
def manifest? (H : Host Id) (f : FoundFile) : Option Manifest := (H.manifest f.path).toOption

variable {H H' : Host Id} {f g : FoundFile}

theorem manifest_eq (path : String) : H.manifest path = Manifest.ofContent path (H.read path) :=
  @Manifest.readFile_eq_map Id _ H _ path

theorem fault?_eq_some_iff {fault : Fault} :
    H.fault? f = some fault ↔ H.manifest f.path = .error fault := by
  rw [fault?]
  cases H.manifest f.path <;> simp

theorem fault?_eq_none_iff : H.fault? f = none ↔ ∃ m, H.manifest f.path = .ok m := by
  rw [fault?]
  cases H.manifest f.path <;> simp

theorem manifest?_eq_some_iff {m : Manifest} :
    H.manifest? f = some m ↔ H.manifest f.path = .ok m := by
  rw [manifest?]
  cases H.manifest f.path <;> simp [Except.toOption]

theorem readEach_eq (fs : List FoundFile) : @Manifest.readEach Id _ H fs =
    (fs.findSome? H.fault?).elim (Except.ok (fs.filterMap H.manifest?)) Except.error := by
  induction fs with
  | nil => rfl
  | cons f fs ih =>
    have hr : @Manifest.readFile Id _ H f.path = H.manifest f.path := rfl
    rw [Manifest.readEach, hr, List.findSome?_cons, List.filterMap_cons, fault?, manifest?]
    cases H.manifest f.path with
    | error fault => rfl
    | ok m =>
      show Except.map (m :: ·) (@Manifest.readEach Id _ H fs) = _
      rw [ih]
      cases fs.findSome? H.fault? <;> rfl

theorem fault?_congr (h : H'.read f.path = H.read f.path) : H'.fault? f = H.fault? f := by
  rw [fault?, fault?, manifest_eq, manifest_eq, h]

theorem manifest?_congr (h : H'.read f.path = H.read g.path) : H'.manifest? f = H.manifest? g := by
  rw [manifest?, manifest?, manifest_eq, manifest_eq, h, Manifest.toOption_ofContent]

end Host

/-! ### directories -/

/-- the source is a directory, and a walk through it yields these files -/
structure Yields (H : Host Id) (source : String) (files : List FoundFile) : Prop where
  kind : H.kind source = Except.ok FileKind.directory
  walk : H.filesUnder source = Except.ok files
  apart : NamesApart files

namespace Yields

variable {H H' : Host Id} {suffix source : String} {files files' : List FoundFile}

theorem collected (hw : Yields H source files) (suffix : String) :
    H.collected suffix source =
      if select suffix files = [] then .error (.noManifests source)
      else ((select suffix files).findSome? H.fault?).elim
        (.ok (combine ((select suffix files).filterMap H.manifest?))) .error := by
  have h1 : H.collected suffix source = @Manifest.readDirectory Id _ H suffix source := by
    show bind (H.kind source) _ = _
    rw [hw.kind]
    rfl
  rw [h1, Manifest.readDirectory]
  show bind (H.filesUnder source) _ = _
  rw [hw.walk]
  dsimp only [bind]
  cases hs : select suffix files with
  | nil => rfl
  | cons f fs =>
    dsimp only
    rw [Manifest.readAll_eq_combine, Host.readEach_eq, if_neg (List.cons_ne_nil f fs)]
    cases (f :: fs).findSome? H.fault? <;> rfl

theorem collected_eq_error_iff (hw : Yields H source files) {fault : Fault} :
    H.collected suffix source = .error fault ↔
      (fault = .noManifests source ∧ ∀ f ∈ files, hasSuffix suffix f = false)
      ∨ ∃ f ∈ files.filter (hasSuffix suffix), H.manifest f.path = .error fault
        ∧ ∀ g ∈ files.filter (hasSuffix suffix), g.Before f → ∃ m, H.manifest g.path = .ok m := by
  have h1 : (select suffix files).findSome? H.fault? = some fault ↔ _ :=
    Manifest.findSome?_select_eq_some_iff hw.apart
  simp only [Host.fault?_eq_some_iff, Host.fault?_eq_none_iff] at h1
  rw [← h1, hw.collected, ← Manifest.select_eq_nil_iff]
  by_cases hs : select suffix files = []
  · rw [if_pos hs, hs, Except.error.injEq, eq_comm]
    simp
  · rw [if_neg hs]
    cases (select suffix files).findSome? H.fault? <;> simp [hs]

theorem collected_of_perm (hw : Yields H source files) (hw' : Yields H' source files')
    (hp : files'.Perm files)
    (hr : ∀ f ∈ files.filter (hasSuffix suffix), H'.read f.path = H.read f.path) :
    H'.collected suffix source = H.collected suffix source := by
  have h1 : (select suffix files).filterMap H'.manifest? =
      (select suffix files).filterMap H.manifest? := by
    apply List.filterMap_congr
    intro f hf
    exact Host.manifest?_congr (hr f (Manifest.mem_select.mp hf))
  have h2 : (select suffix files).findSome? H'.fault? =
      (select suffix files).findSome? H.fault? := by
    rw [← List.head?_filterMap, ← List.head?_filterMap]
    congr 1
    apply List.filterMap_congr
    intro f hf
    exact Host.fault?_congr (hr f (Manifest.mem_select.mp hf))
  rw [hw'.collected, hw.collected, Manifest.select_of_perm hw.apart hp, h1, h2]

end Yields

/-! ### copies -/

/-- on the second host the walk yields the manifests of the first one with the same content, and
further ones, of which each comes after one of these and has its content -/
structure Copies (H H' : Host Id) (suffix source : String) (files files' extra : List FoundFile) :
    Prop where
  before : Yields H source files
  after : Yields H' source files'
  perm : files'.Perm (files ++ extra)
  kept : ∀ f ∈ files.filter (hasSuffix suffix), H'.read f.path = H.read f.path
  copied : ∀ e ∈ extra.filter (hasSuffix suffix), ∃ f ∈ files.filter (hasSuffix suffix),
    f.Before e ∧ H'.read e.path = H'.read f.path

namespace Copies

variable {H H' : Host Id} {suffix source : String} {files files' extra : List FoundFile}
  (hc : Copies H H' suffix source files files' extra)
include hc

theorem mem_select {f : FoundFile} : f ∈ select suffix files' ↔
    f ∈ files.filter (hasSuffix suffix) ∨ f ∈ extra.filter (hasSuffix suffix) := by
  rw [Manifest.mem_select, (hc.perm.filter _).mem_iff, List.filter_append, List.mem_append]

theorem select_eq_nil_iff : select suffix files' = [] ↔ select suffix files = [] := by
  simp only [List.eq_nil_iff_forall_not_mem, hc.mem_select, Manifest.mem_select, not_or]
  constructor
  · exact fun h f => (h f).1
  · intro h f
    refine ⟨h f, fun hf => ?_⟩
    obtain ⟨g, hg, -⟩ := hc.copied f hf
    exact h g hg

theorem manifest?_eq {f : FoundFile} (hf : f ∈ files.filter (hasSuffix suffix)) :
    H'.manifest? f = H.manifest? f :=
  Host.manifest?_congr (hc.kept f hf)

theorem mem_records (r : Record) :
    (∃ m ∈ (select suffix files').filterMap H'.manifest?, r ∈ m.records) ↔
      ∃ m ∈ (select suffix files).filterMap H.manifest?, r ∈ m.records := by
  simp only [List.mem_filterMap, hc.mem_select, Manifest.mem_select]
  constructor
  · rintro ⟨m, ⟨f, hf | hf, hm⟩, hr⟩
    · exact ⟨m, ⟨f, hf, (hc.manifest?_eq hf).symm.trans hm⟩, hr⟩
    · obtain ⟨e, he, _, hread⟩ := hc.copied f hf
      rw [Host.manifest?_congr hread, hc.manifest?_eq he] at hm
      exact ⟨m, ⟨e, he, hm⟩, hr⟩
  · rintro ⟨m, ⟨f, hf, hm⟩, hr⟩
    exact ⟨m, ⟨f, .inl hf, (hc.manifest?_eq hf).trans hm⟩, hr⟩

/-- what is found in a manifest or its fault is found in one that was there before -/
theorem findSome?_eq {β : Type} {g g' : FoundFile → Option β}
    (hg : ∀ f ∈ files.filter (hasSuffix suffix), g' f = g f)
    (hsame : ∀ e f : FoundFile, H'.read e.path = H'.read f.path → g' f = none → g' e = none) :
    (select suffix files').findSome? g' = (select suffix files).findSome? g := by
  apply Manifest.findSome?_select_append hc.before.apart hc.after.apart hc.perm hg
  intro e he
  obtain ⟨f, hf, hlt, hread⟩ := hc.copied e he
  exact ⟨f, hf, hlt, hsame e f hread⟩

theorem fault?_eq :
    (select suffix files').findSome? H'.fault? = (select suffix files).findSome? H.fault? := by
  apply hc.findSome?_eq
  · exact fun f hf => Host.fault?_congr (hc.kept f hf)
  · intro e f hread
    simp only [Host.fault?_eq_none_iff, ← Host.manifest?_eq_some_iff, Host.manifest?_congr hread]
    exact id

theorem firstText_eq (text : Manifest → Option String) :
    firstText ((select suffix files').filterMap H'.manifest?) text =
      firstText ((select suffix files).filterMap H.manifest?) text := by
  have h1 : ∀ (fs : List FoundFile) (H : Host Id), firstText (fs.filterMap H.manifest?) text =
      fs.findSome? fun f => (H.manifest? f).bind fun m =>
        (text m).filter fun t => !Text.blank t := by
    intro fs H
    rw [firstText, ← List.head?_filterMap, List.filterMap_filterMap, List.head?_filterMap]
  rw [h1, h1]
  apply hc.findSome?_eq
  · intro f hf
    rw [hc.manifest?_eq hf]
  · intro e f hread hnone
    rw [Host.manifest?_congr hread]
    exact hnone

theorem analysed_eq (depth : Nat) :
    H'.analysed depth suffix source = H.analysed depth suffix source := by
  show (H'.collected suffix source).map _ = (H.collected suffix source).map _
  rw [hc.after.collected, hc.before.collected, hc.fault?_eq, if_congr hc.select_eq_nil_iff rfl rfl]
  split
  · rfl
  · cases (select suffix files).findSome? H.fault? with
    | some fault => rfl
    | none =>
      -- the records are there more often now, but no other ones and no other first remarks
      refine congrArg Except.ok (Analysis.ofManifest_combine_eq depth hc.mem_records ?_ ?_)
      · intro h
        rw [Manifest.handler_combine, Manifest.handler_combine, hc.firstText_eq, hc.firstText_eq]
      · intro k
        rw [Manifest.message_combine, Manifest.message_combine, hc.firstText_eq]

end Copies

/-! ### trees -/

namespace FileTree

/-- a tree that is only looked at, as a host -/
@[reducible]
def still (t : FileTree) (base : Place) : Host Id where
  Staged := Place
  kind path := t.kind base path
  read path := t.read base path
  filesUnder path := t.filesUnder base path
  makeDirectory path := t.view base (Host.makeDirectory path)
  write path bytes := t.view base (Host.write path bytes)
  stage directory := t.view base (Host.stage (m := StateM Session) directory)
  fill place bytes := t.view base (Host.fill (m := StateM Session) place bytes)
  flush place := t.view base (Host.flush (m := StateM Session) place)
  sync place := t.view base (Host.sync (m := StateM Session) place)
  publish place path := t.view base (Host.publish (m := StateM Session) place path)
  discard place := t.view base (Host.discard (m := StateM Session) place)
  run program arguments input := t.view base (Host.run program arguments input)
  say line := t.view base (Host.say line)
  warn line := t.view base (Host.warn line)
  complain line := t.view base (Host.complain line)

variable (t : FileTree) (base : Place)

theorem view_manifest (path : String) :
    t.view base (Manifest.readFile path) = (t.still base).manifest path := by
  rw [view_readFile, Host.manifest_eq]
  rfl

theorem view_readAll (sofar : Manifest) (fs : List FoundFile) :
    t.view base (Manifest.readAll sofar fs) = @Manifest.readAll Id _ (t.still base) sofar fs := by
  induction fs generalizing sofar with
  | nil => rfl
  | cons f fs ih =>
    rw [Manifest.readAll, (looks_readFile f.path).view_bind, view_manifest]
    show _ = bind (m := Id) ((t.still base).manifest f.path) _
    cases (t.still base).manifest f.path with
    | error fault => rfl
    | ok m => exact ih (sofar.absorb m)

theorem view_filesUnder (path : String) :
    t.view base (Host.filesUnder path) = t.filesUnder base path :=
  view_look t base (WalkFault.failed path) _

theorem view_collect (suffix source : String) :
    t.view base (Manifest.collect suffix source) = (t.still base).collected suffix source := by
  have hfiles : Looks (Host.filesUnder source : StateM Session _) := looks_look _ _
  rw [Manifest.collect, (looks_kind source).view_bind, view_kind]
  show _ = bind (m := Id) (t.kind base source) _
  cases t.kind base source with
  | error fault => rfl
  | ok kind =>
    cases kind with
    | file => exact view_manifest t base source
    | directory =>
      show t.view base (Manifest.readDirectory suffix source) =
        @Manifest.readDirectory Id _ (t.still base) suffix source
      rw [Manifest.readDirectory, hfiles.view_bind, view_filesUnder]
      show _ = bind (m := Id) (t.filesUnder base source) _
      cases t.filesUnder base source with
      | error fault => rfl
      | ok files =>
        dsimp only [bind]
        cases select suffix files with
        | nil => rfl
        | cons f fs => exact view_readAll t base ∅ (f :: fs)

variable {t base}

theorem yields_still {source : String} {files : List FoundFile}
    (hk : t.kind base source = .ok .directory) (hf : t.filesUnder base source = .ok files) :
    Yields (t.still base) source files :=
  ⟨hk, hf, names_apart_filesUnder hf⟩

theorem view_collect_of_rearranged {t' : FileTree} {source : String} {files : List FoundFile}
    (h : t.Rearranged t') (hk : t.kind base source = .ok .directory)
    (hf : t.filesUnder base source = .ok files) (suffix : String) :
    t'.view base (Manifest.collect suffix source) = t.view base (Manifest.collect suffix source) := by
  obtain ⟨files', hf', hp⟩ := h.filesUnder_perm hf
  have hk' : t'.kind base source = .ok .directory := by rw [h.kind_eq, hk]
  rw [view_collect, view_collect]
  exact (yields_still hk hf).collected_of_perm (yields_still hk' hf') hp
    fun f _ => h.read_eq base f.path

end FileTree

/-! ### the order of files -/

/-- **A directory means the same in whatever order its files are found.**  On a host whose answers do
not change, a directory without manifests is a fault; else the first manifest in the order of paths
that cannot be read decides the fault, and if all can be read, they are all collected.  Another host
on which a walk yields the same files with the same manifests, in any order, collects the same; and
if it yields more manifests, of which each comes after one with the same content, the analysis is the
same.  So it is for trees: their walks may come to the entries of a directory in any order. -/
theorem collect_in_any_order (suffix source : String) :
    (∀ (H : Host Id) (files : List FoundFile), Yields H source files → ∀ fault,
      H.collected suffix source = .error fault ↔
        (fault = .noManifests source ∧ ∀ f ∈ files, hasSuffix suffix f = false)
        ∨ ∃ f ∈ files.filter (hasSuffix suffix), H.manifest f.path = .error fault
          ∧ ∀ g ∈ files.filter (hasSuffix suffix), g.Before f → ∃ m, H.manifest g.path = .ok m)
    ∧ (∀ (H H' : Host Id) (files files' : List FoundFile),
        Yields H source files → Yields H' source files' → files'.Perm files →
        (∀ f ∈ files.filter (hasSuffix suffix), H'.read f.path = H.read f.path) →
        H'.collected suffix source = H.collected suffix source)
    ∧ (∀ (H H' : Host Id) (files files' extra : List FoundFile),
        Copies H H' suffix source files files' extra →
        ∀ depth, H'.analysed depth suffix source = H.analysed depth suffix source)
    ∧ ∀ (t : FileTree) (base : Place) (files : List FoundFile),
        t.kind base source = .ok .directory → t.filesUnder base source = .ok files →
        (∀ t', t.Rearranged t' → t'.view base (Manifest.collect suffix source) =
          t.view base (Manifest.collect suffix source))
        ∧ ∀ (t' : FileTree) (files' extra : List FoundFile),
          Copies (t.still base) (t'.still base) suffix source files files' extra →
          ∀ depth, t'.view base (Analysis.ofSource depth suffix source) =
            t.view base (Analysis.ofSource depth suffix source) := by
  refine ⟨?_, ?_, ?_, ?_⟩
  · intro H files hw fault
    exact hw.collected_eq_error_iff
  · intro H H' files files' hw hw' hp hr
    exact hw.collected_of_perm hw' hp hr
  · intro H H' files files' extra hc depth
    exact hc.analysed_eq depth
  · intro t base files hk hf
    refine ⟨fun t' h => FileTree.view_collect_of_rearranged h hk hf suffix, ?_⟩
    intro t' files' extra hc depth
    rw [view_ofSource, view_ofSource, FileTree.view_collect, FileTree.view_collect]
    exact hc.analysed_eq depth

/-- a directory with one manifest -/
def shelf : FileTree :=
  ⟨[(["d"], .directory), (["d", "a.json"], .file (Text.utf8 "\x7b\x7d") false)]⟩

/-- the same with a link to the manifest -/
def linkedShelf : FileTree := ⟨(["d", "b.json"], .link "a.json") :: shelf.entries⟩

theorem bare_shelf : FileTree.Bare "d" ∧ FileTree.Bare "a.json" ∧ FileTree.Bare "b.json" :=
  ⟨.of_chars (by decide), .of_chars (by decide), .of_chars (by decide)⟩

theorem follow_shelf {t : FileTree} (ht : t.find? ["d"] = some .directory) :
    t.follow [] "d" = .ok ["d"] :=
  bare_shelf.1.follow rfl ⟨_, ht, fun _ h => by cases h⟩

theorem kind_shelf {t : FileTree} (ht : t.find? ["d"] = some .directory) :
    t.kind [] "d" = .ok .directory := by
  simp only [FileTree.kind, follow_shelf ht, ht, bind, Except.bind]
  rfl

theorem filesUnder_shelf : shelf.filesUnder [] "d" = .ok [⟨["a.json"], "d/a.json"⟩] := by
  have hc : shelf.children ["d"] = ["a.json"] := by decide
  rw [FileTree.filesUnder, follow_shelf rfl]
  show shelf.visit (15 + 1) _ _ _ = _
  rw [FileTree.visit_succ, hc]
  simp only [List.mapM_cons, List.mapM_nil, FileTree.arrive, bare_shelf.1.join]
  rfl

theorem filesUnder_linkedShelf : linkedShelf.filesUnder [] "d" =
    .ok [⟨["b.json"], "d/b.json"⟩, ⟨["a.json"], "d/a.json"⟩] := by
  have hlink : linkedShelf.follow ["d"] "b.json" = .ok ["d", "a.json"] :=
    bare_shelf.2.2.follow_link rfl rfl bare_shelf.2.1 ⟨_, rfl, fun _ h => by cases h⟩
  have hc : linkedShelf.children ["d"] = ["b.json", "a.json"] := by decide
  rw [FileTree.filesUnder, follow_shelf rfl]
  show linkedShelf.visit (24 + 1) _ _ _ = _
  rw [FileTree.visit_succ, hc]
  simp only [List.mapM_cons, List.mapM_nil, FileTree.arrive, bare_shelf.1.join]
  rw [hlink]
  rfl

theorem read_shelf : shelf.read [] "d/a.json" = .ok (Text.utf8 "\x7b\x7d")
    ∧ linkedShelf.read [] "d/a.json" = .ok (Text.utf8 "\x7b\x7d")
    ∧ linkedShelf.read [] "d/b.json" = .ok (Text.utf8 "\x7b\x7d") := by
  obtain ⟨hd, ha, hb⟩ := bare_shelf
  -- in the directory, a name that leads to the manifest may be a link
  have hread : ∀ {t : FileTree} {path name : String} {left : Nat},
      FileTree.pathFault? path = none → FileTree.steps path = ["d", name] →
      t.find? ["d"] = some .directory →
      t.find? ["d", "a.json"] = some (.file (Text.utf8 "\x7b\x7d") false) →
      t.Way FileTree.linkLimit ["d"] [name] ["d", "a.json"] left →
      t.read [] path = .ok (Text.utf8 "\x7b\x7d") := by
    intro t path name left hp hs hdir hfile hw
    refine FileTree.read_eq_ok_iff.mpr ⟨_, false, FileTree.follow_eq_ok_iff.mpr ⟨hp, left, ?_⟩, hfile⟩
    rw [hs, FileTree.startOf_root]
    exact .name rfl hd.plain hdir (fun _ h => by cases h) hw
  have hpa : FileTree.pathFault? "d/a.json" = none :=
    FileTree.pathFault?_eq_none (by decide) (by decide) (by decide)
  have hpb : FileTree.pathFault? "d/b.json" = none :=
    FileTree.pathFault?_eq_none (by decide) (by decide) (by decide)
  have hsa : FileTree.steps "d/a.json" = ["d", "a.json"] := by decide
  have hsb : FileTree.steps "d/b.json" = ["d", "b.json"] := by decide
  have ha' : ∀ {t : FileTree} {links : Nat}, t.find? ["d"] = some .directory →
      t.find? ["d", "a.json"] = some (.file (Text.utf8 "\x7b\x7d") false) →
      t.Way links ["d"] ["a.json"] ["d", "a.json"] links :=
    fun hdir hfile => .name hdir ha.plain hfile (fun _ h => by cases h) .done
  have hb' : linkedShelf.Way FileTree.linkLimit ["d"] ["b.json"] ["d", "a.json"] 39 := by
    refine .link rfl hb.plain rfl ?_
    rw [FileTree.startOf, ha.relative, ha.steps]
    exact ha' rfl rfl
  exact ⟨hread hpa hsa rfl rfl (ha' rfl rfl), hread hpa hsa rfl rfl (ha' rfl rfl),
    hread hpb hsb rfl rfl hb'⟩

/-- the entries in another order, and a link that comes later -/
theorem collect_in_any_order_shelf :
    (⟨linkedShelf.entries.reverse⟩ : FileTree).view [] (Manifest.collect ".json" "d") =
      linkedShelf.view [] (Manifest.collect ".json" "d")
    ∧ linkedShelf.filesUnder [] "d" = .ok [⟨["b.json"], "d/b.json"⟩, ⟨["a.json"], "d/a.json"⟩]
    ∧ linkedShelf.view [] (Analysis.ofSource 2 ".json" "d") =
      shelf.view [] (Analysis.ofSource 2 ".json" "d") := by
  have hdir : shelf.kind [] "d" = .ok .directory := kind_shelf rfl
  have hdir' : linkedShelf.kind [] "d" = .ok .directory := kind_shelf rfl
  have hsuffix : hasSuffix ".json" ⟨["a.json"], "d/a.json"⟩ = true :=
    String.Slice.endsWith_string_iff.mpr ⟨['a'], by decide⟩
  have hc : Copies (shelf.still []) (linkedShelf.still []) ".json" "d" [⟨["a.json"], "d/a.json"⟩]
      [⟨["b.json"], "d/b.json"⟩, ⟨["a.json"], "d/a.json"⟩] [⟨["b.json"], "d/b.json"⟩] := by
    refine ⟨FileTree.yields_still hdir filesUnder_shelf,
      FileTree.yields_still hdir' filesUnder_linkedShelf, .swap _ _ _, ?_, ?_⟩
    · intro f hf
      rw [List.mem_singleton.mp (List.mem_filter.mp hf).1]
      exact read_shelf.2.1.trans read_shelf.1.symm
    · intro e he
      rw [List.mem_singleton.mp (List.mem_filter.mp he).1]
      refine ⟨⟨["a.json"], "d/a.json"⟩, List.mem_filter.mpr ⟨List.mem_singleton_self _, hsuffix⟩,
        ?_, read_shelf.2.2.trans read_shelf.2.1.symm⟩
      show (["a.json"] : List String) < ["b.json"]
      decide
  have h1 := (collect_in_any_order ".json" "d").2.2.2
  exact ⟨(h1 linkedShelf [] _ hdir' filesUnder_linkedShelf).1 _ ⟨List.reverse_perm _, by decide⟩,
    filesUnder_linkedShelf, (h1 shelf [] _ hdir filesUnder_shelf).2 linkedShelf _ _ hc 2⟩

end MessageFlow
