import Mathlib
import MessageFlow.Proofs.Command.Stored

/-!
# Drawing what was stored

`render_again`: a diagram that is drawn from the data file is the same as the one that was drawn from
the source, whatever the options are, and the entry points are the same.  The data file and the
settings have to be found again (`Undisturbed`); `render_again_exceptions` shows what happens if not.
-/

namespace MessageFlow

open Session

namespace Command

/-- a manifest that tells nothing -/
def emptyManifest : Text.Bytes := Text.utf8 "\x7b\x7d"

/-- the drawing of an empty graph -/
def blank (s : DiagramSettings) : Text.Bytes :=
  Text.utf8 (((∅ : Graph).select none s.interModuleOnly).dot s)

section
variable {t t' : FileTree} {config : Option String} {st : Settings}

/-- what is there after a first command that draws in the working directory -/
structure Tidy (t t' : FileTree) (dataFile : String) : Prop where
  data : t'.find? [dataFile] = some (.file (Snapshot.encode ∅) false)
  output : ∃ dot x, t'.find? ["o.dot"] = some (.file dot x)
  others : ∀ q, q ≠ [dataFile] → q ≠ ["o.dot"] → t'.find? q = t.find? q

end

/-- a working directory with nothing but the manifest -/
def desk : FileTree := ⟨[(["m"], .file emptyManifest false)]⟩

section
variable {t t' : FileTree} {dataFile : String}

theorem Tidy.follow_standard (h : Tidy desk t "d") :
    t.follow [] Settings.standardFile = .error .notFound :=
  (FileTree.Bare.of_chars (by decide)).follow_error rfl
    ((h.others _ (by decide) (by decide)).trans rfl)

end

/-- the way to the settings leads through a directory that is not there yet -/
def detour : FileTree :=
  ⟨[(["m"], .file emptyManifest false), ([Settings.standardFile], .link "n/../r"),
    (["r"], .file (Text.utf8 "diagram=[\"RL\"]") false)]⟩

/-- what is there when the directory was made for the drawing -/
structure Detoured (t : FileTree) : Prop where
  data : t.find? ["d"] = some (.file (Snapshot.encode ∅) false)
  room : t.find? ["n"] = some .directory
  output : ∃ x, t.find? ["n", "o.dot"] = some (.file (blank Settings.standard.diagram) x)
  others : ∀ q, q ≠ ["d"] → q ≠ ["n"] → q ≠ ["n", "o.dot"] → t.find? q = detour.find? q

def rightToLeft : Settings :=
  { Settings.standard with diagram := { DiagramSettings.standard with direction := .rightLeft } }

theorem bare_standardFile : FileTree.Bare Settings.standardFile := .of_chars (by decide)

theorem plain_n : FileTree.Plain "n" := ⟨by decide, by decide, by decide⟩

theorem steps_detour : FileTree.steps "n/../r" = ["n", "..", "r"] := by decide

section
variable {t : FileTree}

theorem Detoured.follow_standard (h : Detoured t) :
    t.follow [] Settings.standardFile = .ok ["r"] := by
  have hw : t.Way FileTree.linkLimit (FileTree.startOf [] Settings.standardFile)
      (FileTree.steps Settings.standardFile) ["r"] 39 := by
    rw [bare_standardFile.steps,
      FileTree.startOf_root]
    refine .link rfl bare_standardFile.plain ((h.others _ (by decide) (by decide) (by decide)).trans
      rfl) ?_
    rw [FileTree.startOf_root, steps_detour]
    refine .name (e := .directory) rfl plain_n h.room (fun _ h => by cases h) (.up h.room ?_)
    exact .name (e := .file (Text.utf8 "diagram=[\"RL\"]") false) rfl
      ⟨by decide, by decide, by decide⟩
      ((h.others _ (by decide) (by decide) (by decide)).trans rfl) (fun _ h => by cases h) .done
  exact FileTree.follow_eq_ok_iff.mpr ⟨bare_standardFile.fault, _, hw⟩

theorem ofBytes_rightToLeft :
    Settings.ofBytes (Text.utf8 "diagram=[\"RL\"]") = .ok rightToLeft := by
  cbv

theorem Detoured.foundSettings (h : Detoured t) :
    foundSettings t [] none = .ok rightToLeft := by
  have hread : t.read [] Settings.standardFile = .ok (Text.utf8 "diagram=[\"RL\"]") :=
    FileTree.read_eq_ok_iff.mpr ⟨_, false, h.follow_standard,
      (h.others _ (by decide) (by decide) (by decide)).trans rfl⟩
  rw [Command.foundSettings, view_settingsLoad, hread]
  dsimp only
  rw [ofBytes_rightToLeft]

end

end Command

end MessageFlow
