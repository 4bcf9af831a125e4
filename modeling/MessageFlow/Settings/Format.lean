import MessageFlow.Decimal.Spelling
import MessageFlow.Found
import MessageFlow.Settings.Basic
import MessageFlow.Toml.Document

/-!
# The format of settings files

A settings file has up to four sections, `graph`, `analysis`, `diagram` and `output`.  A section may
also be given as a list of its values in the order of the keys, of which the last ones may be
missing.  What a file does not set keeps its standard value, and what it sets beyond that means
nothing.  The sections and their keys are read in the order of the file, and the first fault counts.
-/

namespace MessageFlow.Settings

open Toml (Value Entries)

inductive Fault where
  /-- the text is no settings file, or a direction is no text -/
  | malformed
  | wrongType (found : Found) (expected : String)
  | wrongValue (found : Found) (expected : String)
  | unknownVariant (name : String) (expected : List String)
  | problem (problem : Problem)
  deriving DecidableEq

namespace Fault

/-- the wording, where the fault has one -/
def message? : Fault → Option String
  | malformed => none
  | wrongType found expected => some (found.invalidType expected)
  | wrongValue found expected => some (found.invalidValue expected)
  | unknownVariant name expected => some (Found.unknownVariant name expected)
  | problem p => some ("Config validation error: " ++ p.message)

end Fault

/-- what a message tells of a value -/
def foundOf : Value → Found
  | .text t => .text t
  | .integer n => .integer n
  | .floating x => .floating (Decimal.plain x)
  | .boolean b => .boolean b
  | .moment => .table
  | .list _ => .list
  | .table _ _ => .table
  | .tables _ => .list

/-! ### single values -/

def readText (expected : String) : Value → Except Fault String
  | .text t => .ok t
  | v => .error (.wrongType (foundOf v) expected)

def readFlag : Value → Except Fault Bool
  | .boolean b => .ok b
  | v => .error (.wrongType (foundOf v) "a boolean")

def readCount : Value → Except Fault Nat
  | .integer n =>
    if 0 ≤ n then .ok n.toNat else .error (.wrongValue (.integer n) "usize")
  | v => .error (.wrongType (foundOf v) "usize")

def readTexts : Value → Except Fault (List String)
  | .list items => items.mapM (readText "a string")
  | .tables items => items.mapM fun _ => .error (.wrongType .table "a string")
  | v => .error (.wrongType (foundOf v) "a sequence")

def directionNamed (name : String) : Except Fault Direction :=
  match Direction.ofLabel? name with
  | some d => .ok d
  | none => .error (.unknownVariant name (Direction.all.map Direction.label))

/-- nothing stands beside the name of a direction -/
def isVoid : Value → Bool
  | .list items => items.isEmpty
  | .table _ es => es.isEmpty
  | .tables items => items.isEmpty
  | _ => false

/-- a text that names the direction, or a table with the name for its only key -/
def readDirection : Value → Except Fault Direction
  | .text name => directionNamed name
  | .table _ [(name, v)] => do
    let d ← directionNamed name
    if isVoid v then pure d else .error .malformed
  | _ => .error .malformed

/-! ### sections -/

/-- sets the value of a key -/
abbrev Setter (σ : Type) := String → Value → σ → Except Fault σ

/-- keys with values, or values in the order of the keys -/
def readSection {σ : Type} (expected : String) (keys : List String) (set : Setter σ) (s : σ) :
    Value → Except Fault σ
  | .table _ es => es.foldlM (fun s e => set e.1 e.2 s) s
  | .moment => .ok s
  | .list items => (keys.zip items).foldlM (fun s e => set e.1 e.2 s) s
  | .tables items =>
    (keys.zip items).foldlM (fun s e => set e.1 (.table .header e.2) s) s
  | v => .error (.wrongType (foundOf v) expected)

def setGraph : Setter Settings := fun key v s => do
  match key with
  | "module_depth" => pure { s with moduleDepth := ← readCount v }
  | _ => pure s

def setAnalysis : Setter Settings := fun key v s => do
  match key with
  | "manifest_suffix" => pure { s with manifestSuffix := ← readText "a string" v }
  | _ => pure s

def setDiagram : Setter DiagramSettings := fun key v s => do
  match key with
  | "direction" => pure { s with direction := ← readDirection v }
  | "splines" => pure { s with splines := ← readText "a string" v }
  | "cluster_color" => pure { s with clusterColor := ← readText "a string" v }
  | "palette" => pure { s with palette := ← readTexts v }
  | "unknown_color" => pure { s with unknownColor := ← readText "a string" v }
  | "highlight_color" => pure { s with highlightColor := ← readText "a string" v }
  | "inter_module_only" => pure { s with interModuleOnly := ← readFlag v }
  | _ => pure s

def diagramKeys : List String :=
  ["direction", "splines", "cluster_color", "palette", "unknown_color", "highlight_color",
    "inter_module_only"]

def setOutput : Setter Settings := fun key v s => do
  match key with
  | "data_file" => pure { s with dataFile := ← readText "path string" v }
  | "layout_engine" => pure { s with layoutEngine := ← readText "a string" v }
  | _ => pure s

def set : Setter Settings := fun key v s => do
  match key with
  | "graph" => readSection "struct GraphConfig" ["module_depth"] setGraph s v
  | "analysis" => readSection "struct AnalysisConfig" ["manifest_suffix"] setAnalysis s v
  | "diagram" =>
    let d ← readSection "struct DiagramConfig" diagramKeys setDiagram s.diagram v
    pure { s with diagram := d }
  | "output" =>
    readSection "struct OutputConfig" ["data_file", "layout_engine"] setOutput s v
  | _ => pure s

/-- the settings in a text, with or without problems -/
def readEntries (text : String) : Except Fault Settings :=
  match Entries.ofText? text with
  | none => .error .malformed
  | some es => es.foldlM (fun s e => set e.1 e.2 s) standard

/-- the settings in a text -/
def ofText (text : String) : Except Fault Settings := do
  let s ← readEntries text
  match s.problem? with
  | none => pure s
  | some p => .error (.problem p)

end MessageFlow.Settings
