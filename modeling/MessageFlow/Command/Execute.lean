import MessageFlow.Analysis.Source
import MessageFlow.Command.Arguments
import MessageFlow.Command.Log
import MessageFlow.Diagram.Layout
import MessageFlow.Diagram.Selection
import MessageFlow.Settings.Load
import MessageFlow.Snapshot.Store
import MessageFlow.Text.Upper

/-!
# Commands

`Command.execute` does what an invocation asks for, on any host, and `Command.run` does so for the
words of a command line and tells the status.  A command prints what it is about to do before it
does it.
-/

namespace MessageFlow.Command

variable {m : Type → Type} [Monad m] [Host m]

def say (line : String) : ExceptT Fault m Unit := ExceptT.lift (Host.say line)

def sayAll (lines : List String) : ExceptT Fault m Unit := lines.forM say

/-- a file that is given must be readable; the standard one need not be there -/
def settings (path : Option String) : ExceptT Fault m Settings :=
  match path with
  | some path => ExceptT.mk (Settings.load path)
  | none => ExceptT.lift (Settings.loadOrStandard Settings.standardFile)

/-! ### lines -/

def unconsumedLines (pairs : List (Handler × Message)) : List String :=
  if pairs = [] then []
  else ("Messages without consumers (" ++ toString pairs.length ++ "):")
    :: pairs.map fun (h, x) => "  " ++ h.name ++ " -> " ++ x.name

def entryPointLines (g : Graph) : List String :=
  let handlers := g.entryPoints
  if handlers = [] then ["No entry points found"]
  else ("Entry points (" ++ toString handlers.length ++ "):")
    :: handlers.map fun h => "  " ++ h.name ++ ": " ++ h.entryPoint.getD ""

def requestLines (request : RenderRequest) (s : Settings) : List String :=
  (request.source.map ("Source: " ++ ·)).toList
    ++ ["Data file: " ++ s.dataFile, "Output: " ++ request.output,
      "Module depth: " ++ toString s.moduleDepth,
      "Inter-module only: " ++ toString s.diagram.interModuleOnly]

def targetLine (engine output : String) : Target → String
  | .dot => "Writing diagram to " ++ output ++ "..."
  | .image format => "Laying out " ++ Text.upper format ++ " diagram with " ++ engine ++ "..."

def statsLine (g : Graph) : String :=
  let s := g.stats
  "Finished: " ++ toString s.vertices ++ " handlers, " ++ toString s.edges ++ " message flows, "
    ++ toString s.modules ++ " modules"

/-- a warning of a command, with the start that it is about -/
def startWarning : Log.Event := ⟨"msgflow::cli", .warn, ["message", "start"]⟩

def startNotFound : String := "start handler not found, rendering the full graph"

def versionLine : String := "msgflow 0.1.0"

def usage : String :=
  "Usage: msgflow [--verbose] <render --output FILE | entry-points | version> [OPTIONS]"

/-! ### the commands -/

/-- analyses a source and stores the graph, or loads the stored graph -/
def obtainGraph (source : Option String) (s : Settings) (verbose : Bool) :
    ExceptT Fault m Graph := do
  match source with
  | some source =>
    say ("Analyzing " ++ source ++ "...")
    let analysis ← ExceptT.mk (Analysis.ofSource s.moduleDepth s.manifestSuffix source)
    if verbose then sayAll (unconsumedLines analysis.unconsumed)
    ExceptT.mk (Snapshot.save analysis.graph s.dataFile)
    say ("Graph saved to " ++ s.dataFile)
    pure analysis.graph
  | none =>
    say ("Loading graph from " ++ s.dataFile ++ "...")
    ExceptT.mk (Snapshot.load s.dataFile)

/-- tells that a start is walked from, or warns that the graph does not have it -/
def announceStart (log : Log.Filter) (g : Graph) (start : Option String) : ExceptT Fault m Unit := do
  if g.lacks start then
    if log.shows startWarning then ExceptT.lift (Host.warn startNotFound)
  else if start.isSome then say "Walking the graph..."

/-- draws a selection and writes the diagram -/
def draw (s : Settings) (x : Selection) (output : String) : ExceptT Fault m Unit := do
  say "Generating diagram..."
  say (targetLine s.layoutEngine output (Target.ofPath output))
  let _ ← ExceptT.mk (Diagram.write s.layoutEngine (x.dot s.diagram) output)
  say (statsLine x.graph)

def renderDiagram (log : Log.Filter) (verbose : Bool) (request : RenderRequest) :
    ExceptT Fault m Unit := do
  let s := (← settings request.config).override
    ⟨request.dataFile, request.direction, request.interModuleOnly⟩
  if verbose then sayAll (requestLines request s)
  let g ← obtainGraph request.source s verbose
  if request.listEntryPoints then sayAll (entryPointLines g)
  announceStart log g request.start
  draw s (g.select request.start s.diagram.interModuleOnly) request.output

def listEntryPoints (verbose : Bool) (request : EntryPointsRequest) : ExceptT Fault m Unit := do
  let s := (← settings request.config).override ⟨request.dataFile, none, false⟩
  sayAll (entryPointLines (← obtainGraph request.source s verbose))

/-- does what an invocation asks for -/
def execute (log : Log.Filter) (invocation : Invocation) : m (Except Fault Unit) :=
  ExceptT.run <| match invocation.command with
    | .render request => renderDiagram log invocation.verbose request
    | .entryPoints request => listEntryPoints invocation.verbose request
    | .version => say versionLine

/-- runs a command line and tells the status; `log` is what the environment says about logging -/
def run (log : Option String) (words : List String) : m Nat := do
  match Invocation.ofWords words with
  | .error refusal =>
    match refusal with
    | .displayVersion => Host.say versionLine
    | .displayHelp => Host.say usage
    | _ => Host.complain usage
    pure refusal.status
  | .ok invocation =>
    match ← execute (Log.Filter.ofVariable log) invocation with
    | .ok () => pure 0
    | .error fault =>
      Host.complain ("Error: " ++ fault.message)
      pure 1

end MessageFlow.Command
