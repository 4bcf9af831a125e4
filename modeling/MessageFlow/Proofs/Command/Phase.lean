import MessageFlow.Command.Execute

/-!
# The phases of a command

`executeByPhase` is `execute` with every step marked by what the command is at: so a fault tells the
phase in which it arose.  The marks change nothing else (`execute_eq`).
-/

namespace MessageFlow

/-- settings with what a request says instead -/
def RenderRequest.adjust (request : RenderRequest) (s : Settings) : Settings :=
  s.override ⟨request.dataFile, request.direction, request.interModuleOnly⟩

def EntryPointsRequest.adjust (request : EntryPointsRequest) (s : Settings) : Settings :=
  s.override ⟨request.dataFile, none, false⟩

namespace Command

/-- what a command is at -/
inductive Phase where
  | configuring
  /-- collecting manifests and analysing them -/
  | collecting
  | saving
  | loading
  | drawing
  deriving DecidableEq

section
variable {m : Type → Type} [Monad m] {α β : Type}

/-- a step that belongs to a phase -/
def during (phase : Phase) (x : ExceptT Fault m α) : ExceptT (Phase × Fault) m α :=
  x.adapt fun fault => (phase, fault)

/-- a step without the marks on its faults -/
def unmarked (x : ExceptT (Phase × Fault) m α) : ExceptT Fault m α := x.adapt Prod.snd

theorem run_unmarked (x : ExceptT (Phase × Fault) m α) :
    (unmarked x).run = Except.mapError Prod.snd <$> x.run := rfl

variable [LawfulMonad m]

theorem unmarked_during (phase : Phase) (x : ExceptT Fault m α) :
    unmarked (during phase x) = x := by
  apply ExceptT.ext
  show Except.mapError Prod.snd <$> (Except.mapError (fun fault => (phase, fault)) <$> x.run) = x.run
  have h1 : Except.mapError Prod.snd ∘ Except.mapError (fun fault => (phase, fault))
      = (id : Except Fault α → _) := by
    funext r
    cases r <;> rfl
  rw [← comp_map, h1, id_map]

theorem unmarked_bind (x : ExceptT (Phase × Fault) m α)
    (f : α → ExceptT (Phase × Fault) m β) :
    unmarked (x >>= f) = unmarked x >>= fun a => unmarked (f a) := by
  apply ExceptT.ext
  rw [run_unmarked, ExceptT.run_bind, ExceptT.run_bind, map_bind, run_unmarked, bind_map_left]
  congr 1
  funext r
  cases r with
  | ok a => rfl
  | error e => exact map_pure _ _

theorem unmarked_pure (a : α) : unmarked (pure a : ExceptT (Phase × Fault) m α) = pure a :=
  map_pure _ _

end

section
variable {m : Type → Type} [Monad m] [Host m]

/-! ### what is done in each phase -/

def configure (verbose : Bool) (request : RenderRequest) : ExceptT Fault m Settings := do
  let s := request.adjust (← settings request.config)
  if verbose then sayAll (requestLines request s)
  pure s

def analyse (source : String) (s : Settings) (verbose : Bool) : ExceptT Fault m Analysis := do
  say ("Analyzing " ++ source ++ "...")
  let analysis ← ExceptT.mk (Analysis.ofSource s.moduleDepth s.manifestSuffix source)
  if verbose then sayAll (unconsumedLines analysis.unconsumed)
  pure analysis

def store (g : Graph) (s : Settings) : ExceptT Fault m Unit := do
  ExceptT.mk (Snapshot.save g s.dataFile)
  say ("Graph saved to " ++ s.dataFile)

def reload (s : Settings) : ExceptT Fault m Graph := do
  say ("Loading graph from " ++ s.dataFile ++ "...")
  ExceptT.mk (Snapshot.load s.dataFile)

def drawRequested (log : Log.Filter) (request : RenderRequest) (s : Settings) (g : Graph) :
    ExceptT Fault m Unit := do
  if request.listEntryPoints then sayAll (entryPointLines g)
  announceStart log g request.start
  draw s (g.select request.start s.diagram.interModuleOnly) request.output

/-! ### commands with their phases -/

def obtainByPhase (source : Option String) (s : Settings) (verbose : Bool) :
    ExceptT (Phase × Fault) m Graph :=
  match source with
  | some source => do
    let analysis ← during .collecting (analyse source s verbose)
    during .saving (store analysis.graph s)
    pure analysis.graph
  | none => during .loading (reload s)

def renderByPhase (log : Log.Filter) (verbose : Bool) (request : RenderRequest) :
    ExceptT (Phase × Fault) m Unit := do
  let s ← during .configuring (configure verbose request)
  let g ← obtainByPhase request.source s verbose
  during .drawing (drawRequested log request s g)

def listByPhase (verbose : Bool) (request : EntryPointsRequest) :
    ExceptT (Phase × Fault) m Unit := do
  let s ← during .configuring (settings request.config)
  let g ← obtainByPhase request.source (request.adjust s) verbose
  during .drawing (sayAll (entryPointLines g))

/-- does what an invocation asks for, and marks the faults -/
def executeByPhase (log : Log.Filter) (invocation : Invocation) :
    m (Except (Phase × Fault) Unit) :=
  ExceptT.run <| match invocation.command with
    | .render request => renderByPhase log invocation.verbose request
    | .entryPoints request => listByPhase invocation.verbose request
    | .version => during .configuring (say versionLine)

variable [LawfulMonad m]

theorem unmarked_obtainByPhase (source : Option String) (s : Settings) (verbose : Bool) :
    unmarked (obtainByPhase (m := m) source s verbose) = obtainGraph source s verbose := by
  cases source with
  | none => simp only [obtainByPhase, obtainGraph, reload, unmarked_during]
  | some source =>
    simp only [obtainByPhase, obtainGraph, analyse, store, unmarked_bind, unmarked_during,
      unmarked_pure, bind_assoc]
    cases verbose <;> simp

theorem unmarked_renderByPhase (log : Log.Filter) (verbose : Bool) (request : RenderRequest) :
    unmarked (renderByPhase (m := m) log verbose request) = renderDiagram log verbose request := by
  simp only [renderByPhase, renderDiagram, configure, drawRequested, RenderRequest.adjust,
    unmarked_bind, unmarked_during, unmarked_obtainByPhase, bind_assoc]
  cases verbose <;> simp

theorem unmarked_listByPhase (verbose : Bool) (request : EntryPointsRequest) :
    unmarked (listByPhase (m := m) verbose request) = listEntryPoints verbose request := by
  simp only [listByPhase, listEntryPoints, EntryPointsRequest.adjust, unmarked_bind, unmarked_during,
    unmarked_obtainByPhase]

/-- the marks change nothing -/
theorem execute_eq (log : Log.Filter) (invocation : Invocation) :
    execute (m := m) log invocation = Except.mapError Prod.snd <$> executeByPhase log invocation := by
  rw [execute, executeByPhase, ← run_unmarked]
  cases invocation.command with
  | render request =>
    dsimp only
    rw [unmarked_renderByPhase]
  | entryPoints request =>
    dsimp only
    rw [unmarked_listByPhase]
  | version =>
    dsimp only
    rw [unmarked_during]

end

end Command

end MessageFlow
