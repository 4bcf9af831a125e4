import MessageFlow.Host.Basic

/-!
# Sessions

A `Session` is a host in a value: a file tree with a working directory, the programs that its files
can be started as, a plan of mishaps, and the lines that were printed.  Every step that can fail
takes the next entry of the plan.  Where the entry is a mishap, the step fails with its fault, and a
step that sends bytes may have sent some of them; where the entry is empty, or the plan is at its
end, the step does what the tree allows.
-/

namespace MessageFlow

open Text (Bytes)

/-- what came of running a program: the tree afterwards, the way it ended, and how many bytes of its
input it took -/
structure Performance where
  tree : FileTree
  ending : Ending
  taken : Nat

/-- what a program does with its name, its arguments, its input, and a tree with a working directory -/
abbrev Program := String → List String → Bytes → FileTree → Place → Performance

/-- how much input is kept for a program that has not taken it yet, and the size of the pages that it
is kept in -/
def pipeSize : Nat := 65536
def pageSize : Nat := 4096

/-- how much input can be sent to a program that takes so many bytes of it; a page is free again when
all of it is taken -/
def pipeLimit (taken : Nat) : Nat := pipeSize + taken / pageSize * pageSize

structure Mishap where
  fault : FileFault
  /-- how many bytes were sent before, if the step came that far -/
  sent : Option Nat

structure Session where
  tree : FileTree
  /-- the working directory -/
  base : Place
  /-- the program that a path or a name leads to -/
  program : FileTree → Place → String → Except FileFault Program
  /-- what goes wrong at the next steps -/
  plan : List (Option Mishap)
  /-- the lines that were printed -/
  said : List String
  /-- the warnings that were logged -/
  warned : List String
  /-- the lines on the error output -/
  complained : List String

namespace Session

/-- takes what the plan has for the next step -/
def next : StateM Session (Option Mishap) := do
  let s ← get
  set { s with plan := s.plan.tail }
  pure s.plan.head?.join

/-- a step that leaves the tree as it is -/
def look {ε α : Type} (failed : FileFault → ε) (f : FileTree → Place → Except ε α) :
    StateM Session (Except ε α) := do
  match ← next with
  | some mishap => pure (.error (failed mishap.fault))
  | none =>
    let s ← get
    pure (f s.tree s.base)

/-- a step that changes the tree; `partly` is what it does when it sends only so many bytes -/
def change {α : Type} (partly : Nat → FileTree → Place → Except FileFault FileTree)
    (f : FileTree → Place → Except FileFault (α × FileTree)) :
    StateM Session (Except FileFault α) := do
  match ← next with
  | some mishap =>
    let s ← get
    match mishap.sent with
    | none => pure ()
    | some n =>
      match partly n s.tree s.base with
      | .ok tree => set { s with tree := tree }
      | .error _ => pure ()
    pure (.error mishap.fault)
  | none =>
    let s ← get
    match f s.tree s.base with
    | .error fault => pure (.error fault)
    | .ok (a, tree) =>
      set { s with tree := tree }
      pure (.ok a)

/-- a step that is done wholly or not at all -/
def changeWholly {α : Type} (f : FileTree → Place → Except FileFault (α × FileTree)) :
    StateM Session (Except FileFault α) :=
  change (fun _ tree _ => .ok tree) f

/-- runs a program; one that is not wholly fed does what it does with less input.  The
pipe to a program breaks if it ends before the rest of the input fits in. -/
def run (program : String) (arguments : List String) (input : Bytes) :
    StateM Session (Except ProgramFault Ending) := do
  let mishap ← next
  let s ← get
  match mishap with
  | some ⟨fault, none⟩ => pure (.error (.notStarted fault))
  | _ =>
    if (program :: arguments).any (·.contains '\x00') then
      pure (.error (.notStarted .nulInCommand))
    else match s.program s.tree s.base program with
      | .error fault => pure (.error (.notStarted fault))
      | .ok p =>
        let start := fun taken => p program arguments taken s.tree s.base
        match mishap with
        | some ⟨fault, some n⟩ =>
          set { s with tree := (start (input.take n)).tree }
          pure (.error (if n < input.length then .notFed fault else .lost fault))
        | _ =>
          let p := start input
          set { s with tree := p.tree }
          pure (if pipeLimit p.taken < input.length then .error (.notFed .brokenPipe)
            else .ok p.ending)

instance : Host (StateM Session) where
  Staged := Place
  kind path := look id fun t base => t.kind base path
  read path := look id fun t base => t.read base path
  filesUnder path := look (.failed path) fun t base => t.filesUnder base path
  makeDirectory path := changeWholly fun t base => do pure ((), ← t.makeDirectory base path)
  write path bytes :=
    change (fun n t base => t.write base path (bytes.take n))
      (fun t base => do pure ((), ← t.write base path bytes))
  stage directory := changeWholly fun t base => t.stage base directory
  fill place bytes :=
    change (fun n t _ => .ok (t.put place (bytes.take n))) (fun t _ => .ok ((), t.put place bytes))
  flush _ := look id fun _ _ => .ok ()
  sync _ := look id fun _ _ => .ok ()
  publish place path := changeWholly fun t base => do pure ((), ← t.move place base path)
  discard place := modify fun s => { s with tree := s.tree.erase place }
  run := run
  say line := modify fun s => { s with said := s.said ++ [line] }
  warn line := modify fun s => { s with warned := s.warned ++ [line] }
  complain line := modify fun s => { s with complained := s.complained ++ [line] }

end Session

end MessageFlow
