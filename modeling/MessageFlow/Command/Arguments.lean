import MessageFlow.Diagram.Settings

/-!
# Command lines

`Invocation.ofWords` reads the words of a command line.  Words are read from left to right and the
first fault counts.  An option waits for its value until the next word; whether the value will do is
looked at when the next option begins or the words are at their end.
-/

namespace MessageFlow

structure RenderRequest where
  source : Option String
  dataFile : Option String
  output : String
  /-- the handler from which the flows are followed -/
  start : Option String
  interModuleOnly : Bool
  listEntryPoints : Bool
  direction : Option Direction
  config : Option String
  deriving DecidableEq

structure EntryPointsRequest where
  source : Option String
  dataFile : Option String
  config : Option String
  deriving DecidableEq

inductive Command where
  | render (request : RenderRequest)
  | entryPoints (request : EntryPointsRequest)
  | version
  deriving DecidableEq

structure Invocation where
  verbose : Bool
  command : Command
  deriving DecidableEq

/-- why words are no command; some of them ask for information instead -/
inductive Refusal where
  | invalidValue
  | unknownArgument
  | invalidSubcommand
  | tooManyValues
  | argumentConflict
  | missingRequiredArgument
  | missingSubcommand
  | displayHelp
  | displayHelpOnMissing
  | displayVersion
  deriving DecidableEq

namespace Refusal

/-- the status of a program that is called so -/
def status : Refusal → Nat
  | displayHelp => 0
  | displayVersion => 0
  | _ => 2

end Refusal

/-! ### options -/

inductive Item where
  | verbose
  | help
  | version
  | source
  | dataFile
  | output
  | start
  | interModuleOnly
  | listEntryPoints
  | direction
  | config
  deriving DecidableEq

namespace Item

def long : Item → String
  | verbose => "verbose"
  | help => "help"
  | version => "version"
  | source => "source"
  | dataFile => "data-file"
  | output => "output"
  | start => "start"
  | interModuleOnly => "inter-module-only"
  | listEntryPoints => "list-entry-points"
  | direction => "direction"
  | config => "config"

def short? : Item → Option Char
  | verbose => some 'v'
  | help => some 'h'
  | version => some 'V'
  | dataFile => some 'd'
  | output => some 'o'
  | start => some 's'
  | config => some 'c'
  | _ => none

def takesValue : Item → Bool
  | source => true
  | dataFile => true
  | output => true
  | start => true
  | direction => true
  | config => true
  | _ => false

end Item

/-- a direction in letters of any case -/
def Direction.ofAnyCase? (text : String) : Option Direction := ofLabel? (text.map Char.toUpper)

/-- whether an option can have the value -/
def Item.accepts (item : Item) (value : String) : Bool :=
  match item with
  | .start => true
  | .direction => (Direction.ofAnyCase? value).isSome
  | _ => value ≠ ""

/-- what the words belong to -/
inductive Verb where
  /-- no command has been named yet -/
  | none
  | render
  | entryPoints
  | version
  deriving DecidableEq

namespace Verb

def items : Verb → List Item
  | none => [.verbose, .help, .version]
  | render =>
    [.source, .dataFile, .output, .start, .interModuleOnly, .listEntryPoints, .direction, .config,
      .verbose, .help]
  | entryPoints => [.source, .dataFile, .config, .verbose, .help]
  | version => [.verbose, .help]

/-- the commands by their names; `help` stands for none of them -/
def ofName? : String → Option (Option Verb)
  | "render" => some render
  | "entry-points" => some entryPoints
  | "version" => some version
  | "help" => some Option.none
  | _ => Option.none

end Verb

/-! ### reading words -/

/-- the options that have been given, and one whose value is still to be looked at or to come -/
structure Scan where
  given : List (Item × Option String)
  pending : Option (Item × Option String)

namespace Scan

def empty : Scan := ⟨[], none⟩

def has (s : Scan) (item : Item) : Bool := s.given.any (·.1 = item)

def value? (s : Scan) (item : Item) : Option String := (s.given.lookup item).join

def awaitsValue (s : Scan) : Bool :=
  match s.pending with
  | some (_, none) => true
  | _ => false

/-- takes an option with its value -/
def take (s : Scan) (item : Item) (value : Option String) : Except Refusal Scan :=
  if item = .help then .error .displayHelp
  else if item = .version then .error .displayVersion
  else if item.takesValue ∧ value = none then .error .invalidValue
  else if s.has item then .error .argumentConflict
  else if ¬ value.all item.accepts then .error .invalidValue
  else .ok { s with given := s.given ++ [(item, value)] }

/-- takes the option that is pending -/
def settle (s : Scan) : Except Refusal Scan :=
  match s.pending with
  | none => .ok s
  | some (item, value) => { s with pending := none }.take item value

/-- begins an option whose value is to come -/
def await (s : Scan) (item : Item) : Except Refusal Scan := do
  pure { (← s.settle) with pending := some (item, none) }

/-- takes an option after the one that is pending -/
def settleAndTake (s : Scan) (item : Item) (value : Option String) : Except Refusal Scan := do
  (← s.settle).take item value

/-- reads a word with two dashes, of which only the rest is given -/
def readLong (verb : Verb) (s : Scan) (cs : List Char) : Except Refusal Scan :=
  let name := cs.takeWhile (· ≠ '=')
  match verb.items.find? (·.long = .ofList name), cs.drop name.length with
  | none, _ => .error .unknownArgument
  | some item, [] => if item.takesValue then s.await item else s.settleAndTake item none
  | some item, _ :: value =>
    if item.takesValue then s.settleAndTake item (some (.ofList value)) else .error .tooManyValues

/-- reads a word with one dash, letter by letter -/
def readShort (verb : Verb) (s : Scan) : List Char → Except Refusal Scan
  | [] => .ok s
  | c :: cs =>
    match verb.items.find? (·.short? = some c) with
    | none => .error .unknownArgument
    | some item =>
      if item.takesValue then
        match cs with
        | [] => s.await item
        | '=' :: value => s.settleAndTake item (some (.ofList value))
        | value => s.settleAndTake item (some (.ofList value))
      else do readShort verb (← s.settleAndTake item none) cs

/-- why a word that is neither an option nor a value is refused -/
def stray : Verb → Refusal
  | .none => .invalidSubcommand
  | _ => .unknownArgument

/-- reads a word that does not name a command -/
def readWord (verb : Verb) (s : Scan) (word : String) : Except Refusal Scan :=
  match word.toList, s.pending with
  | '-' :: '-' :: cs, _ => s.readLong verb cs
  | '-' :: c :: cs, _ => s.readShort verb (c :: cs)
  | _, some (item, none) => .ok { s with pending := some (item, some word) }
  | _, _ => .error (stray verb)

/-- reads words up to the name of a command, if one is to come, or to their end -/
def readWords (verb : Verb) (s : Scan) : List String → Except Refusal (Scan × List String)
  | [] => do pure (← s.settle, [])
  | word :: words =>
    if verb = .none ∧ ¬ s.awaitsValue ∧ (Verb.ofName? word).isSome then .ok (s, word :: words)
    else if word = "--" then
      match words with
      | [] => do pure (← s.settle, [])
      | after :: _ =>
        if (Verb.ofName? after).isSome then .error .unknownArgument else .error (stray verb)
    else do readWords verb (← s.readWord verb word) words

end Scan

/-! ### commands -/

/-- the command that the options of a verb describe -/
def Scan.command (s : Scan) : Verb → Except Refusal Command
  | .none => .error .missingSubcommand
  | .version => .ok .version
  | .entryPoints => .ok (.entryPoints ⟨s.value? .source, s.value? .dataFile, s.value? .config⟩)
  | .render =>
    match s.value? .output with
    | none => .error .missingRequiredArgument
    | some output =>
      .ok <| .render {
        source := s.value? .source
        dataFile := s.value? .dataFile
        output := output
        start := s.value? .start
        interModuleOnly := s.has .interModuleOnly
        listEntryPoints := s.has .listEntryPoints
        direction := (s.value? .direction).bind Direction.ofAnyCase?
        config := s.value? .config }

/-- what the words after `help` ask for -/
def helpOn : List String → Refusal
  | [] => .displayHelp
  | [name] => if (Verb.ofName? name).isSome then .displayHelp else .invalidSubcommand
  | _ => .invalidSubcommand

namespace Invocation

/-- reads the words of a command line, the name of the program excepted -/
def ofWords (words : List String) : Except Refusal Invocation := do
  let (general, rest) ← Scan.empty.readWords .none words
  match rest with
  | [] => .error (if general.given = [] then .displayHelpOnMissing else .missingSubcommand)
  | name :: words =>
    match (Verb.ofName? name).join with
    | none => .error (helpOn words)
    | some verb =>
      let (s, _) ← Scan.empty.readWords verb words
      pure ⟨general.has .verbose || s.has .verbose, ← s.command verb⟩

end Invocation

end MessageFlow
