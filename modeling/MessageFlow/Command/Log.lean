import MessageFlow.Text.Blank
import MessageFlow.Text.Pattern
import MessageFlow.Text.Utf8

/-!
# Logging

A `Log.Filter` decides which events are logged.  It is a list of directives between commas: a level
for all events, or a topic, a span or a field with or without a level of its own.  For an event that
directive counts which asks for most: for the longest topic, and then for a field.
-/

namespace MessageFlow.Log

/-- how grave an event is; a filter lets through what is at least as grave as its level -/
inductive Level where
  | error
  | warn
  | info
  | debug
  | trace
  deriving DecidableEq

namespace Level

def all : List Level := [error, warn, info, debug, trace]

def label : Level → String
  | error => "error"
  | warn => "warn"
  | info => "info"
  | debug => "debug"
  | trace => "trace"

/-- position in the order from the gravest level on, starting with one -/
def rank : Level → Nat
  | error => 1
  | warn => 2
  | info => 3
  | debug => 4
  | trace => 5

end Level

/-- what may be logged: where it comes from, how grave it is, and the fields that it has -/
structure Event where
  topic : String
  level : Level
  fields : List String

/-- what a filter lets through at most; nothing if there is no level -/
abbrev Limit := Option Level

/-- a number in decimal digits, with or without a plus sign in front -/
def number? (text : String) : Option Nat :=
  let digits := match text.toList with
    | '+' :: cs => cs
    | cs => cs
  if digits ≠ [] ∧ digits.all Char.isDigit then
    some (digits.foldl (fun n c => n * 10 + (c.toNat - '0'.toNat)) 0)
  else none

/-- a limit by its number, its name in letters of any case, or the word `off` -/
def limit? (text : String) : Option Limit :=
  let name := text.map Char.toLower
  match number? text with
  | some 0 => some none
  | some (n + 1) => Level.all[n]?.map some
  | none =>
    if name = "off" then some none
    else (Level.all.find? (·.label = name)).map some

/-! ### directives -/

/-- a field that an event has to have, and the text behind its equals sign if there is one -/
structure Demand where
  field : String
  value : Option String
  deriving DecidableEq

structure Directive where
  /-- for events whose topic starts so -/
  topic : Option String
  /-- for events inside a span of that name -/
  span : Option String
  demand : Option Demand
  limit : Limit
  deriving DecidableEq

/-- the texts of numbers without a finite size, and of no number -/
def oddNumbers : List String := ["inf", "infinity", "nan"]

/-- a number with or without a sign, a fraction and an exponent -/
def isNumeral (text : String) : Bool :=
  let unsigned := match text.toList with
    | '+' :: cs => cs
    | '-' :: cs => cs
    | cs => cs
  if oddNumbers.contains ((String.ofList unsigned).map Char.toLower) then true
  else
    let whole := unsigned.takeWhile Char.isDigit
    let rest := unsigned.drop whole.length
    let (fraction, rest) := match rest with
      | '.' :: cs => (cs.takeWhile Char.isDigit, cs.dropWhile Char.isDigit)
      | cs => ([], cs)
    (whole ++ fraction ≠ []) && match rest with
      | [] => true
      | c :: cs =>
        let digits := match cs with
          | '+' :: cs => cs
          | '-' :: cs => cs
          | cs => cs
        (c = 'e' || c = 'E') && digits ≠ [] && digits.all Char.isDigit

/-- the field of a directive; what stands behind its equals sign is a value or a search pattern, and
a second equals sign ends it -/
def Demand.ofText? (text : String) : Option Demand :=
  match text.splitOn "=" with
  | field :: value :: _ =>
    if isNumeral value || Text.isPattern value then some ⟨field, some value⟩ else none
  | _ => if text = "" then none else some ⟨text, none⟩

namespace Directive

/-- the part of a text between two places, which count bytes -/
def cut (text : String) (first last : Nat) : String :=
  Text.ofUtf8Lossy (((Text.utf8 text).drop first).take (last - first))

/-- the part of a text from a place on -/
def cutFrom (text : String) (first : Nat) : String := cut text first text.utf8ByteSize

/-- the place of a character that ends a part, the character, and what follows it -/
def seek (stops : List Char) (place : Nat) : List Char → Option (Nat × Char × List Char)
  | [] => none
  | c :: cs =>
    if stops.contains c then some (place, c, cs) else seek stops (place + c.utf8Size) cs

def isStart (c : Char) : Bool := "-:_".contains c || Text.isAlphanumeric c

/-- the limit from a place on; without a text it lets everything through -/
def limitFrom? (text : String) (place : Nat) : Option Limit :=
  let name := cutFrom text place
  if name = "" then some (some .trace) else limit? name

/-- what stands behind the bracket that closes: nothing, or an equals sign and a limit -/
def afterBracket? (text : String) (place : Nat) : List Char → Option Limit
  | [] => some (some .trace)
  | '=' :: _ => limitFrom? text (place + 1)
  | _ => none

/-- the rest of a directive behind the bracket that opens: a span, with or without a field -/
def bracket? (text : String) (topic : Option String) (place : Nat) (cs : List Char) :
    Option Directive := do
  let (stop, c, rest) ← seek [']', '\x7b'] place cs
  let span := cut text place stop
  if c = ']' then pure ⟨topic, some span, none, ← afterBracket? text (stop + 1) rest⟩
  else
    let (close, _, rest) ← seek ['\x7d'] (stop + 1) rest
    let demand ← Demand.ofText? (cut text (stop + 1) close)
    match rest with
    | ']' :: rest =>
      pure ⟨topic, if span = "" then none else some span, some demand,
        ← afterBracket? text (close + 2) rest⟩
    | _ => none

/-- reads a directive.  The blanks at its ends do not count for its form, but its parts are cut out of
the whole text, at the places that they have without the blanks. -/
def ofText? (text : String) : Option Directive :=
  match (Text.trim text).toList with
  | [] => none
  | '[' :: cs => bracket? text none 1 cs
  | c :: cs =>
    if ¬ isStart c then none
    else match seek ['=', '['] 0 (c :: cs) with
      | none =>
        match limit? text with
        | some limit => some ⟨none, none, none, limit⟩
        | none => some ⟨some text, none, none, some .trace⟩
      | some (place, stop, rest) =>
        let topic := cut text 0 place
        if stop = '=' then do pure ⟨some topic, none, none, ← limitFrom? text (place + 1)⟩
        else bracket? text (some topic) (place + 1) rest

/-- the directive is about events by themselves, not by the span they are in or the value of a
field -/
def isPlain (d : Directive) : Bool := d.span.isNone && (d.demand.bind (·.value)).isNone

/-- the directive is about the event -/
def matches? (d : Directive) (e : Event) : Bool :=
  d.isPlain && (d.topic.all fun t => e.topic.startsWith t)
    && d.demand.all fun x => e.fields.contains x.field

/-- what a directive asks for: the length of its topic, and its field -/
def weight (d : Directive) : Nat × Nat × String :=
  (d.topic.elim 0 (·.length + 1), d.demand.elim 0 fun _ => 1, d.demand.elim "" (·.field))

/-- the first directive asks for more than the second -/
def precedes (a b : Directive) : Bool :=
  let (topicA, fieldsA, fieldA) := a.weight
  let (topicB, fieldsB, fieldB) := b.weight
  topicB < topicA || topicB = topicA && (fieldsB < fieldsA || fieldsB = fieldsA && fieldB < fieldA)

end Directive

/-! ### filters -/

/-- the directives that decide what is logged -/
abbrev Filter := List Directive

namespace Filter

def standard : Filter := [⟨none, none, none, some .warn⟩]

/-- errors only, for a filter without directives -/
def silent : Filter := [⟨none, none, none, some .error⟩]

def ofText? (text : String) : Option Filter := do
  let directives ← ((text.splitOn ",").filter (· ≠ "")).mapM Directive.ofText?
  pure (if directives = [] then silent else directives)

/-- the filter that a variable of the environment asks for; without one that can be read the standard
holds -/
def ofVariable (text : Option String) : Filter := (text.bind ofText?).getD standard

/-- the directive that counts for an event; of several that ask for the same, the last one -/
def directive? (f : Filter) (e : Event) : Option Directive :=
  f.foldl (fun found d =>
    if ¬ d.matches? e then found
    else match found with
      | none => some d
      | some best => if best.precedes d then found else some d) none

/-- whether an event is logged -/
def shows (f : Filter) (e : Event) : Bool :=
  match (directive? f e).bind (·.limit) with
  | some level => decide (e.level.rank ≤ level.rank)
  | none => false

end Filter

end MessageFlow.Log
