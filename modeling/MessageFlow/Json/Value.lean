import MessageFlow.Json.Skip

/-!
# Values of an expected shape

Readers for values whose shape is known beforehand: texts, lists, and objects.  Each returns what
follows the value.  A value of another kind is a fault that tells what was found and what `expected`
names.  A fixed set of fields can be given as an object, or as a list in the order of the fields.
-/

namespace MessageFlow.Json

/-- the fault of a value of the wrong kind, of which `cs` starts with the first character -/
def mismatch (expected : String) (cs : List Char) : Fault :=
  let tell := fun (found : Except Fault Found) =>
    match found with
    | .ok found => Fault.wrongType found expected
    | .error fault => fault
  match cs with
  | 'n' :: rest => tell do
    let _ ← word ['u', 'l', 'l'] rest
    pure .null
  | 't' :: rest => tell do
    let _ ← word ['r', 'u', 'e'] rest
    pure (.boolean true)
  | 'f' :: rest => tell do
    let _ ← word ['a', 'l', 's', 'e'] rest
    pure (.boolean false)
  | '"' :: rest => tell do
    let (text, _) ← readText rest
    pure (.text text)
  | '[' :: _ => .wrongType .list expected
  | '\x7b' :: _ => .wrongType .table expected
  | '-' :: rest => tell do
    let (numeral, _) ← readNumeral (.endsIn .value) true rest
    numeral.found
  | c :: rest =>
    if isDigit c then tell do
      let (numeral, _) ← readNumeral (.endsIn .value) false (c :: rest)
      numeral.found
    else .expectedValue
  | [] => .endsIn .value

/-- a text -/
def text (expected : String) : Reader String := fun cs =>
  match skipSpace cs with
  | '"' :: rest => readText rest
  | rest => .error (mismatch expected rest)

/-- a value or null -/
def optional {α : Type} (read : Reader α) : Reader (Option α) := fun cs =>
  match skipSpace cs with
  | 'n' :: rest => do
    let rest ← word ['u', 'l', 'l'] rest
    pure (none, rest)
  | rest => do
    let (a, rest) ← read rest
    pure (some a, rest)

/-! ### lists -/

/-- whether an item follows, and where it starts; otherwise the closing bracket comes next -/
def item (first : Bool) : Reader Bool := fun cs =>
  match skipSpace cs with
  | [] => .error (.endsIn .list)
  | ']' :: rest => .ok (false, ']' :: rest)
  | c :: rest =>
    if first then .ok (true, c :: rest)
    else if c = ',' then
      match skipSpace rest with
      | [] => .error (.endsIn .value)
      | ']' :: _ => .error .trailingComma
      | rest => .ok (true, rest)
    else .error .expectedListEnd

/-- the items up to the closing bracket; every item has a character, so `fuel` may be their number -/
def items {α : Type} (read : Reader α) : Nat → Bool → Reader (List α)
  | 0, _, _ => .error (.endsIn .list)
  | fuel + 1, first, cs => do
    match ← item first cs with
    | (false, rest) => pure ([], rest.drop 1)
    | (true, rest) =>
      let (a, rest) ← read rest
      let (more, rest) ← items read fuel false rest
      pure (a :: more, rest)

/-- a list of any length -/
def list {α : Type} (read : Reader α) : Reader (List α) := fun cs =>
  match skipSpace cs with
  | '[' :: rest => items read (rest.length + 1) true rest
  | rest => .error (mismatch "a sequence" rest)

/-- the next item of a list of fields, if there is one -/
def slot {α : Type} (first : Bool) (read : Reader α) : Reader (Option α) := fun cs => do
  match ← item first cs with
  | (false, rest) => pure (none, rest)
  | (true, rest) =>
    let (a, rest) ← read rest
    pure (some a, rest)

/-- the closing bracket of a list of fields -/
def closeList (cs : List Char) : Except Fault (List Char) :=
  match skipSpace cs with
  | [] => .error (.endsIn .list)
  | ']' :: rest => .ok rest
  | ',' :: rest =>
    match skipSpace rest with
    | ']' :: _ => .error .trailingComma
    | _ => .error .trailingCharacters
  | _ => .error .trailingCharacters

/-! ### objects -/

/-- the key of the next member, if there is one; otherwise the closing brace comes next -/
def key (first : Bool) : Reader (Option String) := fun cs =>
  match skipSpace cs with
  | [] => .error (.endsIn .object)
  | '\x7d' :: rest => .ok (none, '\x7d' :: rest)
  | c :: rest =>
    if first then
      if c = '"' then do
        let (name, rest) ← readText rest
        pure (some name, rest)
      else .error .keyNotText
    else if c = ',' then
      match skipSpace rest with
      | [] => .error (.endsIn .value)
      | '"' :: rest => do
        let (name, rest) ← readText rest
        pure (some name, rest)
      | '\x7d' :: _ => .error .trailingComma
      | _ => .error .keyNotText
    else .error .expectedObjectEnd

/-- the members before the closing brace, taken into `draft` one by one; every member has a character,
so `fuel` may be their number.  `member` starts behind the key. -/
def members {σ : Type} (member : σ → String → Reader σ) : Nat → Bool → σ → Reader σ
  | 0, _, _, _ => .error (.endsIn .object)
  | fuel + 1, first, draft, cs => do
    match ← key first cs with
    | (none, rest) => pure (draft, rest)
    | (some name, rest) =>
      let (draft, rest) ← member draft name rest
      members member fuel false draft rest

/-- the value of a member, behind its key -/
def valueOf {α : Type} (read : Reader α) : Reader α := fun cs => do read (← colon cs)

/-- a member without a meaning, behind its key -/
def ignore {σ : Type} (draft : σ) : Reader σ := fun cs => do
  let rest ← skipValue (← colon cs)
  pure (draft, rest)

/-- the value of a field that must not come twice -/
def once {α : Type} (name : String) (before : Option α) (read : Reader α) : Reader α := fun cs =>
  if before.isSome then .error (.duplicateField name) else valueOf read cs

/-- an object with any members -/
def object {σ : Type} (member : σ → String → Reader σ) (start : σ) : Reader σ := fun cs =>
  match skipSpace cs with
  | '\x7b' :: rest => do
    let (draft, rest) ← members member (rest.length + 1) true start rest
    pure (draft, rest.drop 1)
  | rest => .error (mismatch "a map" rest)

/-- fields as an object, or as a list of their values; `finish` completes the draft of an object -/
def fields {σ α : Type} (expected : String) (member : σ → String → Reader σ) (start : σ)
    (finish : σ → Except Fault α) (ofList : Reader α) : Reader α := fun cs =>
  match skipSpace cs with
  | '\x7b' :: rest => do
    let (draft, rest) ← members member (rest.length + 1) true start rest
    let a ← finish draft
    pure (a, rest.drop 1)
  | '[' :: rest => do
    let (a, rest) ← ofList rest
    let rest ← closeList rest
    pure (a, rest)
  | rest => .error (mismatch expected rest)

/-- a text that names a variant, or an object with the name for a key and null for a value -/
def variant {α : Type} (named : String → Except Fault α) : Reader α := fun cs =>
  match skipSpace cs with
  | [] => .error (.endsIn .value)
  | '"' :: rest => do
    let (name, rest) ← readText rest
    let a ← named name
    pure (a, rest)
  | '\x7b' :: rest => do
    let (name, rest) ← text "variant identifier" rest
    let a ← named name
    let rest ← colon rest
    let rest ← unit rest
    match skipSpace rest with
    | [] => .error (.endsIn .object)
    | '\x7d' :: rest => pure (a, rest)
    | _ => .error .expectedValue
  | _ => .error .expectedValue
where
  /-- null, which is all that a variant holds -/
  unit (cs : List Char) : Except Fault (List Char) :=
    match skipSpace cs with
    | 'n' :: rest => word ['u', 'l', 'l'] rest
    | rest => .error (mismatch "unit" rest)

/-- a text that holds one value and nothing else -/
def whole {α : Type} (read : Reader α) (text : String) : Except Fault α := do
  let (a, rest) ← read text.toList
  match skipSpace rest with
  | [] => pure a
  | _ => .error .trailingCharacters

end MessageFlow.Json
