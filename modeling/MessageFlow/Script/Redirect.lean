import MessageFlow.Script.Expand

/-!
# Redirections

Where the channels of a command lead.  Redirections are set up from left to right; a file that is
written to is emptied first, unless the output goes behind its content.
-/

namespace MessageFlow.Script

open Text (Bytes utf8)

namespace State

/-- sets a channel to a path for writing, or tells why that cannot be -/
def openToWrite (s : State) (channel : Nat) (behind : Bool) (path : String) : Except String State :=
  match path with
  | "/dev/null" => .ok (s.direct channel .nowhere)
  | "/dev/stdout" => .ok (s.direct channel (s.destination 1))
  | "/dev/stderr" => .ok (s.direct channel (s.destination 2))
  | _ =>
    match s.tree.writePlace FileTree.linkLimit s.base path with
    | .error fault =>
      let text := match fault with
        | .notFound => "Directory nonexistent"
        | _ => faultText fault
      .error ("cannot create " ++ path ++ ": " ++ text)
    | .ok place =>
      let content := match behind, s.tree.find? place with
        | true, some (.file content _) => content
        | _, _ => []
      .ok ({ s with tree := s.tree.put place content }.direct channel (.file place))

/-- takes the input from a path, or tells why that cannot be -/
def openToRead (s : State) (channel : Nat) (path : String) : Except String State :=
  let given := fun bytes => if channel = 0 then { s with input := bytes } else s
  match path with
  | "/dev/null" => .ok (given [])
  | "/dev/stdin" => .ok s
  | _ =>
    match s.tree.read s.base path with
    | .ok content => .ok (given content)
    | .error .isADirectory => .ok (given [])
    | .error fault =>
      let text := match fault with
        | .notFound => "No such file"
        | _ => faultText fault
      .error ("cannot open " ++ path ++ ": " ++ text)

/-- sets one redirection up, or tells why that cannot be -/
def redirect (substitute : Substitute) (line : Nat) (s : State) (r : Redirection) :
    State × Option String :=
  let settled := fun (s : State) (outcome : Except String State) =>
    match outcome with
    | .ok s => (s, none)
    | .error text => (s, some text)
  match r with
  | .write channel behind target =>
    let (s, path) := expandOne substitute line s target
    settled s (s.openToWrite channel behind (Text.ofUtf8Lossy path))
  | .read channel source =>
    let (s, path) := expandOne substitute line s source
    settled s (s.openToRead channel (Text.ofUtf8Lossy path))
  | .here channel text =>
    let (s, bytes) := expandOne substitute line s text
    (if channel = 0 then { s with input := bytes } else s, none)
  | .copy channel other =>
    let (s, word) := expandOne substitute line s other
    match (Text.ofUtf8Lossy word).toNat? with
    | some n =>
      if 2 < n ∧ (s.channels.lookup n).isNone then (s, some (toString n ++ ": Bad file descriptor"))
      else (if channel = 0 then s else s.direct channel (s.destination n), none)
    | none => (if channel = 0 then { s with input := [] } else s.direct channel .nowhere, none)

/-- sets redirections up, as far as that can be -/
def redirectAll (substitute : Substitute) (line : Nat) (s : State) (rs : List Redirection) :
    State × Option String :=
  rs.foldl (fun (s, refusal) r =>
    match refusal with
    | some _ => (s, refusal)
    | none => s.redirect substitute line r) (s, none)

/-- puts the channels back to where they led, and the input if it came from elsewhere -/
def restore (s before : State) (rs : List Redirection) : State :=
  let fed := rs.any fun r => match r with
    | .read 0 _ => true
    | .here 0 _ => true
    | .copy 0 _ => true
    | _ => false
  { s with channels := before.channels, input := if fed then before.input else s.input }

end State

end MessageFlow.Script
