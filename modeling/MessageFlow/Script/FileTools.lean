import MessageFlow.Script.Tool

/-!
# Tools for files

The tools that make, move, copy and take away files and directories.
-/

namespace MessageFlow.Script

open Text (Bytes utf8)

/-- the place of a path whose last name is not followed -/
def tipPlace (s : State) (path : String) : Except FileFault Place := do
  match ← s.tree.tip s.base path with
  | .named directory name _ =>
    match s.tree.find? (directory ++ [name]) with
    | some _ => pure (directory ++ [name])
    | none => .error .notFound
  | .special place => pure place

def mkdir : Tool := fun s _ args =>
  let o := options ['m'] args
  s.forEach o.rest fun s path =>
    let make := fun (s : State) (path : String) => do
      pure { s with tree := ← s.tree.makeDirectory s.base path }
    let complaint := fun (path : String) (fault : FileFault) =>
      "mkdir: cannot create directory " ++ quoted path ++ ": " ++ faultText fault
    if o.has 'p' then
      (Path.ancestors path).reverse.foldlM (fun s p =>
        if s.tree.kind s.base p matches .ok .directory then pure s
        else (make s p).mapError (complaint p)) s
    else (make s path).mapError (complaint path)

def rmdir : Tool := fun s _ args =>
  s.forEach (options [] args).rest fun s path =>
    let failed := fun (text : String) => "rmdir: failed to remove " ++ quoted path ++ ": " ++ text
    match tipPlace s path with
    | .error fault => .error (failed (faultText fault))
    | .ok place =>
      match s.tree.find? place with
      | some .directory =>
        if (s.tree.children place).isEmpty then .ok { s with tree := s.tree.erase place }
        else .error (failed "Directory not empty")
      | _ => .error (failed "Not a directory")

def rm : Tool := fun s _ args =>
  let o := options [] args
  let deep := o.has 'r' || o.has 'R'
  s.forEach o.rest fun s path =>
    let failed := fun (text : String) => "rm: cannot remove " ++ quoted path ++ ": " ++ text
    match tipPlace s path with
    | .error fault => if o.has 'f' then .ok s else .error (failed (faultText fault))
    | .ok place =>
      match s.tree.find? place with
      | some .directory =>
        if !deep then .error (failed (faultText .isADirectory))
        else .ok { s with tree := s.tree.removeAll place }
      | _ => .ok { s with tree := s.tree.erase place }

/-- the entries at a place and below it, under another place -/
def moved (t : FileTree) (source target : Place) : List (Place × Entry) :=
  t.entries.filterMap fun (p, e) =>
    if source.isPrefixOf p then some (target ++ p.drop source.length, e) else none

/-- the path that a file gets: inside the target if that is a directory -/
def landing (s : State) (source target : String) : String :=
  if s.tree.kind s.base target matches .ok .directory then
    Path.join target ((Path.fileName? source).getD source)
  else target

/-- moves or copies files; `place` finds what is moved, and `keep` says that it stays -/
def transfer (tool : String) (keep : Bool) : Tool := fun s _ args =>
  let o := options [] args
  match o.rest.getLast? with
  | none => { s.complain (tool ++ ": missing file operand") with status := 1 }
  | some target =>
    s.forEach o.rest.dropLast fun s path =>
      let found := if keep then s.tree.follow s.base path else tipPlace s path
      let entry := found.toOption.bind s.tree.find?
      match found, entry with
      | .error fault, _ =>
        .error (tool ++ ": cannot stat " ++ quoted path ++ ": " ++ faultText fault)
      | _, none => .error (tool ++ ": cannot stat " ++ quoted path ++ ": " ++ faultText .notFound)
      | .ok source, some e =>
        let goal := landing s path target
        let failed := fun (fault : FileFault) =>
          (if keep then tool ++ ": cannot create regular file " ++ quoted goal
            else tool ++ ": cannot move " ++ quoted path ++ " to " ++ quoted goal) ++
            ": " ++ faultText fault
        match e, keep with
        | .file content executable, true => do
          let place ← (s.tree.writePlace FileTree.linkLimit s.base goal).mapError failed
          if place = source then
            .error (tool ++ ": " ++ quoted path ++ " and " ++ quoted goal ++ " are the same file")
          else
            match s.tree.find? place with
            | some (.file _ _) => pure { s with tree := s.tree.put place content }
            | _ => pure { s with tree := s.tree.set place (.file content executable) }
        | .directory, true =>
          if !(o.has 'r' || o.has 'R' || o.has 'a') then
            .error (tool ++ ": -r not specified; omitting directory " ++ quoted path)
          else do
            let place ← (s.tree.writePlace FileTree.linkLimit s.base goal).mapError failed
            let copies := moved s.tree source place
            pure { s with tree := copies.foldl (fun t (p, e) => t.set p e) s.tree }
        | _, _ =>
          match s.tree.tip s.base goal with
          | .error fault => .error (failed fault)
          | .ok (.special _) => .error (failed .busy)
          | .ok (.named directory name _) =>
            let place := directory ++ [name]
            if place = source then
              .error (tool ++ ": " ++ quoted path ++ " and " ++ quoted goal ++ " are the same file")
            else .ok { s with
              tree := (moved s.tree source place).foldl (fun t (p, e) => t.set p e)
                (s.tree.removeAll source) }

/-- makes a link, or a copy where a second name of the same file is asked for -/
def ln : Tool := fun s line args =>
  let o := options [] args
  if !o.has 's' then transfer "ln" true s line args
  else
    match o.rest with
    | [target, path] =>
      let goal := landing s target path
      s.forEach [goal] fun s path =>
        let failed := fun (fault : FileFault) =>
          "ln: failed to create symbolic link " ++ quoted path ++ ": " ++ faultText fault
        match s.tree.tip s.base path with
        | .ok (.named directory name _) =>
          let place := directory ++ [name]
          if (s.tree.find? place).isSome && !o.has 'f' then .error (failed .alreadyExists)
          else .ok { s with tree := s.tree.set place (.link target) }
        | .ok (.special _) => .error (failed .alreadyExists)
        | .error fault => .error (failed fault)
    | _ => { s.complain "ln: missing file operand" with status := 1 }

/-- makes empty files where there are none -/
def touch : Tool := fun s _ args =>
  s.forEach (options ['t', 'd', 'r'] args).rest fun s path =>
    if s.tree.kind s.base path matches .ok _ then .ok s
    else
      match s.tree.write s.base path [] with
      | .ok tree => .ok { s with tree := tree }
      | .error fault => .error ("touch: cannot touch " ++ quoted path ++ ": " ++ faultText fault)

/-- whether a file can be run after a change of its mode -/
def modeAllows (before : Bool) (mode : String) : Bool :=
  match mode.toList.getLast? with
  | none => before
  | some c =>
    if c.isDigit then mode.toList.any fun d => d.isDigit && (d.toNat - 48) % 2 = 1
    else if !mode.contains 'x' then before && !mode.contains '='
    else !mode.contains '-'

/-- changes whether files can be run -/
def chmod : Tool := fun s _ args =>
  match args.map Text.ofUtf8Lossy with
  | [] => { s.complain "chmod: missing operand" with status := 1 }
  | mode :: paths =>
    s.forEach paths fun s path =>
      match s.tree.follow s.base path with
      | .error fault => .error ("chmod: cannot access " ++ quoted path ++ ": " ++ faultText fault)
      | .ok place =>
        match s.tree.find? place with
        | some (.file content executable) =>
          .ok { s with tree := s.tree.set place (.file content (modeAllows executable mode)) }
        | some _ => .ok s
        | none => .error ("chmod: cannot access " ++ quoted path ++ ": " ++ faultText .notFound)

/-- writes the names of files, one in a line -/
def ls : Tool := fun s _ args =>
  let o := options [] args
  let names := fun (place : Place) =>
    (if o.has 'a' then [".", ".."] else []) ++
      ((s.tree.children place).filter fun n => o.has 'a' || o.has 'A' || !n.startsWith ".").mergeSort
        fun a b => a ≤ b
  let paths := (if o.rest = [] then ["."] else o.rest).mergeSort fun a b => a ≤ b
  let directory? := fun (path : String) => do
    let place ← (s.tree.follow s.base path).toOption
    if !o.has 'd' && s.tree.find? place matches some .directory then some place else none
  let t := s.forEach paths fun t path =>
    match t.tree.kind t.base path with
    | .ok _ => .ok t
    | .error fault => .error ("ls: cannot access " ++ quoted path ++ ": " ++ faultText fault)
  let files := paths.filter fun path =>
    (directory? path).isNone && (s.tree.kind s.base path matches .ok _)
  let listings := paths.filterMap fun path => (directory? path).map fun place =>
    (if paths.length > 1 then path ++ ":\n" else "") ++ String.join ((names place).map (· ++ "\n"))
  let gap := if files = [] ∨ listings = [] then "" else "\n"
  let t := t.put (utf8 (String.join (files.map (· ++ "\n")) ++ gap ++ "\n".intercalate listings))
  if t.status = 0 then t else t.ended 2

end MessageFlow.Script
