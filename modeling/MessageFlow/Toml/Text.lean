import MessageFlow.Toml.Lexical

/-!
# Texts in a settings file

A text stands between double quotes, with escapes, or between single quotes, where every character
stands for itself.  Three quotes in place of one begin a text of several lines; its first line end
does not count, and up to two quotes may stand right before the three that end it.
-/

namespace MessageFlow.Toml

def hexDigit? (c : Char) : Option Nat :=
  if '0' ≤ c ∧ c ≤ '9' then some (c.toNat - '0'.toNat)
  else if 'a' ≤ c ∧ c ≤ 'f' then some (c.toNat - 'a'.toNat + 10)
  else if 'A' ≤ c ∧ c ≤ 'F' then some (c.toNat - 'A'.toNat + 10)
  else none

/-- a character by its number in `count` hexadecimal digits -/
def readCode (count : Nat) : Reader Char := fun cs => do
  let digits ← (cs.take count).mapM hexDigit?
  let n := digits.foldl (fun n d => n * 16 + d) 0
  if digits.length = count ∧ n.isValidChar then some (Char.ofNat n, cs.drop count) else none

/-- the character of an escape, after the backslash -/
def readEscape : Reader Char
  | 'b' :: cs => some ('\x08', cs)
  | 't' :: cs => some ('\t', cs)
  | 'n' :: cs => some ('\n', cs)
  | 'f' :: cs => some ('\x0c', cs)
  | 'r' :: cs => some ('\r', cs)
  | '"' :: cs => some ('"', cs)
  | '\\' :: cs => some ('\\', cs)
  | 'u' :: cs => readCode 4 cs
  | 'U' :: cs => readCode 8 cs
  | _ => none

/-- the characters up to the closing quote; each takes a character, so `fuel` may be their number -/
def readChars (quote : Char) : Nat → Reader (List Char)
  | 0, _ => none
  | _, [] => none
  | fuel + 1, c :: cs =>
    if c = quote then some ([], cs)
    else do
      let (c, rest) ←
        if c = '\\' ∧ quote = '"' then readEscape cs
        else if isPlain c then some (c, cs) else none
      let (more, rest) ← readChars quote fuel rest
      pure (c :: more, rest)

/-- a line end that a backslash takes away, with all white space up to the next text -/
def joinLines (cs : List Char) : Option (List Char) := do
  pure (skipLines (← newline (skipSpace cs)))

/-- the characters up to the three closing quotes -/
def readLines (quote : Char) : Nat → Reader (List Char)
  | 0, _ => none
  | _, [] => none
  | fuel + 1, c :: cs =>
    if c = quote then
      let run := ((c :: cs).takeWhile (· == quote)).length
      if 3 ≤ run then
        let kept := min (run - 3) 2
        some (List.replicate kept quote, (c :: cs).drop (kept + 3))
      else do
        let (more, rest) ← readLines quote fuel cs
        pure (c :: more, rest)
    else
      match if c = '\\' ∧ quote = '"' then joinLines cs else none with
      | some rest => readLines quote fuel rest
      | none => do
        let (c, rest) ← match newline (c :: cs) with
          | some rest => some ('\n', rest)
          | none =>
            if c = '\\' ∧ quote = '"' then readEscape cs
            else if isPlain c then some (c, cs) else none
        let (more, rest) ← readLines quote fuel rest
        pure (c :: more, rest)

/-- a text of one line, from its opening quote on -/
def readLine : Reader String
  | [] => none
  | quote :: cs =>
    if quote = '"' ∨ quote = '\'' then do
      let (chars, rest) ← readChars quote cs.length cs
      pure (.ofList chars, rest)
    else none

/-- a text, from its opening quote on -/
def readText : Reader String := fun cs =>
  match cs with
  | a :: b :: c :: rest =>
    if a = b ∧ b = c ∧ (a = '"' ∨ a = '\'') then do
      let rest := (newline rest).getD rest
      let (chars, rest) ← readLines a rest.length rest
      pure (.ofList chars, rest)
    else readLine cs
  | _ => readLine cs

end MessageFlow.Toml
