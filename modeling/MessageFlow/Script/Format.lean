import MessageFlow.Power
import MessageFlow.Text.Utf8

/-!
# What scripts write

The escapes that `echo` and `printf` carry out, and the formats of `printf`.
-/

namespace MessageFlow.Script

open Text (Bytes utf8)

/-- the octal digits at the start of a text, three at most -/
def octalDigits (cs : List Char) : List Char := (cs.take 3).takeWhile fun c => '0' ≤ c && c ≤ '7'

def ofOctal (digits : List Char) : Nat := digits.foldl (fun n c => n * 8 + (c.toNat - 48)) 0

def escapes : List (Char × UInt8) :=
  [('a', 7), ('b', 8), ('f', 12), ('n', 10), ('r', 13), ('t', 9), ('v', 11), ('\\', 92)]

/-- a text with its escapes carried out, and whether `\c` ends the output; `zero` says whether three
octal digits may follow a zero -/
def unescape (fuel : Nat) (zero : Bool) (cs : List Char) : Bytes × Bool :=
  match fuel, cs with
  | 0, _ => ([], false)
  | _, [] => ([], false)
  | fuel + 1, '\\' :: c :: rest =>
    if c = 'c' then ([], true)
    else
      let (bytes, rest) := match escapes.lookup c with
        | some b => ([b], rest)
        | none =>
          let text := if zero ∧ c = '0' then rest else c :: rest
          let digits := octalDigits text
          if c ≠ '0' ∧ digits = [] then (utf8 (.ofList ['\\', c]), rest)
          else ([UInt8.ofNat (ofOctal digits)], text.drop digits.length)
      let (more, ended) := unescape fuel zero rest
      (bytes ++ more, ended)
  | fuel + 1, c :: rest =>
    let (more, ended) := unescape fuel zero rest
    (String.utf8EncodeChar c ++ more, ended)

def echo (arguments : List Bytes) : Bytes :=
  let (quiet, arguments) := match arguments with
    | a :: rest => if a = utf8 "-n" then (true, rest) else (false, a :: rest)
    | [] => (false, [])
  let text := Text.ofUtf8Lossy (arguments.intersperse [0x20]).flatten
  if text.contains '\\' then
    let (bytes, ended) := unescape (text.length + 1) true text.toList
    bytes ++ if quiet || ended then [] else [0x0A]
  else (arguments.intersperse [0x20]).flatten ++ if quiet then [] else [0x0A]

/-! ### formats -/

/-- how a value is laid out -/
structure Layout where
  left : Bool
  plus : Bool
  blank : Bool
  alternate : Bool
  zero : Bool
  width : Nat
  precision : Option Nat

/-- what a format has written, the arguments that are left, the messages, and whether it is ended -/
structure Printing where
  output : Bytes
  arguments : List Bytes
  messages : List String
  /-- one if an argument was no number, two if the format is at fault -/
  status : Nat
  ended : Bool

/-- puts blanks or zeros beside a text; the sign stays in front of zeros -/
def Layout.pad (l : Layout) (zeros : Bool) (sign body : String) : Bytes :=
  let missing := l.width - (sign.length + body.length)
  let fill := fun (c : Char) => String.ofList (List.replicate missing c)
  utf8 (if l.left then sign ++ body ++ fill ' '
    else if zeros then sign ++ fill '0' ++ body
    else fill ' ' ++ sign ++ body)

/-- the number that a text starts with, and whether all of it was read -/
def numeral (text : String) : Int × Bool :=
  match text.toList with
  | [] => (0, true)
  | '"' :: cs => ((cs.head?.map (·.toNat)).getD 0, true)
  | '\'' :: cs => ((cs.head?.map (·.toNat)).getD 0, true)
  | cs =>
    let cs := cs.dropWhile fun c => " \t\n".contains c
    let (negative, cs) := match cs with
      | '-' :: cs => (true, cs)
      | '+' :: cs => (false, cs)
      | cs => (false, cs)
    let (base, cs) := match cs with
      | '0' :: 'x' :: cs => (16, cs)
      | '0' :: 'X' :: cs => (16, cs)
      | '0' :: cs => (8, '0' :: cs)
      | cs => (10, cs)
    let value := fun (c : Char) =>
      if c.isDigit then c.toNat - '0'.toNat
      else if c.isAlpha then c.toLower.toNat - 'a'.toNat + 10 else 99
    let digits := cs.takeWhile fun c => value c < base
    let n : Nat := digits.foldl (fun n c => n * base + value c) 0
    (if negative then -(n : Int) else n, digits ≠ [] && digits.length = cs.length)

/-- the letters of a number in some base -/
def digitsIn (base n : Nat) (capital : Bool) : String :=
  let text := String.ofList (Nat.toDigits base n)
  if capital then text.map Char.toUpper else text

/-- lays a number out -/
def Layout.number (l : Layout) (c : Char) (n : Int) : Bytes :=
  let unsigned := (n.emod (2 ^ 64)).toNat
  let (sign, digits, mark) :=
    if c = 'd' ∨ c = 'i' then
      (if n < 0 then "-" else if l.plus then "+" else if l.blank then " " else "",
        digitsIn 10 n.natAbs false, "")
    else if c = 'o' then
      let digits := digitsIn 8 unsigned false
      ("", if l.alternate ∧ ¬ digits.startsWith "0" then "0" ++ digits else digits, "")
    else if c = 'x' ∨ c = 'X' then
      ("", digitsIn 16 unsigned (c = 'X'),
        if l.alternate ∧ unsigned ≠ 0 then (if c = 'x' then "0x" else "0X") else "")
    else ("", digitsIn 10 unsigned false, "")
  let digits := match l.precision with
    | some p =>
      if p = 0 ∧ n = 0 then ""
      else String.ofList (List.replicate (p - digits.length) '0') ++ digits
    | none => digits
  l.pad (l.zero ∧ l.precision.isNone) (sign ++ mark) digits

/-- lays bytes out -/
def Layout.text (l : Layout) (bytes : Bytes) : Bytes :=
  let body := match l.precision with
    | some p => bytes.take p
    | none => bytes
  let fill := List.replicate (l.width - body.length) 0x20
  if l.left then body ++ fill else fill ++ body

/-- the flags of a conversion -/
def readFlags (l : Layout) : List Char → Layout × List Char
  | [] => (l, [])
  | c :: cs =>
    match c with
    | '-' => readFlags { l with left := true } cs
    | '+' => readFlags { l with plus := true } cs
    | ' ' => readFlags { l with blank := true } cs
    | '#' => readFlags { l with alternate := true } cs
    | '0' => readFlags { l with zero := true } cs
    | _ => (l, c :: cs)

/-- a number of a conversion, which may be an argument -/
def readSize (arguments : List Bytes) (cs : List Char) : Option Int × List Bytes × List Char :=
  match cs with
  | '*' :: cs =>
    (some (numeral (Text.ofUtf8Lossy (arguments.headD []))).1, arguments.tail, cs)
  | _ =>
    let digits := cs.takeWhile Char.isDigit
    ((String.ofList digits).toNat?.map (fun n => (n : Int)), arguments, cs.drop digits.length)

/-- carries one conversion out -/
def convert (p : Printing) (cs : List Char) : Printing × List Char :=
  let (l, cs) := readFlags ⟨false, false, false, false, false, 0, none⟩ cs
  let (width, arguments, cs) := readSize p.arguments cs
  let l := match width with
    | some n => { l with width := n.natAbs, left := l.left || decide (n < 0) }
    | none => l
  let (precision, arguments, cs) := match cs with
    | '.' :: cs =>
      let (n, arguments, cs) := readSize arguments cs
      (some (n.getD 0).toNat, arguments, cs)
    | cs => (none, arguments, cs)
  let l := { l with precision := precision }
  let argument := arguments.headD []
  let text := Text.ofUtf8Lossy argument
  match cs with
  | [] =>
    let messages := p.messages ++ ["missing format character"]
    ({ p with messages := messages, status := 2, ended := true }, [])
  | c :: rest =>
    if "diouxX".contains c then
      let (n, whole) := numeral text
      let messages := if whole then [] else
        [text ++ (if n = 0 then ": expected numeric value" else ": not completely converted")]
      ({ p with
        output := p.output ++ l.number c n, arguments := arguments.tail
        messages := p.messages ++ messages, status := if whole then p.status else 1 }, rest)
    else if c = 's' then
      ({ p with output := p.output ++ l.text argument, arguments := arguments.tail }, rest)
    else if c = 'c' then
      ({ p with output := p.output ++ l.text (argument.take 1), arguments := arguments.tail }, rest)
    else if c = 'b' then
      let (bytes, ended) := unescape (text.length + 1) true text.toList
      let bytes := if text.contains '\\' then bytes else argument
      let output := p.output ++ l.text bytes
      ({ p with output := output, arguments := arguments.tail, ended := ended }, rest)
    else
      let message := "%" ++ String.ofList [c] ++ ": invalid directive"
      ({ p with messages := p.messages ++ [message], status := 2, ended := true }, rest)

/-- writes a format once -/
def format (fuel : Nat) (p : Printing) (cs : List Char) : Printing :=
  match fuel, cs with
  | 0, _ => p
  | _, [] => p
  | fuel + 1, '%' :: '%' :: rest => format fuel { p with output := p.output ++ [0x25] } rest
  | fuel + 1, '%' :: rest =>
    let (p, rest) := convert p rest
    if p.ended then p else format fuel p rest
  | fuel + 1, '\\' :: c :: rest =>
    let used := max 1 (octalDigits (c :: rest)).length
    let (bytes, ended) := unescape 1 false ('\\' :: (c :: rest).take used)
    let p := { p with output := p.output ++ bytes, ended := ended }
    if ended then p else format fuel p ((c :: rest).drop used)
  | fuel + 1, c :: rest =>
    format fuel { p with output := p.output ++ String.utf8EncodeChar c } rest

/-- writes a format as often as there are arguments for it -/
def printf (fuel : Nat) (cs : List Char) (p : Printing) : Printing :=
  match fuel with
  | 0 => p
  | fuel + 1 =>
    let q := format (cs.length + 1) p cs
    if q.ended ∨ q.arguments = [] ∨ q.arguments.length = p.arguments.length then q
    else printf fuel cs q

end MessageFlow.Script
