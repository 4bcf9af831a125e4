/-!
# Escapes

Free text gets into a diagram in two ways: between double quotes, and as the text of a table cell.
`quoted` and `html` spell it so that it stays where it is put.  A carriage return is left out
between quotes, and every other character can be read back.
-/

namespace MessageFlow.Escape

def quotedChar (c : Char) : List Char :=
  match c with
  | '\\' => ['\\', '\\']
  | '"' => ['\\', '"']
  | '\n' => ['\\', 'n']
  | '\r' => []
  | c => [c]

def htmlChar (c : Char) : List Char :=
  match c with
  | '&' => ['&', 'a', 'm', 'p', ';']
  | '<' => ['&', 'l', 't', ';']
  | '>' => ['&', 'g', 't', ';']
  | '"' => ['&', 'q', 'u', 'o', 't', ';']
  | c => [c]

/-- the text as it stands between double quotes -/
def quoted (text : String) : String := .ofList (text.toList.flatMap quotedChar)

/-- the text as it stands in a table cell -/
def html (text : String) : String := .ofList (text.toList.flatMap htmlChar)

end MessageFlow.Escape
