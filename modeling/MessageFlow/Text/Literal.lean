import MessageFlow.Text.Printable

/-!
# Quoted literals

How a message quotes a text that it found: between double quotes, the quote and the backslash behind
a backslash, and what cannot be printed as an escape.
-/

namespace MessageFlow.Text

def literalChar (c : Char) : List Char :=
  match c with
  | '\x00' => ['\\', '0']
  | '\t' => ['\\', 't']
  | '\r' => ['\\', 'r']
  | '\n' => ['\\', 'n']
  | '\\' => ['\\', '\\']
  | '"' => ['\\', '"']
  | c =>
    if isPrintable c then [c]
    else ['\\', 'u', '\x7b'] ++ Nat.toDigits 16 c.toNat ++ ['\x7d']

/-- the text as a message quotes it -/
def literal (text : String) : String :=
  .ofList ('"' :: text.toList.flatMap literalChar ++ ['"'])

end MessageFlow.Text
