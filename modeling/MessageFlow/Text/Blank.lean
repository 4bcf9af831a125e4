/-!
# Blank text

`isBlank` is the class of white space characters of the Unicode standard (`White_Space`),
twenty-five characters in all.  `trim` drops them from both ends of a text; a text of nothing else
is `blank`.
-/

namespace MessageFlow.Text

/-- the characters with the property `White_Space` -/
def isBlank (c : Char) : Bool :=
  let n := c.toNat
  (9 ≤ n && n ≤ 13) || n == 0x20 || n == 0x85 || n == 0xA0 || n == 0x1680
    || (0x2000 ≤ n && n ≤ 0x200A) || n == 0x2028 || n == 0x2029 || n == 0x202F || n == 0x205F
    || n == 0x3000

/-- no character but white space -/
def blank (text : String) : Bool := text.toList.all isBlank

/-- the text without the white space at both ends -/
def trim (text : String) : String :=
  .ofList ((text.toList.dropWhile isBlank).reverse.dropWhile isBlank).reverse

theorem isBlank_of_isWhitespace (c : Char) (h : c.isWhitespace = true) : isBlank c = true := by
  simp only [Char.isWhitespace, Bool.or_eq_true, decide_eq_true_eq] at h
  rcases h with ((rfl | rfl) | rfl) | rfl <;> rfl

end MessageFlow.Text
