import Mathlib.Data.List.Basic
import MessageFlow.Diagram.Escape

/-!
# Reading escapes back

`unquote` undoes the escapes of a quoted string and `entities` those of a table cell.  Both give the
text back (`unquote_flatMap_quotedChar`, `entities_flatMap_htmlChar`), but for the carriage returns,
which are left out between quotes.
-/

namespace MessageFlow.Escape

/-! ### between quotes -/

theorem toList_quoted (t : String) : (quoted t).toList = t.toList.flatMap quotedChar := by
  rw [quoted, String.toList_ofList]

/-- what is left of a text between quotes -/
def withoutReturns (text : String) : String := .ofList (text.toList.filter (· ≠ '\r'))

/-- what a character means after a backslash -/
def meaning? (c : Char) : Option Char :=
  if c = '\\' then some '\\' else if c = '"' then some '"' else if c = 'n' then some '\n' else none

/-- undoes the escapes of a quoted string, if it has no others than those of `quotedChar` -/
def unquote : List Char → Option (List Char)
  | [] => some []
  | c :: cs =>
    if c = '\\' then
      match cs with
      | [] => none
      | d :: ds => (meaning? d).bind fun e => (unquote ds).map (e :: ·)
    else (unquote cs).map (c :: ·)

theorem unquote_escape {c d : Char} (h : meaning? d = some c) (cs : List Char) :
    unquote ('\\' :: d :: cs) = (unquote cs).map (c :: ·) := by
  conv_lhs => unfold unquote
  rw [if_pos rfl]
  simp only [h, Option.bind_some]

theorem unquote_cons {c : Char} (hc : c ≠ '\\') (cs : List Char) :
    unquote (c :: cs) = (unquote cs).map (c :: ·) := by
  conv_lhs => unfold unquote
  rw [if_neg hc]

/-- a character is left out, spelled with a backslash, or stands for itself -/
theorem quotedChar_cases (c : Char) :
    (c = '\r' ∧ quotedChar c = []) ∨ (∃ d, quotedChar c = ['\\', d] ∧ meaning? d = some c ∧ c ≠ '\r')
      ∨ (quotedChar c = [c] ∧ c ≠ '\\' ∧ c ≠ '"' ∧ c ≠ '\n' ∧ c ≠ '\r') := by
  unfold quotedChar
  split
  · exact .inr (.inl ⟨'\\', rfl, by decide, by decide⟩)
  · exact .inr (.inl ⟨'"', rfl, by decide, by decide⟩)
  · exact .inr (.inl ⟨'n', rfl, by decide, by decide⟩)
  · exact .inl ⟨rfl, rfl⟩
  · next h1 h2 h3 h4 => exact .inr (.inr ⟨rfl, h1, h2, h3, h4⟩)

theorem unquote_flatMap_quotedChar (cs : List Char) :
    unquote (cs.flatMap quotedChar) = some (cs.filter (· ≠ '\r')) := by
  induction cs with
  | nil => rfl
  | cons c cs ih =>
    rw [List.flatMap_cons]
    obtain ⟨rfl, h1⟩ | ⟨d, h1, h2, hc⟩ | ⟨h1, h2, -, -, hc⟩ := quotedChar_cases c
    · rw [h1, List.nil_append, ih, List.filter_cons_of_neg (by decide)]
    · rw [h1, List.filter_cons_of_pos (by simpa using hc), List.cons_append, List.singleton_append,
        unquote_escape h2, ih, Option.map_some]
    · rw [h1, List.filter_cons_of_pos (by simpa using hc), List.singleton_append, unquote_cons h2,
        ih, Option.map_some]

/-! ### in a table cell -/

theorem toList_html (t : String) : (html t).toList = t.toList.flatMap htmlChar := by
  rw [html, String.toList_ofList]

/-- undoes the escapes of a table cell, if it has no others than those of `htmlChar` -/
def entities : List Char → Option (List Char)
  | [] => some []
  | '&' :: 'a' :: 'm' :: 'p' :: ';' :: cs => (entities cs).map ('&' :: ·)
  | '&' :: 'l' :: 't' :: ';' :: cs => (entities cs).map ('<' :: ·)
  | '&' :: 'g' :: 't' :: ';' :: cs => (entities cs).map ('>' :: ·)
  | '&' :: 'q' :: 'u' :: 'o' :: 't' :: ';' :: cs => (entities cs).map ('"' :: ·)
  | c :: cs => if c = '&' then none else (entities cs).map (c :: ·)

theorem entities_htmlChar (c : Char) (cs : List Char) :
    entities (htmlChar c ++ cs) = (entities cs).map (c :: ·) := by
  unfold htmlChar
  split
  case h_5 hc _ _ _ =>
    rw [List.singleton_append, entities, if_neg hc] <;> exact fun _ h => absurd h hc
  all_goals simp only [List.cons_append, List.nil_append, entities]

theorem entities_flatMap_htmlChar (cs : List Char) : entities (cs.flatMap htmlChar) = some cs := by
  induction cs with
  | nil => rfl
  | cons c cs ih => rw [List.flatMap_cons, entities_htmlChar, ih, Option.map_some]

theorem htmlChar_ne (c : Char) : ∀ d ∈ htmlChar c, d ≠ '<' ∧ d ≠ '>' ∧ d ≠ '"' := by
  unfold htmlChar
  split
  case h_5 _ h1 h2 h3 =>
    intro d hd
    obtain rfl := List.mem_singleton.mp hd
    exact ⟨h1, h2, h3⟩
  all_goals simp

/-- no delimiter of a table is left in a cell -/
theorem flatMap_htmlChar_ne (cs : List Char) :
    ∀ d ∈ cs.flatMap htmlChar, d ≠ '<' ∧ d ≠ '>' ∧ d ≠ '"' := by
  intro d hd
  obtain ⟨c, -, h1⟩ := List.mem_flatMap.mp hd
  exact htmlChar_ne c d h1

end MessageFlow.Escape
