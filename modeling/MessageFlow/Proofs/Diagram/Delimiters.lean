import MessageFlow.Proofs.Diagram.Identity

/-!
# Escaped texts end where they are meant to end

Between quotes a text is free of raw line breaks (`quotedChar_ne_break`) and ends at the quote that
was put behind it, whatever follows (`Dot.quotation_flatMap_quotedChar`).  In a table cell a text is
free of the delimiters of tables (`flatMap_htmlChar_ne`), and an ampersand stands there only where an
entity begins (`entity_of_suffix`).  Both spellings can be read back (`escapes_read_back`).
-/

namespace MessageFlow.Escape

/-! ### between quotes -/

/-- no character is spelled with a raw line break -/
theorem quotedChar_ne_break (c : Char) : ∀ d ∈ quotedChar c, d ≠ '\n' ∧ d ≠ '\r' := by
  intro d hd
  obtain ⟨-, h1⟩ | ⟨e, h1, h2, -⟩ | ⟨h1, -, -, hn, hr⟩ := quotedChar_cases c
  · rw [h1] at hd
    exact absurd hd List.not_mem_nil
  · rw [h1, List.mem_pair] at hd
    obtain rfl | rfl := hd
    · decide
    · -- a line break means nothing after a backslash
      refine ⟨?_, ?_⟩ <;> rintro rfl <;> exact absurd h2 (by simp [meaning?])
  · rw [h1, List.mem_singleton] at hd
    exact hd ▸ ⟨hn, hr⟩

theorem quoted_ne_break (t : String) : ∀ d ∈ (quoted t).toList, d ≠ '\n' ∧ d ≠ '\r' := by
  intro d hd
  rw [toList_quoted] at hd
  obtain ⟨c, -, hc⟩ := List.mem_flatMap.mp hd
  exact quotedChar_ne_break c d hc

/-! ### in a table cell -/

/-- what an entity is after its ampersand -/
def entityNames : List String := ["amp;", "lt;", "gt;", "quot;"]

/-- a character is spelled with an entity, or stands for itself and is no ampersand -/
theorem htmlChar_cases (c : Char) :
    (∃ e ∈ entityNames, htmlChar c = '&' :: e.toList) ∨ (htmlChar c = [c] ∧ c ≠ '&') := by
  unfold htmlChar
  split
  · exact .inl ⟨"amp;", by decide, by decide⟩
  · exact .inl ⟨"lt;", by decide, by decide⟩
  · exact .inl ⟨"gt;", by decide, by decide⟩
  · exact .inl ⟨"quot;", by decide, by decide⟩
  · next h _ _ _ => exact .inr ⟨rfl, h⟩

theorem ampersand_notMem_entityNames : ∀ e ∈ entityNames, '&' ∉ e.toList := by decide

/-- what begins with a character that is not in the first part begins in the second -/
theorem suffix_of_suffix_append {x : Char} {cs ds after : List Char} (hx : x ∉ cs)
    (h : x :: after <:+ cs ++ ds) : x :: after <:+ ds := by
  induction cs with
  | nil => exact h
  | cons c cs ih =>
    obtain ⟨hc, hcs⟩ := not_or.mp (mt List.mem_cons.mpr hx)
    rcases List.suffix_cons_iff.mp h with h1 | h1
    · exact absurd (List.cons.inj h1).1 hc
    · exact ih hcs h1

/-- an ampersand begins an entity -/
theorem entity_of_suffix {cs after : List Char} (h : '&' :: after <:+ cs.flatMap htmlChar) :
    ∃ e ∈ entityNames, e.toList <+: after := by
  induction cs with
  | nil => exact absurd (List.suffix_nil.mp h) (List.cons_ne_nil _ _)
  | cons c cs ih =>
    rw [List.flatMap_cons] at h
    obtain ⟨e, he, h1⟩ | ⟨h1, hc⟩ := htmlChar_cases c
    · rw [h1, List.cons_append] at h
      -- the ampersand is that of the entity, or stands behind it, for the entity has no other
      rcases List.suffix_cons_iff.mp h with h2 | h2
      · rw [(List.cons.inj h2).2]
        exact ⟨e, he, List.prefix_append _ _⟩
      · exact ih (suffix_of_suffix_append (ampersand_notMem_entityNames e he) h2)
    · rw [h1] at h
      exact ih (suffix_of_suffix_append (mt List.mem_singleton.mp hc.symm) h)

/-- **Escapes end by themselves and can be read back.**  Whatever follows a text between quotes, the
quotation ends at the quote behind the text; it has no raw line break and says the text without its
carriage returns.  A text in a table cell has none of the delimiters of tables, each of its
ampersands begins an entity, and it says the text. -/
theorem escapes_read_back (t rest : String) :
    Dot.quotation (quoted t ++ "\"" ++ rest).toList = some ((quoted t).toList, rest.toList)
    ∧ '\n' ∉ (quoted t).toList ∧ '\r' ∉ (quoted t).toList
    ∧ unquote (quoted t).toList = some (t.toList.filter (· ≠ '\r'))
    ∧ '<' ∉ (html t).toList ∧ '>' ∉ (html t).toList ∧ '"' ∉ (html t).toList
    ∧ (∀ after, '&' :: after <:+ (html t).toList → ∃ e ∈ entityNames, e.toList <+: after)
    ∧ entities (html t).toList = some t.toList := by
  have hbreak := quoted_ne_break t
  have hdelimiter := flatMap_htmlChar_ne t.toList
  have hquoted : (quoted t ++ "\"" ++ rest).toList =
      t.toList.flatMap quotedChar ++ '"' :: rest.toList := by
    rw [String.toList_append, String.toList_append, List.append_assoc, toList_quoted]
    rfl
  rw [← toList_html] at hdelimiter
  refine ⟨?_, fun h => (hbreak _ h).1 rfl, fun h => (hbreak _ h).2 rfl, ?_,
    fun h => (hdelimiter _ h).1 rfl, fun h => (hdelimiter _ h).2.1 rfl,
    fun h => (hdelimiter _ h).2.2 rfl, fun after h => ?_, ?_⟩
  · rw [hquoted, Dot.quotation_flatMap_quotedChar, toList_quoted]
  · rw [toList_quoted, unquote_flatMap_quotedChar]
  · rw [toList_html] at h
    exact entity_of_suffix h
  · rw [toList_html, entities_flatMap_htmlChar]

/-- a backslash before a quote and at the end, a line break, and what looks like an entity -/
def slashes : String := "\\\"\r\n&lt;\\"

theorem escapes_read_back_slashes :
    Dot.quotation (quoted slashes ++ "\"" ++ "\\\"").toList =
      some ("\\\\\\\"\\n&lt;\\\\".toList, "\\\"".toList)
    ∧ '&' :: "amp;lt;\\".toList <:+ (html slashes).toList
    ∧ ∃ e ∈ entityNames, e.toList <+: "amp;lt;\\".toList := by
  have h1 : quoted slashes = "\\\\\\\"\\n&lt;\\\\" := by decide
  have h2 : '&' :: "amp;lt;\\".toList <:+ (html slashes).toList := by decide
  obtain ⟨hend, -, -, -, -, -, -, hentity, -⟩ := escapes_read_back slashes "\\\""
  rw [h1] at hend ⊢
  exact ⟨hend, h2, hentity _ h2⟩

end MessageFlow.Escape
