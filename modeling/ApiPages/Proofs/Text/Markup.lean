import ApiPages.Text.Markup

/-!
# Characters that make markup

Angle brackets and double quotes decide where the tags and the attributes
of a page begin and end. A value that a template escapes adds none of them, and
escaped text no brackets.
-/

namespace ApiPages.Text

/-- Whether a character begins or ends a tag or an attribute's value. -/
def isMarkup (c : Char) : Bool := c == '<' || c == '>' || c == '"'

/-- The characters of a text that make markup, in order. -/
def markup (s : String) : List Char := s.toList.filter isMarkup

/-- The markup of texts is put together with them. -/
theorem markup_append (s t : String) : markup (s ++ t) = markup s ++ markup t := by
  rw [markup, String.toList_append, List.filter_append]
  rfl

/-- An escaped value has no markup. -/
theorem filter_isMarkup_valueChar (c : Char) : (valueChar c).filter isMarkup = [] := by
  by_cases hreplaced : c ∈ ['\'', '\x60', '=', '"', '&', '<', '>']
  · simp only [List.mem_cons, List.not_mem_nil, or_false] at hreplaced
    rcases hreplaced with rfl | rfl | rfl | rfl | rfl | rfl | rfl <;> decide
  · simp only [List.mem_cons, List.not_mem_nil, or_false, not_or] at hreplaced
    simp [valueChar, markdownChar, textChar, isMarkup, hreplaced]

/-- An escaped value makes no markup. -/
theorem markup_escapeValue (s : String) : markup (escapeValue s) = [] := by
  rw [markup, escapeValue, replaceChars, String.toList_ofList, List.filter_flatMap]
  exact List.flatMap_eq_nil_iff.mpr fun c _ => filter_isMarkup_valueChar c

/-- Whether a character begins or ends a tag. -/
def isBracket (c : Char) : Bool := c == '<' || c == '>'

/-- Escaped text has no angle brackets. -/
theorem filter_isBracket_textChar (c : Char) : (textChar c).filter isBracket = [] := by
  by_cases hreplaced : c ∈ ['&', '<', '>']
  · simp only [List.mem_cons, List.not_mem_nil, or_false] at hreplaced
    rcases hreplaced with rfl | rfl | rfl <;> decide
  · simp only [List.mem_cons, List.not_mem_nil, or_false, not_or] at hreplaced
    simp [textChar, isBracket, hreplaced]

/-- Escaped text has no brackets. -/
theorem isBracket_of_mem_textChar {c x : Char} (h : x ∈ textChar c) : isBracket x = false :=
  Bool.eq_false_iff.mpr (List.filter_eq_nil_iff.mp (filter_isBracket_textChar c) x h)

end ApiPages.Text
