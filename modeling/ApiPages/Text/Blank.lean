import ApiPages.Text.List

/-!
# Blank characters — the property `White_Space`

Three readers ask three different questions about blanks. Names, comments
and descriptions are trimmed by the Unicode property (`isBlank`); Markdown
structure knows the six ASCII blanks (`isSpace`) and, for indentation, only
space and tab (`isIndent`).
-/

namespace ApiPages.Text

/-- The Unicode property `White_Space`. -/
def isBlank (c : Char) : Bool :=
  let n := c.toNat
  (9 ≤ n && n ≤ 13) || n == 0x20 || n == 0x85 || n == 0xA0 || n == 0x1680
    || (0x2000 ≤ n && n ≤ 0x200A) || n == 0x2028 || n == 0x2029 || n == 0x202F
    || n == 0x205F || n == 0x3000

/-- The ASCII blanks: space, tab, line feed, vertical tab, form feed and
carriage return. -/
def isSpace (c : Char) : Bool :=
  let n := c.toNat
  (9 ≤ n && n ≤ 13) || n == 0x20

/-- Space or tab. -/
def isIndent (c : Char) : Bool := c == ' ' || c == '\t'

/-- Line feed or carriage return. -/
def isLineEnd (c : Char) : Bool := c == '\n' || c == '\r'

/-- Every blank of ASCII is a blank. -/
theorem isBlank_of_isSpace {c : Char} (h : isSpace c = true) : isBlank c = true := by
  simp only [isSpace, isBlank, Bool.or_eq_true, Bool.and_eq_true, decide_eq_true_eq,
    beq_iff_eq] at h ⊢
  omega

/-- The text without the blanks around it. -/
def trim (s : String) : String := String.ofList (trimWhile isBlank s.toList)

/-- Whether nothing but blanks stands in the text. -/
def isBlankText (s : String) : Bool := s.toList.all isBlank

/-- The text's words, as its blanks separate them. -/
def words (cs : List Char) : List (List Char) :=
  go cs []
where
  /-- Walks the text with the letters of the current word in reverse. -/
  go : List Char → List Char → List (List Char)
    | [], [] => []
    | [], w => [w.reverse]
    | c :: cs, w =>
      if isBlank c then
        if w.isEmpty then go cs [] else w.reverse :: go cs []
      else go cs (c :: w)

end ApiPages.Text
