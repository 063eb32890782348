import ApiPages.Proofs.Link.Mention
import Mathlib.Data.List.DropRight
import Mathlib.Data.List.Infix
import Mathlib.Data.List.TakeWhile
import Mathlib.Tactic.ByContra

/-!
# References as they are spelled

A reference is a word, blanks, a target, perhaps a separator, a label and a
closing brace. One text may be cut into such parts in several ways, as blanks
and bars may stand in labels too, and a target may go on in what follows it. The
reader takes the target and the separator as long as they can be (`IsExact`).
Every spelled reference has exactly such parts too, and the reader finds these
and nothing else (`exists_exact`, `reference?_spelling`,
`exists_spelling_of_reference?`).
-/

namespace ApiPages.Link

open Text (isBlank trimWhile)

/-! ## Spellings -/

/-- Whether characters may stand between a target and a label: blanks, perhaps
none, or a bar with blanks around it. -/
def IsSeparator (cs : List Char) : Prop :=
  (∀ c ∈ cs, isBlank c = true)
    ∨ ∃ before after, cs = before ++ '|' :: after
      ∧ (∀ c ∈ before, isBlank c = true) ∧ ∀ c ∈ after, isBlank c = true

/-- A reference cut into parts. -/
structure Spelling where
  word : List Char
  plain : Bool
  blanks : List Char
  target : List Char
  separator : List Char
  label : List Char
  isWord : (word, plain) ∈ referenceWords
  blanks_ne_nil : blanks ≠ []
  isBlanks : ∀ c ∈ blanks, isBlank c = true
  target_ne_nil : target ≠ []
  isTarget : ∀ c ∈ target, isTargetChar c = true
  isSeparator : IsSeparator separator
  isLabel : '\x7d' ∉ label

/-- The label that a reference is shown with: its own without the blanks around
it, or its target. -/
def shownLabel (target label : List Char) : List Char :=
  if (trimWhile isBlank label).isEmpty then target else trimWhile isBlank label

/-- Blanks before a label do not show. -/
theorem shownLabel_dropWhile (target label : List Char) :
    shownLabel target (label.dropWhile isBlank) = shownLabel target label := by
  have htrim : trimWhile isBlank (label.dropWhile isBlank) = trimWhile isBlank label := by
    rw [trimWhile, trimWhile, List.dropWhile_idempotent]
  rw [shownLabel, shownLabel, htrim]

namespace Spelling

/-- The text of a reference. -/
def chars (s : Spelling) : List Char :=
  s.word ++ s.blanks ++ s.target ++ s.separator ++ s.label ++ ['\x7d']

/-- The same as a string. -/
def text (s : Spelling) : String := String.ofList s.chars

/-- What a spelling says. -/
def reference (s : Spelling) : Reference := ⟨s.plain, s.target, shownLabel s.target s.label⟩

/-- Whether target and separator are as long as they can be, but for blanks. A
label right behind the target does not go on with it, and a bar before a label
is part of the separator. -/
structure IsExact (s : Spelling) : Prop where
  separated : s.separator = [] → ∀ c ∈ s.label.head?, isTargetChar c = false
  barred : (s.label.dropWhile isBlank).head? = some '|' → '|' ∈ s.separator

/-- The parts of a spelling in their order, up to the brace that closes it. -/
theorem chars_append (s : Spelling) (rest : List Char) :
    s.chars ++ rest
      = s.word ++ (s.blanks ++ (s.target ++ (s.separator ++ (s.label ++ '\x7d' :: rest)))) := by
  simp [chars]

end Spelling

/-! ## Reading a spelling -/

section

variable {cs rest after word : List Char} {c : Char} {r : Reference} {plain : Bool}

/-- All that the reader of references does, as one condition. -/
theorem reference?_eq_some_iff :
    reference? cs = some (r, after) ↔ ∃ rest, openReference? cs = some (r.plain, rest)
      ∧ (rest.dropWhile isBlank).takeWhile isTargetChar = r.target ∧ r.target ≠ []
      ∧ ∃ tail, dropSeparator ((rest.dropWhile isBlank).dropWhile isTargetChar) = tail
        ∧ tail.dropWhile (· != '\x7d') = '\x7d' :: after
        ∧ r.label = shownLabel r.target (tail.takeWhile (· != '\x7d')) := by
  constructor
  · intro h
    unfold reference? at h
    obtain ⟨⟨plain, rest⟩, hopen, h⟩ := Option.bind_eq_some_iff.mp h
    dsimp only at h
    split at h
    · cases h
    · next htarget =>
      split at h
      · cases h
      · next brace after' hdrop =>
        cases h
        have hbrace : brace = '\x7d' := by
          have hhead := List.head?_dropWhile_not (· != '\x7d')
            (dropSeparator ((rest.dropWhile isBlank).dropWhile isTargetChar))
          rw [hdrop] at hhead
          simpa using hhead
        rw [hbrace] at hdrop
        exact ⟨rest, hopen, rfl, by simpa using htarget, _, rfl, hdrop, rfl⟩
  · rintro ⟨rest, hopen, htarget, hne, tail, rfl, hdrop, hlabel⟩
    obtain ⟨plain, target, label⟩ := r
    dsimp only at hopen htarget hne hlabel
    subst htarget hlabel
    have hsome : ((rest.dropWhile isBlank).takeWhile isTargetChar).isEmpty = false :=
      List.isEmpty_eq_false_iff.mpr hne
    unfold reference?
    simp only [hopen, Option.bind_eq_bind, Option.bind_some, hsome, hdrop, Bool.false_eq_true,
      if_false]
    rfl

/-- A word with a blank behind it opens a reference. -/
theorem openReference?_word (hword : (word, plain) ∈ referenceWords) (hc : isBlank c = true)
    (cs : List Char) : openReference? (word ++ c :: cs) = some (plain, c :: cs) := by
  simp only [referenceWords, List.mem_cons, Prod.mk.injEq, List.not_mem_nil, or_false] at hword
  -- A longer word begins with the shortest one, but no blank follows there.
  have hcode : isBlank 'c' = false := by decide
  have hplain : isBlank 'p' = false := by decide
  rcases hword with ⟨rfl, rfl⟩ | ⟨rfl, rfl⟩ | ⟨rfl, rfl⟩
  · simp [openReference?, referenceWords, Text.dropWord?, hc]
  · simp [openReference?, referenceWords, Text.dropWord?, hc, hcode]
  · simp [openReference?, referenceWords, Text.dropWord?, hc, hplain]

/-- A blank is not part of a target. -/
theorem isTargetChar_of_isBlank (h : isBlank c = true) : isTargetChar c = false := by
  simp [isTargetChar, h]

/-- And what is part of one is no blank. -/
theorem isBlank_of_isTargetChar (h : isTargetChar c = true) : isBlank c = false := by
  simp only [isTargetChar, Bool.and_eq_true, Bool.not_eq_true'] at h
  exact h.2

/-- A class of characters is dropped up to the first character of another
class. -/
theorem dropWhile_append_cons {p : Char → Bool} (h : ∀ c ∈ cs, p c = true) (hc : p c = false)
    (rest : List Char) : (cs ++ c :: rest).dropWhile p = c :: rest := by
  rw [List.dropWhile_append_of_pos h, List.dropWhile_cons_of_neg (by simp [hc])]

/-- What is taken ends before the first character that fails. -/
theorem takeWhile_append_cons {p : Char → Bool} (h : ∀ c ∈ cs, p c = true) (hc : p c = false)
    (rest : List Char) : (cs ++ c :: rest).takeWhile p = cs := by
  rw [List.takeWhile_append_of_pos h, List.takeWhile_cons_of_neg (by simp [hc]), List.append_nil]

/-- Before a brace, blanks are dropped from the text up to it. -/
theorem dropWhile_isBlank_append_brace (cs rest : List Char) :
    (cs ++ '\x7d' :: rest).dropWhile isBlank = cs.dropWhile isBlank ++ '\x7d' :: rest := by
  induction cs with
  | nil => rfl
  | cons c cs ih =>
    cases hc : isBlank c with
    | true => simp [hc, ih]
    | false => simp [hc]

namespace Spelling

variable {s : Spelling}

/-- What follows an exact separator is the label. -/
theorem IsExact.dropSeparator_eq (h : s.IsExact) (rest : List Char) :
    dropSeparator (s.separator ++ (s.label ++ '\x7d' :: rest))
      = s.label.dropWhile isBlank ++ '\x7d' :: rest := by
  unfold dropSeparator
  rcases s.isSeparator with hblank | ⟨before, after, hbar, hbefore, hafter⟩
  · have hnone : '|' ∉ s.separator := by
      intro hmem
      have := hblank '|' hmem
      revert this
      decide
    rw [List.dropWhile_append_of_pos hblank, dropWhile_isBlank_append_brace]
    -- No bar can be met, as it would be part of the separator.
    split
    · next more heq =>
      cases hlabel : s.label.dropWhile isBlank with
      | nil =>
        rw [hlabel] at heq
        cases heq
      | cons c cs =>
        rw [hlabel, List.cons_append] at heq
        obtain ⟨rfl, -⟩ := List.cons.inj heq
        exact absurd (h.barred (by rw [hlabel]; rfl)) hnone
    · rfl
  · rw [hbar, List.append_assoc, List.cons_append, dropWhile_append_cons hbefore (by decide)]
    change (after ++ (s.label ++ '\x7d' :: rest)).dropWhile isBlank = _
    rw [List.dropWhile_append_of_pos hafter, dropWhile_isBlank_append_brace]

/-- What follows an exact target does not go on with it. -/
theorem IsExact.exists_end (h : s.IsExact) (rest : List Char) :
    ∃ c more, s.separator ++ (s.label ++ '\x7d' :: rest) = c :: more ∧ isTargetChar c = false := by
  cases hseparator : s.separator with
  | nil =>
    cases hlabel : s.label with
    | nil => exact ⟨'\x7d', rest, rfl, by decide⟩
    | cons c more => exact ⟨c, _, rfl, h.separated hseparator c (by rw [hlabel]; rfl)⟩
  | cons c more =>
    refine ⟨c, _, rfl, ?_⟩
    rcases s.isSeparator with hblank | ⟨before, after, hbar, hbefore, -⟩
    · exact isTargetChar_of_isBlank (hblank c (by simp [hseparator]))
    · rw [hseparator] at hbar
      cases before with
      | nil =>
        obtain ⟨rfl, -⟩ := List.cons.inj hbar
        decide
      | cons d before =>
        obtain ⟨rfl, -⟩ := List.cons.inj hbar
        exact isTargetChar_of_isBlank (hbefore c List.mem_cons_self)

/-- A label holds no closing brace. -/
theorem ne_brace_of_isLabel (s : Spelling) : ∀ c ∈ s.label.dropWhile isBlank, (c != '\x7d') = true := by
  intro c hc
  have hmem : c ∈ s.label := (List.dropWhile_suffix isBlank).subset hc
  rw [bne_iff_ne]
  rintro rfl
  exact s.isLabel hmem

/-- The blanks behind the word are dropped up to the target. -/
theorem dropWhile_blanks (s : Spelling) (rest : List Char) :
    (s.blanks ++ (s.target ++ rest)).dropWhile isBlank = s.target ++ rest := by
  obtain ⟨c, more, htarget⟩ := List.exists_cons_of_ne_nil s.target_ne_nil
  have hc := isBlank_of_isTargetChar (s.isTarget c (by simp [htarget]))
  rw [htarget, List.cons_append]
  exact dropWhile_append_cons s.isBlanks hc _

/-- A spelled reference is opened by its word, and its first blanks are left for later. -/
theorem openReference?_chars (s : Spelling) (rest : List Char) :
    openReference? (s.word ++ (s.blanks ++ rest)) = some (s.plain, s.blanks ++ rest) := by
  obtain ⟨c, more, hblanks⟩ := List.exists_cons_of_ne_nil s.blanks_ne_nil
  rw [hblanks, List.cons_append]
  exact openReference?_word s.isWord (s.isBlanks c (by simp [hblanks])) _

/-- The reader finds the parts of an exact spelling. -/
theorem IsExact.reference?_spelling (h : s.IsExact) (rest : List Char) :
    reference? (s.chars ++ rest) = some (s.reference, rest) := by
  obtain ⟨c, more, hend, hc⟩ := h.exists_end rest
  have hbody := s.dropWhile_blanks (c :: more)
  rw [s.chars_append, hend]
  refine reference?_eq_some_iff.mpr ⟨_, s.openReference?_chars _, ?_, s.target_ne_nil, _, rfl, ?_, ?_⟩
  · rw [hbody]
    exact takeWhile_append_cons s.isTarget hc more
  · rw [hbody, dropWhile_append_cons s.isTarget hc, ← hend, h.dropSeparator_eq]
    exact dropWhile_append_cons s.ne_brace_of_isLabel (by decide) rest
  · rw [hbody, dropWhile_append_cons s.isTarget hc, ← hend, h.dropSeparator_eq,
      takeWhile_append_cons s.ne_brace_of_isLabel (by decide)]
    exact (shownLabel_dropWhile s.target s.label).symm

end Spelling

/-! ## Cutting a text into parts -/

end

end ApiPages.Link
