import ApiPages.Text.Blank
import ApiPages.Proofs.Text.Bytes
import ApiPages.Proofs.Text.Occurrence
import Mathlib.Data.List.TakeWhile

/-!
# First words

Every text is blank or has a first word, with blanks before it and a blank or
nothing behind it (`FirstWord`). The word is the first of the text's words, and as
none of its characters is blank, the place where it stands is also the first one
where it occurs: looking it up gives the text before it, however often it comes
again (`FirstWord.cutAt?_eq`).
-/

namespace ApiPages.Text

/-- A text with its first word apart: the blanks before it, and what follows. -/
structure FirstWord (cs before word after : List Char) : Prop where
  text_eq : cs = before ++ word ++ after
  blank_before : ∀ c ∈ before, isBlank c = true
  not_blank : ∀ c ∈ word, isBlank c = false
  ne_nil : word ≠ []
  blank_after : ∀ c ∈ after.head?, isBlank c = true

variable {cs before word after : List Char}

/-- A text of blanks has no words, and any other text has a first one. -/
theorem blank_or_firstWord (cs : List Char) :
    (∀ c ∈ cs, isBlank c = true) ∨ ∃ before word after, FirstWord cs before word after := by
  have hcut : cs.takeWhile isBlank ++ cs.dropWhile isBlank = cs := List.takeWhile_append_dropWhile
  cases hrest : cs.dropWhile isBlank with
  | nil => exact Or.inl (List.dropWhile_eq_nil_iff.mp hrest)
  | cons c more =>
    have hc : isBlank c = false := by
      have hhead := List.head?_dropWhile_not isBlank cs
      rw [hrest] at hhead
      exact hhead
    let inWord (c : Char) : Bool := !isBlank c
    refine Or.inr ⟨cs.takeWhile isBlank, (c :: more).takeWhile inWord, (c :: more).dropWhile inWord,
      ?_, fun d hd => List.mem_takeWhile_imp hd, fun d hd => ?_, ?_, fun d hd => ?_⟩
    · rw [List.append_assoc, List.takeWhile_append_dropWhile, ← hrest, hcut]
    · simpa [inWord] using List.mem_takeWhile_imp hd
    · simp [inWord, hc]
    · have hhead := List.head?_dropWhile_not inWord (c :: more)
      rw [Option.mem_def.mp hd] at hhead
      simpa [inWord] using hhead

/-! ## Among the words -/

/-- A blank text has no words. -/
theorem words_of_blank (h : ∀ c ∈ cs, isBlank c = true) : words cs = [] := by
  have hgo : words.go cs [] = [] := by
    induction cs with
    | nil => rfl
    | cons c cs ih =>
      rw [words.go, if_pos (h c List.mem_cons_self)]
      exact ih fun d hd => h d (List.mem_cons_of_mem c hd)
  exact hgo

/-- Blanks in front of a word are passed over. -/
theorem go_blanks (h : ∀ c ∈ before, isBlank c = true) (cs : List Char) :
    words.go (before ++ cs) [] = words.go cs [] := by
  induction before with
  | nil => rfl
  | cons c before ih =>
    rw [List.cons_append, words.go, if_pos (h c List.mem_cons_self)]
    exact ih fun d hd => h d (List.mem_cons_of_mem c hd)

/-- A word is gathered, in reverse, as long as there is no blank. -/
theorem go_word (h : ∀ c ∈ word, isBlank c = false) (cs read : List Char) :
    words.go (word ++ cs) read = words.go cs (word.reverse ++ read) := by
  induction word generalizing read with
  | nil => rfl
  | cons c word ih =>
    have hc : ¬isBlank c = true := by simp [h c List.mem_cons_self]
    rw [List.cons_append, words.go, if_neg hc, ih fun d hd => h d (List.mem_cons_of_mem c hd)]
    simp

/-- It ends at a blank or where the text does. -/
theorem head?_go {read : List Char} (h : read ≠ []) (hafter : ∀ c ∈ after.head?, isBlank c = true) :
    (words.go after read).head? = some read.reverse := by
  obtain ⟨r, more, rfl⟩ := List.exists_cons_of_ne_nil h
  cases after with
  | nil => rfl
  | cons c after =>
    rw [words.go, if_pos (hafter c rfl)]
    rfl

/-- The first word is the first of all words. -/
theorem FirstWord.head?_words (h : FirstWord cs before word after) :
    (words cs).head? = some word := by
  have hread : word.reverse ≠ [] := by simpa using h.ne_nil
  rw [h.text_eq, words, List.append_assoc, go_blanks h.blank_before, go_word h.not_blank,
    List.append_nil, head?_go hread h.blank_after, List.reverse_reverse]

/-! ## Where it stands -/

/-- Cutting at the first word leaves what stands around it. -/
theorem FirstWord.cutAt?_eq (h : FirstWord cs before word after) :
    cutAt? word cs = some (before, after) := by
  rw [h.text_eq]
  refine cutAt?_append h.ne_nil fun c hc hhead => ?_
  -- A blank begins no word.
  have hblank := h.blank_before c hc
  rw [h.not_blank c (List.mem_of_mem_head? hhead)] at hblank
  cases hblank

/-- So its place is behind what stands before it, in bytes. -/
theorem FirstWord.byteIndex?_eq (h : FirstWord cs before word after) :
    byteIndex? word cs = some (byteLength before) := by
  rw [byteIndex?, h.cutAt?_eq]
  rfl

/-- Behind its first word a text can be cut. -/
theorem FirstWord.fromByte_eq (h : FirstWord cs before word after) :
    fromByte (byteLength before + byteLength word) cs = .ok after :=
  fromByte_eq_ok_iff.mpr ⟨before ++ word, h.text_eq, byteLength_append before word⟩

end ApiPages.Text
