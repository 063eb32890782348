import ApiPages.Markdown.Render
import Mathlib.Data.List.Chain

/-!
# Tags of paragraphs

The tags of the paragraphs in a text of HTML, in order (`tagsIn`), alternate when
paragraphs neither nest nor stay open (`Alternating`). A tag begins with an angle
bracket and has no other one of that kind, so tags are neither made nor lost
where a text is cut before such a bracket, or anywhere but between two characters
that are neighbours in a tag (`tagsIn_append`). Between the two tags around an
alternating list stands nothing, or another paragraph
(`Alternating.eq_nil_of_not_mem`).
-/

namespace ApiPages.Markdown

/-- Where a paragraph begins, or where it ends. -/
inductive ParagraphTag where
  | opening | closing
  deriving DecidableEq, Repr

/-- How a tag is written. -/
def ParagraphTag.text : ParagraphTag → List Char
  | .opening => ['<', 'p', '>']
  | .closing => ['<', '/', 'p', '>']

/-- The tag of a paragraph that a text starts with. -/
def tagAt? (cs : List Char) : Option ParagraphTag :=
  if ParagraphTag.opening.text <+: cs then some .opening
  else if ParagraphTag.closing.text <+: cs then some .closing
  else none

/-- The tags of paragraphs in a text, wherever they start. -/
def tagsIn : List Char → List ParagraphTag
  | [] => []
  | c :: cs => (tagAt? (c :: cs)).toList ++ tagsIn cs

/-- Whether no two neighbouring tags are the same, the first one begins a
paragraph, and the last one ends one. -/
structure Alternating (tags : List ParagraphTag) : Prop where
  strict : tags.IsChain (· ≠ ·)
  first : ∀ t ∈ tags.head?, t = .opening
  last : ∀ t ∈ tags.getLast?, t = .closing

/-! ## Alternation -/

section Alternation

variable {ts us : List ParagraphTag}

/-- The empty list of tags alternates. -/
theorem alternating_nil : Alternating [] := ⟨.nil, nofun, nofun⟩

/-- So does that of one paragraph. -/
theorem alternating_paragraph : Alternating [.opening, .closing] :=
  ⟨by decide, by decide, by decide⟩

/-- One paragraph after the other. -/
theorem Alternating.append (ht : Alternating ts) (hu : Alternating us) :
    Alternating (ts ++ us) where
  strict := List.isChain_append.mpr ⟨ht.strict, hu.strict, fun t hlast u hfirst => by
    rw [ht.last t hlast, hu.first u hfirst]
    decide⟩
  first t h := by
    cases ts with
    | nil => exact hu.first t h
    | cons u ts => exact ht.first t h
  last t h := by
    rw [List.getLast?_append] at h
    cases hlast : us.getLast? with
    | none => exact ht.last t (by simpa [hlast] using h)
    | some u => exact hu.last t (by simpa [hlast] using h)

/-- A paragraph that ends after everything holds nothing, or another one that
starts in it. -/
theorem Alternating.eq_nil_of_not_mem (h : Alternating (.opening :: (ts ++ [.closing])))
    (hnone : .opening ∉ ts) : ts = [] := by
  match ts, h.strict with
  | [], _ => rfl
  | [.opening], _ => exact absurd List.mem_cons_self hnone
  | .opening :: _ :: _, _ => exact absurd List.mem_cons_self hnone
  | .closing :: .opening :: _, _ => exact absurd (by simp) hnone
  | .closing :: .closing :: _, hstrict =>
    simp at hstrict
  | [.closing], hstrict => simp at hstrict

end Alternation

/-! ## Where tags stand -/

section Places

variable {cs rest : List Char}

/-- Whether two characters are neighbours in a tag of a paragraph. -/
def areNeighbours (x y : Char) : Bool :=
  (x == '<' && (y == 'p' || y == '/')) || (x == '/' && y == 'p') || (x == 'p' && y == '>')

/-- A tag has no bracket of the opening kind but its first character. -/
theorem areNeighbours_bracket (x : Char) : areNeighbours x '<' = false := by
  simp [areNeighbours]

/-- Two characters in a row in a tag are neighbours. -/
theorem areNeighbours_of_text_eq {tag : ParagraphTag} {before after : List Char} {x y : Char}
    (h : tag.text = before ++ x :: y :: after) : areNeighbours x y = true := by
  have hchain : tag.text.IsChain fun x y => areNeighbours x y = true := by
    cases tag <;> decide
  rw [h] at hchain
  exact (List.isChain_append_cons_cons.mp hchain).2.1

/-- What a longer text starts with, the shorter one starts with too, or it
reaches over its end. -/
theorem prefix_append_cases {word : List Char} (h : word <+: cs ++ rest) :
    word <+: cs ∨ ∃ y after, word = cs ++ y :: after ∧ y ∈ rest.head? := by
  rcases List.prefix_or_prefix_of_prefix h (List.prefix_append cs rest) with hshort | ⟨beyond, rfl⟩
  · exact Or.inl hshort
  · cases beyond with
    | nil =>
      rw [List.append_nil]
      exact Or.inl (List.prefix_refl cs)
    | cons y after =>
      obtain ⟨more, hrest⟩ := (List.prefix_append_right_inj cs).mp h
      exact Or.inr ⟨y, after, rfl, by rw [← hrest]; rfl⟩

/-- Whether a tag starts at a text does not depend on what follows, as long as no
tag holds the characters that meet. -/
theorem tagAt?_append (hne : cs ≠ [])
    (h : ∀ x ∈ cs.getLast?, ∀ y ∈ rest.head?, areNeighbours x y = false) :
    tagAt? (cs ++ rest) = tagAt? cs := by
  have hbegins : ∀ tag : ParagraphTag, tag.text <+: cs ++ rest ↔ tag.text <+: cs := by
    refine fun tag => ⟨fun hlong => ?_, fun hshort => hshort.trans (List.prefix_append cs rest)⟩
    rcases prefix_append_cases hlong with hshort | ⟨y, after, hover, hy⟩
    · exact hshort
    · obtain ⟨before, x, rfl⟩ := (List.eq_nil_or_concat' cs).resolve_left hne
      rw [List.append_assoc, List.singleton_append] at hover
      have hapart := h x List.getLast?_concat y hy
      rw [areNeighbours_of_text_eq hover] at hapart
      cases hapart
  rw [tagAt?, tagAt?]
  simp only [hbegins]

/-- Tags are neither made nor lost where a text is cut between two characters
that are not neighbours in a tag. -/
theorem tagsIn_append (h : ∀ x ∈ cs.getLast?, ∀ y ∈ rest.head?, areNeighbours x y = false) :
    tagsIn (cs ++ rest) = tagsIn cs ++ tagsIn rest := by
  induction cs with
  | nil => rfl
  | cons c cs ih =>
    have hfirst : tagAt? (c :: (cs ++ rest)) = tagAt? (c :: cs) :=
      tagAt?_append (List.cons_ne_nil c cs) h
    rw [List.cons_append, tagsIn, tagsIn, hfirst, List.append_assoc]
    cases cs with
    | nil => rfl
    | cons d cs => rw [ih h]

/-- A tag starts with an angle bracket. -/
theorem tagAt?_of_ne {c : Char} (h : c ≠ '<') (cs : List Char) : tagAt? (c :: cs) = none := by
  have hne : '<' ≠ c := h.symm
  simp [tagAt?, ParagraphTag.text, List.cons_prefix_cons, hne]

/-- Where there is no opening angle bracket, no tag starts. -/
theorem tagsIn_append_of_not_mem (h : '<' ∉ cs) (rest : List Char) :
    tagsIn (cs ++ rest) = tagsIn rest := by
  induction cs with
  | nil => rfl
  | cons c cs ih =>
    rw [List.mem_cons, not_or] at h
    rw [List.cons_append, tagsIn, tagAt?_of_ne (Ne.symm h.1), ih h.2]
    rfl

/-- Text without an angle bracket has no tags. -/
theorem tagsIn_of_not_mem (h : '<' ∉ cs) : tagsIn cs = [] := by
  have hnone := tagsIn_append_of_not_mem h []
  rwa [List.append_nil] at hnone

/-- A paragraph opens where the text of its tag stands. -/
theorem tagAt?_eq_opening_iff : tagAt? cs = some .opening ↔ ParagraphTag.opening.text <+: cs := by
  rw [tagAt?]
  split
  · next h => exact iff_of_true rfl h
  · next h =>
    refine iff_of_false ?_ h
    split <;> simp

/-- A paragraph begins in a text exactly when its tag stands there. -/
theorem opening_mem_tagsIn_iff : .opening ∈ tagsIn cs ↔ ParagraphTag.opening.text <:+: cs := by
  induction cs with
  | nil => exact iff_of_false List.not_mem_nil (by decide)
  | cons c cs ih =>
    rw [tagsIn, List.mem_append, Option.mem_toList, tagAt?_eq_opening_iff, ih,
      List.infix_cons_iff]

end Places

end ApiPages.Markdown
