import ApiPages.Proofs.Markdown.Alternation
import ApiPages.Proofs.Text.Occurrence
import ApiPages.Proofs.Text.Trim

/-!
# Text for a line

HTML that belongs into a line loses the tags of its paragraph when it is one
paragraph and nothing else. All that is looked at is how the HTML begins, how it
ends, and whether another paragraph begins between (`soleParagraph?_eq_some_iff`).
Where the tags of paragraphs alternate, this says that there is no tag at all
between, neither of the two kinds.
-/

namespace ApiPages.Markdown

/-- Whether HTML begins and ends a paragraph around some text, with nothing but
blanks behind it. -/
def Wraps (html inner : List Char) : Prop :=
  ∃ blanks, html = ParagraphTag.opening.text ++ inner ++ ParagraphTag.closing.text ++ blanks
    ∧ ∀ c ∈ blanks, Text.isBlank c = true

variable {html inner : List Char}

/-- What wraps a text is that text between the tags of a paragraph, up to blanks at
the end. -/
theorem wraps_iff :
    Wraps html inner
      ↔ Text.dropEndWhile Text.isBlank html
        = ParagraphTag.opening.text ++ inner ++ ParagraphTag.closing.text := by
  constructor
  · rintro ⟨blanks, rfl, hblanks⟩
    rw [Text.dropEndWhile_append hblanks]
    refine Text.dropEndWhile_eq_self fun c hc => ?_
    rw [List.getLast?_append] at hc
    obtain rfl : '>' = c := Option.some.inj hc
    decide
  · intro h
    obtain ⟨blanks, hcut, hblanks⟩ := Text.exists_eq_dropEndWhile_append Text.isBlank html
    exact ⟨blanks, h ▸ hcut, hblanks⟩

/-- The tags around a text stand before and behind the tags in it. -/
theorem Wraps.tagsIn_eq (h : Wraps html inner) :
    tagsIn html = .opening :: (tagsIn inner ++ [.closing]) := by
  obtain ⟨blanks, rfl, hblanks⟩ := h
  have hnone : '<' ∉ blanks := fun hmem => absurd (hblanks '<' hmem) (by decide)
  have hbefore : ∀ x ∈ inner.getLast?, ∀ y ∈ (ParagraphTag.closing.text ++ blanks).head?,
      areNeighbours x y = false := by
    rintro x - _ ⟨⟩
    exact areNeighbours_bracket x
  have hopening : tagsIn ParagraphTag.opening.text = [.opening] := by decide
  have hclosing : tagsIn ParagraphTag.closing.text = [.closing] := by decide
  rw [List.append_assoc, List.append_assoc, tagsIn_append (by rintro _ ⟨⟩ y -; rfl),
    tagsIn_append hbefore, tagsIn_append (by rintro _ ⟨⟩ y -; rfl), tagsIn_of_not_mem hnone,
    hopening, hclosing]
  rfl

/-- The sole paragraph is what is left when the tags at both ends are taken off,
unless another one starts in there. -/
theorem soleParagraph?_eq (html : List Char) :
    soleParagraph? html
      = (Text.dropWord? ParagraphTag.opening.text (Text.dropEndWhile Text.isBlank html)).bind
        fun rest => (Text.dropWord? ParagraphTag.closing.text.reverse rest.reverse).bind
          fun reversed =>
            if Text.hasWord ParagraphTag.opening.text reversed.reverse then none
            else some reversed.reverse := rfl

/-- What is taken off are the tags around a text in which no other paragraph
begins. -/
theorem soleParagraph?_eq_some_iff :
    soleParagraph? html = some inner ↔ Wraps html inner ∧ .opening ∉ tagsIn inner := by
  rw [wraps_iff, opening_mem_tagsIn_iff, ← Text.hasWord_iff, soleParagraph?_eq]
  simp only [Option.bind_eq_some_iff, Text.dropWord?_eq_some_iff]
  constructor
  · rintro ⟨rest, hrest, reversed, hreversed, hinner⟩
    split at hinner
    · cases hinner
    · next hnone =>
      cases hinner
      refine ⟨?_, hnone⟩
      rw [hrest, ← List.reverse_reverse rest, hreversed, List.reverse_append,
        List.reverse_reverse, List.append_assoc]
  · rintro ⟨htrimmed, hnone⟩
    refine ⟨inner ++ ParagraphTag.closing.text, by rw [htrimmed, List.append_assoc], inner.reverse,
      List.reverse_append, ?_⟩
    rw [List.reverse_reverse, if_neg hnone]

/-- Where tags alternate, a text without a further beginning has no tags. -/
theorem Wraps.opening_not_mem_iff (h : Wraps html inner)
    (halternating : Alternating (tagsIn html)) : .opening ∉ tagsIn inner ↔ tagsIn inner = [] := by
  rw [h.tagsIn_eq] at halternating
  constructor
  · exact halternating.eq_nil_of_not_mem
  · intro hnone
    rw [hnone]
    exact List.not_mem_nil

/-- A sole paragraph is unwrapped. -/
theorem unwrapParagraph_of_wraps {html : String} (h : Wraps html.toList inner)
    (hnone : .opening ∉ tagsIn inner) : unwrapParagraph html = String.ofList inner := by
  rw [unwrapParagraph, soleParagraph?_eq_some_iff.mpr ⟨h, hnone⟩]

/-- Everything else is kept as it is. -/
theorem unwrapParagraph_of_not_wraps {html : String}
    (h : ¬∃ inner, Wraps html.toList inner ∧ .opening ∉ tagsIn inner) :
    unwrapParagraph html = html := by
  have hnone : soleParagraph? html.toList = none :=
    Option.eq_none_iff_forall_ne_some.mpr fun inner hinner =>
      h ⟨inner, soleParagraph?_eq_some_iff.mp hinner⟩
  rw [unwrapParagraph, hnone]

/-- A text wraps one text at most. -/
theorem Wraps.unique {html other : List Char} (h : Wraps html inner) (h' : Wraps html other) :
    inner = other := by
  rw [wraps_iff] at h h'
  exact List.append_cancel_left (List.append_cancel_right (h.symm.trans h'))

/-- A text is shorter than the HTML of a paragraph around it. -/
theorem Wraps.ne {html : String} (h : Wraps html.toList inner) : html ≠ String.ofList inner := by
  obtain ⟨blanks, htext, -⟩ := h
  intro hsame
  have hlength := congrArg List.length htext
  rw [hsame, String.toList_ofList] at hlength
  simp only [List.length_append] at hlength
  have hopening : ParagraphTag.opening.text.length = 3 := by decide
  omega

/-- Where tags alternate, HTML becomes the text in it exactly when it is one
paragraph: another tag between would be kept with those around it. -/
theorem unwrapParagraph_eq_iff {html : String} (h : Alternating (tagsIn html.toList))
    (hwraps : Wraps html.toList inner) :
    unwrapParagraph html = String.ofList inner ↔ tagsIn inner = [] := by
  rw [← hwraps.opening_not_mem_iff h]
  constructor
  · -- Kept as it is, the HTML would be longer than the text in it.
    intro hinner hmem
    refine hwraps.ne ((unwrapParagraph_of_not_wraps ?_).symm.trans hinner)
    rintro ⟨other, hother, hnone⟩
    exact hnone (hwraps.unique hother ▸ hmem)
  · exact unwrapParagraph_of_wraps hwraps

/-- Where paragraphs alternate, HTML that is no sole paragraph is kept. -/
theorem unwrapParagraph_eq_self {html : String} (h : Alternating (tagsIn html.toList))
    (hnone : ¬∃ inner, Wraps html.toList inner ∧ tagsIn inner = []) :
    unwrapParagraph html = html := by
  refine unwrapParagraph_of_not_wraps ?_
  rintro ⟨inner, hwraps, hinner⟩
  exact hnone ⟨inner, hwraps, (hwraps.opening_not_mem_iff h).mp hinner⟩

/-- Where paragraphs alternate, they do so after unwrapping. -/
theorem alternating_unwrapParagraph {html : String} (h : Alternating (tagsIn html.toList)) :
    Alternating (tagsIn (unwrapParagraph html).toList) := by
  by_cases hsole : ∃ inner, Wraps html.toList inner ∧ tagsIn inner = []
  · obtain ⟨inner, hwraps, hinner⟩ := hsole
    rw [(unwrapParagraph_eq_iff h hwraps).mpr hinner, String.toList_ofList, hinner]
    exact alternating_nil
  · rw [unwrapParagraph_eq_self h hsole]
    exact h

/-- Text for a line keeps whole paragraphs. Where the tags of paragraphs alternate
in the HTML of a text, that text loses the tags around it exactly when it is one
paragraph up to the blanks behind it, so that no tag stands between. Any other
HTML is kept as it is, and the tags of what is left alternate again. -/
theorem renderInline_unwraps (engine : Engine) (text : String)
    (h : Alternating (tagsIn (render engine text).toList)) :
    (∀ inner, Wraps (render engine text).toList inner →
      (renderInline engine text = String.ofList inner ↔ tagsIn inner = []))
    ∧ ((¬∃ inner, Wraps (render engine text).toList inner ∧ tagsIn inner = []) →
      renderInline engine text = render engine text)
    ∧ Alternating (tagsIn (renderInline engine text).toList) := by
  rw [renderInline]
  exact ⟨fun _ hwraps => unwrapParagraph_eq_iff h hwraps, unwrapParagraph_eq_self h,
    alternating_unwrapParagraph h⟩

/-- Text with code in it is one paragraph; two paragraphs are kept as they are. -/
theorem renderInline_unwraps_code :
    Alternating (tagsIn (render false "Use `foo`.").toList)
    ∧ renderInline false "Use `foo`." = "Use <code>foo</code>."
    ∧ Alternating (tagsIn (render false "One.\n\nTwo.").toList)
    ∧ renderInline false "One.\n\nTwo." = "<p>One.</p>\n<p>Two.</p>\n" := by
  have hone : render false "Use `foo`." = "<p>Use <code>foo</code>.</p>\n" := by decide +kernel
  have htwo : render false "One.\n\nTwo." = "<p>One.</p>\n<p>Two.</p>\n" := by decide +kernel
  have hcode : Wraps (render false "Use `foo`.").toList "Use <code>foo</code>.".toList := by
    rw [hone]
    exact ⟨['\n'], by decide, List.all_eq_true.mp (by decide)⟩
  have halternating := alternating_standard false "Use `foo`."
  have halternating' := alternating_standard false "One.\n\nTwo."
  refine ⟨halternating, ?_, halternating', ?_⟩
  · have hinner :=
      ((renderInline_unwraps (.standard false) _ halternating).1 _ hcode).mpr (by decide)
    rwa [String.ofList_toList] at hinner
  · refine ((renderInline_unwraps (.standard false) _ halternating').2.1 ?_).trans htwo
    rintro ⟨inner, hwraps, hinner⟩
    have htags := hwraps.tagsIn_eq
    rw [htwo, hinner] at htags
    exact absurd htags (by decide)

/-- The tags of paragraphs in text for a line alternate, whatever that text is. -/
theorem alternating_renderInline (highlight : Bool) (text : String) :
    Alternating (tagsIn (renderInline (.standard highlight) text).toList) :=
  alternating_unwrapParagraph (alternating_standard highlight text)

end ApiPages.Markdown
