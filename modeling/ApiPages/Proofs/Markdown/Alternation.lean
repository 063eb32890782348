import ApiPages.Markdown.Standard
import ApiPages.Proofs.Markdown.ParagraphTags
import ApiPages.Proofs.Text.Markup

/-!
# Paragraphs of documents

A document writes the tags of a paragraph only around inline content, and inline
content has none of them: what is of the text is escaped, and every other tag is
no tag of a paragraph and goes on beyond none (`Tagless`). So each block writes an
alternating list of tags, however the pieces of it fall into lines (`Emits`), and
so does the document (`alternating_render`). Of a highlighter this asks only that
it writes no paragraphs, as the standard one does (`isTagless_grammarSpan`).
-/

namespace ApiPages.Markdown

variable {cs ds : List Char} {ps qs rs : List Piece} {ts us : List ParagraphTag}
  {highlighter : Option Highlighter}

/-! ## Text without tags of paragraphs -/

/-- Whether no tag starts in a text, whatever follows it. -/
def Tagless (cs : List Char) : Prop := ∀ rest, tagsIn (cs ++ rest) = tagsIn rest

namespace Tagless

/-- Empty text has no tags. -/
theorem nil : Tagless [] := fun _ => rfl

/-- Text without tags is put together freely: none can arise where two parts meet. -/
theorem append (h : Tagless cs) (h' : Tagless ds) : Tagless (cs ++ ds) := by
  intro rest
  rw [List.append_assoc, h, h']

/-- Text without an angle bracket has no tags. -/
theorem of_not_mem (h : '<' ∉ cs) : Tagless cs := tagsIn_append_of_not_mem h

/-- A text without tags may end in anything that no tag goes on behind. -/
theorem of_last (h : tagsIn cs = [] ∧ cs.getLast?.all (· ∉ ['<', '/', 'p']) = true) :
    Tagless cs := by
  obtain ⟨hnone, hlast⟩ := h
  intro rest
  rw [tagsIn_append, hnone, List.nil_append]
  rintro x hx y -
  rw [Option.mem_def.mp hx] at hlast
  simp only [Option.all_some, decide_eq_true_eq, List.mem_cons, List.not_mem_nil, or_false,
    not_or] at hlast
  simp [areNeighbours, hlast]

/-- Tags around a text that are no tags of a paragraph. -/
theorem enclose {opening closing : String} (hopening : Tagless opening.toList) (h : Tagless cs)
    (hclosing : Tagless closing.toList) : Tagless (opening.toList ++ cs ++ closing.toList) :=
  (hopening.append h).append hclosing

end Tagless

/-- An escaped character holds no angle bracket. -/
theorem bracket_not_mem_markdownChar (c : Char) : '<' ∉ Text.markdownChar c := by
  rw [Text.markdownChar]
  split
  · decide
  · exact fun hmem => absurd (Text.isBracket_of_mem_textChar hmem) (by decide)

/-- So escaped text holds none. -/
theorem bracket_not_mem_escaped (chars : List Char) : '<' ∉ Html.escaped chars := by
  rw [Html.escaped, List.mem_flatMap]
  rintro ⟨c, -, hmem⟩
  exact bracket_not_mem_markdownChar c hmem

/-- Nor does an escaped byte. -/
theorem bracket_not_mem_hexByte (b : UInt8) : '<' ∉ Html.hexByte b := by
  have hdigit : ∀ n : Nat, ("0123456789ABCDEF".toList[n]?).getD '0' ≠ '<' := by
    intro n hn
    cases hget : "0123456789ABCDEF".toList[n]? with
    | none =>
      rw [hget] at hn
      exact absurd hn (by decide)
    | some d =>
      rw [hget] at hn
      obtain rfl : d = '<' := hn
      exact absurd (List.mem_of_getElem? hget) (by decide)
  simp only [Html.hexByte, List.mem_cons, List.not_mem_nil, or_false, not_or]
  exact ⟨(hdigit _).symm, (hdigit _).symm⟩

/-- Nor does an address, which keeps only what is safe in one. -/
theorem bracket_not_mem_address (chars : List Char) : '<' ∉ Html.address chars := by
  rw [Html.address]
  split
  · exact List.not_mem_nil
  · rw [List.mem_flatMap]
    rintro ⟨c, -, hmem⟩
    rw [Html.addressChar] at hmem
    split at hmem
    · next hc =>
      obtain rfl := List.mem_singleton.mp hmem
      exact absurd hc (by decide)
    · split at hmem
      · exact absurd hmem (by decide)
      · split at hmem
        · exact absurd hmem (by decide)
        · obtain ⟨b, -, hb⟩ := List.mem_flatMap.mp hmem
          rcases List.mem_cons.mp hb with hpercent | hb
          · exact absurd hpercent (by decide)
          · exact bracket_not_mem_hexByte b hb

/-- Nor does a title. -/
theorem bracket_not_mem_titleAttribute (title : List Char) : '<' ∉ Html.titleAttribute title := by
  rw [Html.titleAttribute]
  split
  · exact List.not_mem_nil
  · simp only [List.mem_append, not_or]
    exact ⟨⟨by decide, bracket_not_mem_escaped title⟩, by decide⟩

mutual

theorem bracket_not_mem_description : ∀ piece, '<' ∉ Html.description piece
  | .text chars | .code chars | .html chars => bracket_not_mem_escaped chars
  | .softBreak | .lineBreak => by decide
  | .emphasis body | .strong body | .strikethrough body | .link _ _ body | .image _ _ body =>
    bracket_not_mem_descriptions body

/-- So the description of an image holds none. -/
theorem bracket_not_mem_descriptions : ∀ pieces, '<' ∉ Html.descriptions pieces
  | [] => List.not_mem_nil
  | piece :: more => by
    rw [Html.descriptions, List.mem_append, not_or]
    exact ⟨bracket_not_mem_description piece, bracket_not_mem_descriptions more⟩

end

/-! ## Inline content -/

theorem tagless_omitted : Tagless Html.omitted.toList := .of_last (by decide)

mutual

theorem tagless_inline : ∀ piece, Tagless (Html.inline piece)
  | .text chars => .of_not_mem (bracket_not_mem_escaped chars)
  | .code chars =>
    .enclose (.of_last (by decide)) (.of_not_mem (bracket_not_mem_escaped chars))
      (.of_last (by decide))
  | .html _ => tagless_omitted
  | .softBreak => .of_not_mem (by decide)
  | .lineBreak => .of_last (by decide)
  | .emphasis body => .enclose (.of_last (by decide)) (tagless_inlines body) (.of_last (by decide))
  | .strong body => .enclose (.of_last (by decide)) (tagless_inlines body) (.of_last (by decide))
  | .strikethrough body =>
    .enclose (.of_last (by decide)) (tagless_inlines body) (.of_last (by decide))
  | .link destination title body => by
    have hopening : Tagless "<a href=\"".toList := .of_last (by decide)
    have hquote : Tagless ['"'] := .of_not_mem (by decide)
    have hend : Tagless ['>'] := .of_not_mem (by decide)
    have hclosing : Tagless "</a>".toList := .of_last (by decide)
    exact (((((hopening.append (.of_not_mem (bracket_not_mem_address destination))).append
      hquote).append (.of_not_mem (bracket_not_mem_titleAttribute title))).append hend).append
      (tagless_inlines body)).append hclosing
  | .image destination title body => by
    have hopening : Tagless "<img src=\"".toList := .of_last (by decide)
    have hdescription : Tagless "\" alt=\"".toList := .of_not_mem (by decide)
    have hquote : Tagless ['"'] := .of_not_mem (by decide)
    have hclosing : Tagless " />".toList := .of_not_mem (by decide)
    exact (((((hopening.append (.of_not_mem (bracket_not_mem_address destination))).append
      hdescription).append (.of_not_mem (bracket_not_mem_descriptions body))).append
      hquote).append (.of_not_mem (bracket_not_mem_titleAttribute title))).append hclosing

/-- What stands in a line has no tags of paragraphs. -/
theorem tagless_inlines : ∀ pieces, Tagless (Html.inlines pieces)
  | [] => .nil
  | piece :: more => (tagless_inline piece).append (tagless_inlines more)

end

/-! ## Code -/

/-- Whether a highlighter writes no tags of paragraphs, however much it marks. -/
def Highlighter.IsTagless (h : Highlighter) : Prop :=
  ∀ language literal, Tagless (h.write language literal)

/-- An escaped character of code holds no angle bracket. -/
theorem bracket_not_mem_codeChar (c : Char) : '<' ∉ Highlighter.codeChar c := by
  rw [Highlighter.codeChar]
  split
  · decide
  · exact bracket_not_mem_markdownChar c

/-- No grammar has a scope that would begin a tag. -/
theorem bracket_not_mem_scopeClasses (language : List Char) :
    '<' ∉ Highlighter.scopeClasses ((Grammar.find? language).getD Grammar.plainText).scope := by
  have hall : ∀ g ∈ Grammar.all, '<' ∉ Highlighter.scopeClasses g.scope := by decide +kernel
  cases hfind : Grammar.find? language with
  | none => decide
  | some g =>
    rw [Grammar.find?, Option.or_eq_some_iff] at hfind
    rcases hfind with hending | ⟨-, hname⟩
    · exact hall g (List.mem_of_find?_eq_some hending)
    · exact hall g (List.mem_of_find?_eq_some hname)

/-- One span around code has no tags of paragraphs. -/
theorem isTagless_grammarSpan : Highlighter.grammarSpan.IsTagless := by
  intro language literal
  have hopening : Tagless "<span class=\"".toList := .of_last (by decide)
  have hend : Tagless "\">".toList := .of_not_mem (by decide)
  have hclosing : Tagless "</span>".toList := .of_last (by decide)
  have hliteral : '<' ∉ literal.flatMap Highlighter.codeChar := by
    rw [List.mem_flatMap]
    rintro ⟨c, -, hmem⟩
    exact bracket_not_mem_codeChar c hmem
  rw [Highlighter.grammarSpan]
  dsimp only
  split
  · exact .nil
  · exact (((hopening.append (.of_not_mem (bracket_not_mem_scopeClasses language))).append
      hend).append (.of_not_mem hliteral)).append hclosing

/-- The class of a language holds no angle bracket. -/
theorem bracket_not_mem_languageClass (language : List Char) :
    '<' ∉ Html.languageClass language := by
  rw [Html.languageClass]
  split
  · exact List.not_mem_nil
  · simp only [List.mem_append, not_or]
    exact ⟨⟨by decide, bracket_not_mem_escaped language⟩, by decide⟩

/-- A code block has no tags of paragraphs when its highlighter writes none. -/
theorem tagless_code (hhighlighter : ∀ h ∈ highlighter, h.IsTagless)
    (info literal : List Char) : Tagless (Html.code highlighter info literal) := by
  have hmath : Tagless "<pre><code class=\"language-math\" data-math-style=\"display\">".toList :=
    .of_last (by decide)
  have hshown : Tagless "<pre class=\"syntax-highlighting\"><code".toList :=
    .of_last (by decide)
  have hplain : Tagless "<pre><code".toList := .of_last (by decide)
  have hend : Tagless ['>'] := .of_not_mem (by decide)
  have hclosing : Tagless "</code></pre>\n".toList := .of_last (by decide)
  have hliteral : Tagless (Html.escaped literal) := .of_not_mem (bracket_not_mem_escaped literal)
  unfold Html.code
  dsimp only
  generalize hinfo : (if highlighter.isSome = true then _ else info) = info
  split
  · exact (hmath.append hliteral).append hclosing
  · split
    · next h =>
      exact (((hshown.append (.of_not_mem (bracket_not_mem_languageClass _))).append hend).append
        (hhighlighter h rfl _ literal)).append hclosing
    · exact (((hplain.append (.of_not_mem (bracket_not_mem_languageClass _))).append hend).append
        hliteral).append hclosing

/-! ## Pieces -/

/-- Whether pieces write some tags, wherever on a line they begin and whatever
follows them. -/
def Emits (ps : List Piece) (ts : List ParagraphTag) : Prop :=
  ∀ atStart, ∃ after, ∀ more,
    tagsIn (Html.joinPieces atStart (ps ++ more)) = ts ++ tagsIn (Html.joinPieces after more)

namespace Emits

theorem nil : Emits [] [] := fun atStart => ⟨atStart, fun _ => rfl⟩

/-- Pieces in a row write the tags of the first and then those of the second. -/
theorem append (h : Emits ps ts) (h' : Emits qs us) : Emits (ps ++ qs) (ts ++ us) := by
  intro atStart
  obtain ⟨between, hfirst⟩ := h atStart
  obtain ⟨after, hsecond⟩ := h' between
  exact ⟨after, fun more => by rw [List.append_assoc, hfirst, hsecond, List.append_assoc]⟩

theorem raw (h : ∀ rest, tagsIn (cs ++ rest) = ts ++ tagsIn rest) : Emits [.raw cs] ts :=
  fun _ => ⟨_, fun _ => h _⟩

theorem freshLine : Emits [.freshLine] [] := by
  have hfeed : Tagless ['\n'] := .of_not_mem (by decide)
  intro atStart
  cases atStart with
  | true => exact ⟨true, fun _ => rfl⟩
  | false => exact ⟨true, fun more => hfeed (Html.joinPieces true more)⟩

theorem cons (h : Tagless cs) (h' : Emits ps ts) : Emits (.raw cs :: ps) ts := by
  have hfirst : Emits [.raw cs] [] := raw h
  exact hfirst.append h'

theorem consLine (h : Emits ps ts) : Emits (.freshLine :: ps) ts := freshLine.append h

/-- A line of its own writes no tags when its text has none. -/
theorem line (h : Tagless cs) : Emits [.freshLine, .raw cs] [] := consLine (cons h nil)

/-- Pieces that write no tags one by one write none together. -/
theorem flatMap {α : Type} {f : α → List Piece} {xs : List α} (h : ∀ x ∈ xs, Emits (f x) []) :
    Emits (xs.flatMap f) [] := by
  induction xs with
  | nil => exact nil
  | cons x xs ih =>
    exact (h x List.mem_cons_self).append (ih fun y hy => h y (List.mem_cons_of_mem x hy))

end Emits

/-! ## Tables -/

/-- A cell writes no tags of paragraphs, whatever stands in it. -/
theorem emits_cell {tag : String} (htag : tag = "td" ∨ tag = "th") (column : Alignment)
    (content : List Inline) : Emits (Html.cell tag column content) [] := by
  have hopening : Tagless ("<" ++ tag ++ Html.alignAttribute column ++ ">").toList := by
    rcases htag with rfl | rfl <;> cases column <;> exact .of_last (by decide)
  have hclosing : Tagless ("</" ++ tag ++ ">").toList := by
    rcases htag with rfl | rfl <;> exact .of_last (by decide)
  exact .consLine (.cons hopening (.cons (tagless_inlines content) (.cons hclosing .nil)))

/-- So a row writes none. -/
theorem emits_row {tag : String} (htag : tag = "td" ∨ tag = "th") (columns : List Alignment)
    (cells : List (List Inline)) : Emits (Html.row tag columns cells) [] := by
  have hopening : Tagless "<tr>".toList := .of_last (by decide)
  have hclosing : Tagless "</tr>".toList := .of_last (by decide)
  have hcells : ∀ cell ∈ columns.zip cells, Emits (Html.cell tag cell.1 cell.2) [] :=
    fun cell _ => emits_cell htag cell.1 cell.2
  exact ((Emits.line hopening).append (.flatMap hcells)).append (.line hclosing)

/-- And so a table writes none. -/
theorem emits_table (columns : List Alignment) (header : List (List Inline))
    (rows : List (List (List Inline))) : Emits (Html.table columns header rows) [] := by
  have htable : Tagless "<table>\n".toList := .of_last (by decide)
  have hhead : Tagless "<thead>\n".toList := .of_last (by decide)
  have hheadEnd : Tagless "</thead>".toList := .of_last (by decide)
  have hbody : Tagless "<tbody>\n".toList := .of_last (by decide)
  have hbodyEnd : Tagless "</tbody>\n".toList := .of_last (by decide)
  have htableEnd : Tagless "</table>\n".toList := .of_last (by decide)
  have hrows : Emits (rows.flatMap (Html.row "td" columns)) [] :=
    .flatMap fun cells _ => emits_row (Or.inl rfl) columns cells
  have hbodies : Emits (if rows.isEmpty then [] else [.freshLine, Html.lit "<tbody>\n"]
      ++ rows.flatMap (Html.row "td" columns) ++ [.freshLine, Html.lit "</tbody>\n"]) [] := by
    split
    · exact .nil
    · exact ((Emits.line hbody).append hrows).append (.line hbodyEnd)
  have hstart : Emits [.freshLine, Html.lit "<table>\n", Html.lit "<thead>\n"] [] :=
    .consLine (.cons htable (.cons hhead .nil))
  exact (((hstart.append (emits_row (Or.inr rfl) columns header)).append
    (.line hheadEnd)).append hbodies).append (.line htableEnd)

/-! ## Blocks -/

/-- A number holds no angle bracket. -/
theorem bracket_not_mem_toString (n : Nat) : '<' ∉ (toString n).toList := by
  intro hmem
  rw [Nat.toString_eq_ofList_toDigits, String.toList_ofList] at hmem
  exact absurd (Nat.isDigit_of_mem_toDigits (by decide) (by decide) hmem) (by decide)

/-- The tags of a list are not those of a paragraph. -/
theorem tagless_listTags (marker : Marker) :
    Tagless (Html.listTags marker).1.toList ∧ Tagless (Html.listTags marker).2.toList := by
  cases marker with
  | bullet mark =>
    have hopening : Tagless "<ul>\n".toList := .of_last (by decide)
    have hclosing : Tagless "</ul>\n".toList := .of_last (by decide)
    exact ⟨hopening, hclosing⟩
  | ordered start mark =>
    have hplain : Tagless "<ol>\n".toList := .of_last (by decide)
    have hstart : Tagless "<ol start=\"".toList := .of_last (by decide)
    have hend : Tagless "\">\n".toList := .of_not_mem (by decide)
    have hclosing : Tagless "</ol>\n".toList := .of_last (by decide)
    refine ⟨?_, hclosing⟩
    dsimp only [Html.listTags]
    split
    · exact hplain
    · rw [String.toList_append, String.toList_append]
      exact (hstart.append (.of_not_mem (bracket_not_mem_toString start))).append hend

/-- Nor are those of an item and its box. -/
theorem tagless_item (task : Option Bool) : Tagless ("<li>" ++ Html.box task).toList := by
  cases task with
  | none => exact .of_last (by decide)
  | some done => cases done <;> exact .of_last (by decide)

/-- A heading writes no tags of paragraphs. -/
theorem emits_heading (level : Nat) (content : List Inline) :
    Emits [.freshLine, Html.lit ("<" ++ ("h" ++ toString level ++ ">")),
      .raw (Html.inlines content), Html.lit ("</" ++ ("h" ++ toString level ++ ">") ++ "\n")]
      [] := by
  have hnumber : '<' ∉ (toString level).toList := bracket_not_mem_toString level
  have hopening : Tagless ("<" ++ ("h" ++ toString level ++ ">")).toList := by
    have hname : Tagless "<h".toList := .of_last (by decide)
    have hend : Tagless ">".toList := .of_not_mem (by decide)
    simp only [String.toList_append, List.append_assoc]
    exact hname.append (.append (.of_not_mem hnumber) hend)
  have hclosing : Tagless ("</" ++ ("h" ++ toString level ++ ">") ++ "\n").toList := by
    have hname : Tagless "</h".toList := .of_last (by decide)
    have hend : Tagless ">\n".toList := .of_not_mem (by decide)
    simp only [String.toList_append, List.append_assoc]
    exact hname.append (.append (.of_not_mem hnumber) hend)
  exact .consLine (.cons hopening (.cons (tagless_inlines content) (.cons hclosing .nil)))

/-- Whether the tags that pieces write alternate. -/
def EmitsParagraphs (ps : List Piece) : Prop := ∃ ts, Alternating ts ∧ Emits ps ts

/-- Paragraphs behind paragraphs alternate. -/
theorem EmitsParagraphs.append (h : EmitsParagraphs ps) (h' : EmitsParagraphs qs) :
    EmitsParagraphs (ps ++ qs) := by
  obtain ⟨ts, hts, hps⟩ := h
  obtain ⟨us, hus, hqs⟩ := h'
  exact ⟨ts ++ us, hts.append hus, hps.append hqs⟩

theorem Emits.emitsParagraphs (h : Emits ps []) : EmitsParagraphs ps := ⟨[], alternating_nil, h⟩

/-- So do paragraphs between pieces that write none. -/
theorem EmitsParagraphs.enclose (h : EmitsParagraphs qs) (hbefore : Emits ps [])
    (hafter : Emits rs []) : EmitsParagraphs (ps ++ qs ++ rs) :=
  (hbefore.emitsParagraphs.append h).append hafter.emitsParagraphs

/-- A paragraph writes its opening and its closing tag. -/
theorem emits_paragraph (content : List Inline) :
    Emits [.freshLine, Html.lit "<p>", .raw (Html.inlines content), Html.lit "</p>\n"]
      [.opening, .closing] := by
  have hopening : Emits [.raw "<p>".toList] [.opening] := .raw fun rest => by
    have htags : tagsIn "<p>".toList = [.opening] := by decide
    rw [tagsIn_append (by rintro _ ⟨⟩ y -; rfl), htags]
  have hclosing : Emits [.raw "</p>\n".toList] [.closing] := .raw fun rest => by
    have htags : tagsIn "</p>\n".toList = [.closing] := by decide
    rw [tagsIn_append (by rintro _ ⟨⟩ y -; rfl), htags]
  exact .consLine (hopening.append (.cons (tagless_inlines content) hclosing))

mutual

theorem emitsParagraphs_block (hhighlighter : ∀ h ∈ highlighter, h.IsTagless) :
    ∀ tight block, EmitsParagraphs (Html.block highlighter tight block)
  | _, .quote inner => by
    have hopening : Tagless "<blockquote>\n".toList := .of_last (by decide)
    have hclosing : Tagless "</blockquote>\n".toList := .of_last (by decide)
    exact (emitsParagraphs_blocks hhighlighter false inner).enclose (.line hopening)
      (.line hclosing)
  | _, .list marker tight items => by
    obtain ⟨hopening, hclosing⟩ := tagless_listTags marker
    exact (emitsParagraphs_blocks hhighlighter tight items).enclose (.line hopening)
      (.cons hclosing .nil)
  | tight, .item task inner => by
    have hclosing : Tagless "</li>\n".toList := .of_last (by decide)
    exact (emitsParagraphs_blocks hhighlighter tight inner).enclose (.line (tagless_item task))
      (.cons hclosing .nil)
  | tight, .paragraph content => by
    cases tight with
    | true =>
      have hcontent : Emits [.raw (Html.inlines content)] [] := .cons (tagless_inlines content) .nil
      exact hcontent.emitsParagraphs
    | false => exact ⟨_, alternating_paragraph, emits_paragraph content⟩
  | _, .heading level content => (emits_heading level content).emitsParagraphs
  | _, .code info literal =>
    (Emits.line (tagless_code hhighlighter info literal)).emitsParagraphs
  | _, .html => (Emits.consLine (.cons tagless_omitted (.consLine .nil))).emitsParagraphs
  | _, .rule => (Emits.line (.of_last (by decide))).emitsParagraphs
  | _, .table columns header rows => (emits_table columns header rows).emitsParagraphs

/-- Blocks write paragraphs one after another, at any depth. -/
theorem emitsParagraphs_blocks (hhighlighter : ∀ h ∈ highlighter, h.IsTagless) :
    ∀ tight blocks, EmitsParagraphs (Html.blocks highlighter tight blocks)
  | _, [] => Emits.nil.emitsParagraphs
  | tight, block :: more =>
    (emitsParagraphs_block hhighlighter tight block).append
      (emitsParagraphs_blocks hhighlighter tight more)

end

/-- The tags of the paragraphs of a document alternate. -/
theorem alternating_document (hhighlighter : ∀ h ∈ highlighter, h.IsTagless)
    (content : List Content) :
    Alternating (tagsIn (Html.document highlighter content)) := by
  obtain ⟨ts, hts, hemits⟩ := emitsParagraphs_blocks hhighlighter false content
  obtain ⟨after, hmore⟩ := hemits true
  have hall : tagsIn (Html.document highlighter content) = ts := by
    have hend := hmore []
    rw [List.append_nil] at hend
    rw [Html.document, hend]
    exact List.append_nil ts
  rw [hall]
  exact hts

/-- Whatever a text is, the tags of the paragraphs in its HTML alternate, as long
as the highlighter writes none of its own. -/
theorem alternating_render (hhighlighter : ∀ h ∈ highlighter, h.IsTagless) (text : String) :
    Alternating (tagsIn (render (.ofHighlighter highlighter) text).toList) := by
  rw [render]
  split
  · exact alternating_nil
  · rw [Engine.ofHighlighter, String.toList_ofList]
    exact alternating_document hhighlighter _

/-- The standard engine writes paragraphs one after the other, with code
highlighted or plain. -/
theorem alternating_standard (highlight : Bool) (text : String) :
    Alternating (tagsIn (render (.standard highlight) text).toList) := by
  refine alternating_render (fun h hmem => ?_) text
  cases highlight with
  | false => cases hmem
  | true =>
    cases hmem
    exact isTagless_grammarSpan

end ApiPages.Markdown
