import ApiPages.Proofs.Link.Follow
import ApiPages.Proofs.Text.Markup

/-!
# Reading HTML with links

Code on a page is text with anchors around some of its names. `marks` reads it
as a browser does that knows no other tags: an opening tag with its link, a
closing tag, or a character. What HTML says is what is left without the tags,
with entities decoded (`plainText`), and `anchors?` are the links with what they
enclose, when every anchor is closed before the next one begins.

HTML spelled from marks is read back as these marks as long as no character
among them begins a tag and no link ends its own (`marks_flatMap_html`). So
pieces can be put together, each with what it says and what it links
(`Spells.append`).
-/

namespace ApiPages

namespace Text

/-- Characters with the entities that stand for `&`, `<` and `>` decoded. -/
def decodeEntities : List Char → List Char
  | [] => []
  | '&' :: 'a' :: 'm' :: 'p' :: ';' :: more => '&' :: decodeEntities more
  | '&' :: 'l' :: 't' :: ';' :: more => '<' :: decodeEntities more
  | '&' :: 'g' :: 't' :: ';' :: more => '>' :: decodeEntities more
  | c :: more => c :: decodeEntities more

/-- Any character but the entities' own stands for itself. -/
theorem decodeEntities_of_ne {c : Char} (h : c ≠ '&') (more : List Char) :
    decodeEntities (c :: more) = c :: decodeEntities more := by
  rw [decodeEntities] <;> exact fun _ heq => absurd heq h

/-- An escaped character is read back as itself. -/
theorem decodeEntities_textChar (c : Char) (more : List Char) :
    decodeEntities (textChar c ++ more) = c :: decodeEntities more := by
  by_cases hamp : c = '&'
  · subst hamp
    rfl
  by_cases hlt : c = '<'
  · subst hlt
    rfl
  by_cases hgt : c = '>'
  · subst hgt
    rfl
  · have hself : textChar c = [c] := by simp [textChar, hamp, hlt, hgt]
    rw [hself]
    exact decodeEntities_of_ne hamp more

/-- Decoding undoes the escapes of text. -/
theorem decodeEntities_flatMap (cs : List Char) : decodeEntities (cs.flatMap textChar) = cs := by
  induction cs with
  | nil => rfl
  | cons c cs ih => rw [List.flatMap_cons, decodeEntities_textChar, ih]

end Text

namespace Link

/-! ## Marks -/

/-- What a reader of HTML sees: a character, or a tag of an anchor. -/
inductive Mark where
  | char (c : Char)
  | opening (href : String)
  | closing
  deriving DecidableEq, Repr

namespace Mark

/-- A mark as HTML. -/
def html : Mark → List Char
  | char c => [c]
  | opening href => "<a href=\"".toList ++ href.toList ++ "\">".toList
  | closing => "</a>".toList

/-- The character of a mark that is no tag. -/
def char? : Mark → Option Char
  | char c => some c
  | opening _ | closing => none

/-- Whether a mark is no bracket of its own, and its link ends at no quote or
bracket. -/
def IsClean : Mark → Prop
  | char c => Text.isBracket c = false
  | opening href => ∀ c ∈ href.toList, Text.isMarkup c = false
  | closing => True

end Mark

/-- The tag at the start of some HTML, and what follows it. -/
def tag? (cs : List Char) : Option (Mark × List Char) :=
  match Text.dropWord? "</a>".toList cs with
  | some rest => some (.closing, rest)
  | none =>
    (Text.dropWord? "<a href=\"".toList cs).bind fun more =>
      let href := more.takeWhile fun c => !Text.isMarkup c
      (Text.dropWord? "\">".toList (more.drop href.length)).map fun rest =>
        (.opening (String.ofList href), rest)

/-- Reading a tag leaves less text. -/
theorem length_tag? {cs rest : List Char} {m : Mark} (h : tag? cs = some (m, rest)) :
    rest.length < cs.length := by
  unfold tag? at h
  split at h
  · rename_i rest' hclosing
    cases h
    have hword : 0 < "</a>".toList.length := by decide
    rw [Text.eq_append_of_dropWord? hclosing, List.length_append]
    omega
  · obtain ⟨more, hmore, h⟩ := Option.bind_eq_some_iff.mp h
    obtain ⟨rest', hrest, h⟩ := Option.map_eq_some_iff.mp h
    cases h
    have hword : 0 < "<a href=\"".toList.length := by decide
    have hdrop := congrArg List.length (Text.eq_append_of_dropWord? hrest)
    rw [List.length_append, List.length_drop] at hdrop
    rw [Text.eq_append_of_dropWord? hmore, List.length_append]
    omega

/-- The marks of some HTML. -/
def marks (cs : List Char) : List Mark :=
  match _h : tag? cs with
  | some (m, rest) => m :: marks rest
  | none =>
    match cs with
    | [] => []
    | c :: cs => .char c :: marks cs
termination_by cs.length
decreasing_by
  · exact length_tag? _h
  · simp

/-- What is left of marks without the tags. -/
def untagged (ms : List Mark) : List Char := ms.filterMap Mark.char?

/-- What some HTML says: without its tags, and with entities decoded. -/
def plainText (html : String) : String :=
  String.ofList (Text.decodeEntities (untagged (marks html.toList)))

/-- The anchors among marks, each with its link and what it says, given the one
that is open, if one is, and what it has so far. There is no answer when anchors
are nested or stay open. -/
def anchorsFrom : Option (String × List Char) → List Mark → Option (List (String × String))
  | none, [] => some []
  | none, .char _ :: ms => anchorsFrom none ms
  | none, .opening href :: ms => anchorsFrom (some (href, [])) ms
  | none, .closing :: _ => none
  | some _, [] => none
  | some (href, inside), .char c :: ms => anchorsFrom (some (href, inside ++ [c])) ms
  | some _, .opening _ :: _ => none
  | some (href, inside), .closing :: ms =>
    (anchorsFrom none ms).map ((href, String.ofList (Text.decodeEntities inside)) :: ·)

/-- The anchors of some HTML. -/
def anchors? (html : String) : Option (List (String × String)) :=
  anchorsFrom none (marks html.toList)

section

variable {cs rest html text html' text' : List Char} {m : Mark} {ms ms' : List Mark}
  {links links' : List (String × String)} {c : Char} {href : String}

/-- A tag at the start of a text is its first mark. -/
theorem marks_of_some (h : tag? cs = some (m, rest)) : marks cs = m :: marks rest := by
  rw [marks]
  split
  · next m' rest' hm =>
    rw [h] at hm
    cases hm
    rfl
  · next hm =>
    rw [h] at hm
    cases hm

/-- Where no tag starts, a character is the first mark. -/
theorem marks_of_none (h : tag? (c :: cs) = none) : marks (c :: cs) = .char c :: marks cs := by
  rw [marks]
  split
  · next m rest hm =>
    rw [h] at hm
    cases hm
  · rfl

/-- A tag starts with an angle bracket. -/
theorem tag?_of_ne (h : c ≠ '<') (cs : List Char) : tag? (c :: cs) = none := by
  have hclosing : "</a>".toList = '<' :: "/a>".toList := rfl
  have hopening : "<a href=\"".toList = '<' :: "a href=\"".toList := rfl
  rw [tag?, hclosing, hopening, Text.dropWord?, Text.dropWord?, if_neg h.symm, if_neg h.symm]
  rfl

/-- An opening tag is read back, with its address, when nothing in that needs an escape. -/
theorem tag?_opening (h : ∀ c ∈ href.toList, Text.isMarkup c = false) (rest : List Char) :
    tag? ((Mark.opening href).html ++ rest) = some (.opening href, rest) := by
  have hnot (more : List Char) :
      Text.dropWord? "</a>".toList ("<a href=\"".toList ++ more) = none := by
    simp [Text.dropWord?]
  have hend : ("\">".toList ++ rest).takeWhile (fun c => !Text.isMarkup c) = [] := by
    simp [Text.isMarkup]
  have hhref : (href.toList ++ ("\">".toList ++ rest)).takeWhile (fun c => !Text.isMarkup c)
      = href.toList := by
    rw [List.takeWhile_append_of_pos fun c hc => by rw [h c hc, Bool.not_false], hend,
      List.append_nil]
  -- The associations are spelled out, as a search for them looks into the words.
  have hhtml : (Mark.opening href).html ++ rest
      = "<a href=\"".toList ++ (href.toList ++ ("\">".toList ++ rest)) :=
    (List.append_assoc ("<a href=\"".toList ++ href.toList) "\">".toList rest).trans
      (List.append_assoc "<a href=\"".toList href.toList _)
  rw [hhtml, tag?, hnot]
  dsimp only
  rw [Text.dropWord?_append "<a href=\"".toList, Option.bind_some, hhref, List.drop_left,
    Text.dropWord?_append "\">".toList, Option.map_some, String.ofList_toList]

/-- Every mark is read as what it is. -/
theorem marks_html_append (h : m.IsClean) (rest : List Char) :
    marks (m.html ++ rest) = m :: marks rest := by
  cases m with
  | char c =>
    refine marks_of_none (tag?_of_ne ?_ rest)
    rintro rfl
    exact Bool.noConfusion h
  | opening href => exact marks_of_some (tag?_opening h rest)
  | closing => exact marks_of_some rfl

/-- Clean marks are read back from what they are written as. -/
theorem marks_flatMap_html (h : ∀ m ∈ ms, m.IsClean) : marks (ms.flatMap Mark.html) = ms := by
  induction ms with
  | nil =>
    rw [List.flatMap_nil, marks]
    rfl
  | cons m ms ih =>
    rw [List.flatMap_cons, marks_html_append (h m List.mem_cons_self),
      ih fun m hm => h m (List.mem_cons_of_mem _ hm)]

/-! ## Spelling -/

/-- Marks that leave no anchor open have no say in what follows them. -/
theorem anchorsFrom_append {open? : Option (String × List Char)}
    (h : anchorsFrom open? ms = some links) (ms' : List Mark) :
    anchorsFrom open? (ms ++ ms') = (anchorsFrom none ms').map (links ++ ·) := by
  -- Each mark may open or close an anchor, so the open one varies.
  induction ms generalizing open? links with
  | nil =>
    cases open? with
    | none =>
      cases h
      exact Option.map_id'.symm
    | some _ => cases h
  | cons m ms ih =>
    cases open? with
    | none =>
      cases m with
      | char c => exact ih h
      | opening href => exact ih h
      | closing => cases h
    | some anchor =>
      cases m with
      | char c => exact ih h
      | opening href => cases h
      | closing =>
        obtain ⟨more, hmore, rfl⟩ := Option.map_eq_some_iff.mp h
        rw [List.cons_append, anchorsFrom, ih hmore, Option.map_map]
        rfl

/-- Text on its own has no links. -/
theorem anchorsFrom_chars (cs : List Char) : anchorsFrom none (cs.map .char) = some [] := by
  induction cs with
  | nil => rfl
  | cons c cs ih => exact ih

/-- Text inside a link adds to what the link shows. -/
theorem anchorsFrom_inside (href : String) (inside cs : List Char) (ms : List Mark) :
    anchorsFrom (some (href, inside)) (cs.map .char ++ ms)
      = anchorsFrom (some (href, inside ++ cs)) ms := by
  induction cs generalizing inside with
  | nil => rw [List.append_nil]; rfl
  | cons c cs ih => rw [List.append_cons]; exact ih (inside ++ [c])

/-- Whether marks spell some HTML that says a text and has some anchors. A text
is spelled with its own characters escaped, so what is said follows from what
was put in. -/
structure Spells (ms : List Mark) (html text : List Char) (links : List (String × String)) :
    Prop where
  clean : ∀ m ∈ ms, m.IsClean
  html_eq : ms.flatMap Mark.html = html
  untagged_eq : untagged ms = text.flatMap Text.textChar
  anchors_eq : anchorsFrom none ms = some links

namespace Spells

/-- What marks spell is read as these marks. -/
theorem marks_eq (h : Spells ms html text links) : marks html = ms := by
  rw [← h.html_eq, marks_flatMap_html h.clean]

/-- What marks spell is put together with them. -/
theorem append (h : Spells ms html text links) (h' : Spells ms' html' text' links') :
    Spells (ms ++ ms') (html ++ html') (text ++ text') (links ++ links') where
  clean m hm := (List.mem_append.mp hm).elim (h.clean m) (h'.clean m)
  html_eq := by rw [List.flatMap_append, h.html_eq, h'.html_eq]
  untagged_eq := by
    rw [List.flatMap_append, ← h.untagged_eq, ← h'.untagged_eq, untagged, List.filterMap_append]
    rfl
  anchors_eq := by rw [anchorsFrom_append h.anchors_eq, h'.anchors_eq, Option.map_some]

/-- Escaped text. -/
theorem escaped (cs : List Char) :
    Spells ((cs.flatMap Text.textChar).map .char) (cs.flatMap Text.textChar) cs [] where
  clean := by
    intro m hm
    obtain ⟨x, hx, rfl⟩ := List.mem_map.mp hm
    obtain ⟨c, -, hx⟩ := List.mem_flatMap.mp hx
    exact Text.isBracket_of_mem_textChar hx
  html_eq := by
    rw [List.flatMap_map]
    exact List.flatMap_singleton' _
  untagged_eq := by
    rw [untagged, List.filterMap_map]
    exact List.filterMap_some
  anchors_eq := anchorsFrom_chars _

/-- Text that needs no escapes. -/
theorem plain (h : cs.flatMap Text.textChar = cs) : Spells (cs.map .char) cs cs [] := by
  have hescaped := escaped cs
  rwa [h] at hescaped

/-- An anchor around escaped text. -/
theorem anchor (h : ∀ c ∈ href.toList, Text.isMarkup c = false) (text : List Char) :
    Spells (.opening href :: ((text.flatMap Text.textChar).map .char ++ [.closing]))
      ((Mark.opening href).html ++ text.flatMap Text.textChar ++ Mark.closing.html) text
      [(href, String.ofList text)] where
  clean := by
    rintro m (_ | ⟨_, hm⟩)
    · exact h
    · rcases List.mem_append.mp hm with hm | hm
      · exact (escaped text).clean m hm
      · obtain rfl := List.mem_singleton.mp hm
        trivial
  html_eq := by
    rw [List.flatMap_cons, List.flatMap_append, (escaped text).html_eq, List.flatMap_singleton]
    exact (List.append_assoc _ _ _).symm
  untagged_eq := by
    rw [untagged, List.filterMap_cons, List.filterMap_append]
    exact (List.append_nil _).trans (escaped text).untagged_eq
  anchors_eq := by
    have hinside := anchorsFrom_inside href [] (text.flatMap Text.textChar) [.closing]
    rw [List.nil_append, anchorsFrom, Text.decodeEntities_flatMap] at hinside
    exact hinside

/-- HTML says what it was spelled for. -/
theorem plainText_eq (h : Spells ms html text links) :
    plainText (String.ofList html) = String.ofList text := by
  rw [plainText, String.toList_ofList, h.marks_eq, h.untagged_eq, Text.decodeEntities_flatMap]

/-- Every angle bracket belongs to a tag. -/
theorem isBracket_of_mem (h : Spells ms html text links) (hc : c ∈ untagged (marks html)) :
    Text.isBracket c = false := by
  rw [h.marks_eq, h.untagged_eq] at hc
  obtain ⟨x, -, hx⟩ := List.mem_flatMap.mp hc
  exact Text.isBracket_of_mem_textChar hx

/-- The links that marks spell are the links that are read. -/
theorem anchors?_eq (h : Spells ms html text links) :
    anchors? (String.ofList html) = some links := by
  rw [anchors?, String.toList_ofList, h.marks_eq, h.anchors_eq]

end Spells

end

end Link

end ApiPages
