import ApiPages.Markdown.Inline.Reader
import ApiPages.Proofs.Link.Anchor
import ApiPages.Proofs.Link.Marks
import Mathlib.Tactic.ByContra

/-!
# Links inside HTML and Markdown

Links are written into attributes of HTML and into Markdown without escapes.
That is right because of what they are made of: steps, an encoded path and an
anchor hold inert characters alone (`isInert_of_mem_href`), which mean nothing
to a reader of either. So a reader that meets a link takes all of it, and goes
on at the quote or the parenthesis behind it, whatever else the text holds.
-/

namespace ApiPages

namespace Text

/-! ## Inert characters -/

/-- The characters that begin or end something in HTML or Markdown wherever
they stand in a link. -/
def delimiters : List Char := "\"'\x60<>&\\()".toList

/-- Whether a character is neither a blank, a control character nor a
delimiter. -/
def isInert (c : Char) : Bool :=
  !isBlank c && 0x20 < c.toNat && c.toNat != 0x7F && !delimiters.contains c

/-- The code points of blanks. -/
def blankCodes : List Nat :=
  List.range' 9 5 ++ [0x20, 0x85, 0xA0, 0x1680] ++ List.range' 0x2000 11
    ++ [0x2028, 0x2029, 0x202F, 0x205F, 0x3000]

/-- The codes of all blanks are listed. -/
theorem mem_blankCodes {c : Char} (h : isBlank c = true) : c.toNat ∈ blankCodes := by
  simp only [isBlank, Bool.or_eq_true, Bool.and_eq_true, decide_eq_true_eq, beq_iff_eq] at h
  simp only [blankCodes, List.mem_append, List.mem_range'_1, List.mem_cons, List.not_mem_nil,
    or_false]
  omega

/-- No blank is a letter or a number. -/
theorem isBlank_of_isAlphanumeric {c : Char} (h : isAlphanumeric c = true) : isBlank c = false := by
  have hblanks : ∀ n ∈ blankCodes, isAlphanumeric (Char.ofNat n) = false := by decide +kernel
  by_contra hblank
  have hc := hblanks c.toNat (mem_blankCodes (Bool.of_not_eq_false hblank))
  rw [Char.ofNat_toNat, h] at hc
  cases hc

/-- Letters and numbers of any script are inert. -/
theorem isInert_of_isAlphanumeric {c : Char} (h : isAlphanumeric c = true) : isInert c = true := by
  have hdelimiter : c ∉ delimiters := by
    have hnone : (delimiters.all fun d => !isAlphanumeric d) = true := by decide
    intro hmem
    have hc := List.all_eq_true.mp hnone c hmem
    rw [h] at hc
    cases hc
  have hcontrol : 0x20 < c.toNat ∧ c.toNat ≠ 0x7F := by
    by_cases hascii : c.toNat < 0x80
    · simp only [isAlphanumeric, if_pos hascii, isAsciiAlphanumeric, Bool.or_eq_true,
        Bool.and_eq_true, decide_eq_true_eq] at h
      omega
    · omega
  simp [isInert, isBlank_of_isAlphanumeric h, hcontrol, hdelimiter]

section

variable {c : Char}

/-- An inert character is no blank. -/
theorem isBlank_of_isInert (h : isInert c = true) : isBlank c = false := by
  simp only [isInert, Bool.and_eq_true, Bool.not_eq_true'] at h
  exact h.1.1.1

/-- Nor is it white space of any other kind. -/
theorem isSpace_of_isInert (h : isInert c = true) : isSpace c = false := by
  by_contra hspace
  have hblank := isBlank_of_isSpace (Bool.of_not_eq_false hspace)
  rw [isBlank_of_isInert h] at hblank
  cases hblank

/-- Nor does it mean something to the reader of a link. -/
theorem not_mem_delimiters_of_isInert (h : isInert c = true) : c ∉ delimiters := by
  simp only [isInert, Bool.and_eq_true, Bool.not_eq_true', List.contains_eq_mem,
    decide_eq_false_iff_not] at h
  exact h.2

/-- So it differs from every delimiter. -/
theorem ne_of_isInert {d : Char} (h : isInert c = true) (hd : d ∈ delimiters) : c ≠ d := by
  rintro rfl
  exact not_mem_delimiters_of_isInert h hd

/-- Nor is it markup of HTML. -/
theorem isMarkup_of_isInert (h : isInert c = true) : isMarkup c = false := by
  simp [isMarkup, ne_of_isInert h (d := '<') (by decide), ne_of_isInert h (d := '>') (by decide),
    ne_of_isInert h (d := '"') (by decide)]

end

end Text

namespace Markdown

open Text (isInert)

variable {cs : List Char}

/-! ## Reading inert text -/

/-- A quoted attribute takes inert text up to its quote. -/
theorem Scan.attributeValue?_of_inert (h : ∀ c ∈ cs, isInert c = true) {quote : Char}
    (hquote : quote = '"' ∨ quote = '\'') (rest : List Char) :
    Scan.attributeValue? (quote :: (cs ++ quote :: rest)) = some rest := by
  have hdrop : (cs ++ quote :: rest).dropWhile (· != quote) = quote :: rest := by
    have hother : ∀ c ∈ cs, (c != quote) = true := by
      intro c hc
      have hne : c ≠ quote := by
        rcases hquote with rfl | rfl
        · exact Text.ne_of_isInert (h c hc) (by decide)
        · exact Text.ne_of_isInert (h c hc) (by decide)
      exact bne_iff_ne.mpr hne
    rw [List.dropWhile_append_of_pos hother, List.dropWhile_cons_of_neg (by simp)]
  rcases hquote with rfl | rfl
  · rw [Scan.attributeValue?, hdrop, Scan.one?]
    rfl
  · rw [Scan.attributeValue?, hdrop, Scan.one?]
    rfl

/-- A bare destination takes inert text up to its parenthesis. -/
theorem Scan.bareRest?_of_inert (h : ∀ c ∈ cs, isInert c = true) (rest : List Char) :
    Scan.bareRest? 0 (cs ++ ')' :: rest) = some (')' :: rest) := by
  induction cs with
  | nil => simp [Scan.bareRest?]
  | cons c cs ih =>
    have hc := h c List.mem_cons_self
    have hbackslash : c ≠ '\\' := Text.ne_of_isInert hc (by decide)
    have hopen : c ≠ '(' := Text.ne_of_isInert hc (by decide)
    have hclose : c ≠ ')' := Text.ne_of_isInert hc (by decide)
    have hspace := Text.isSpace_of_isInert hc
    have hcontrol : 0x20 < c.toNat ∧ c.toNat ≠ 0x7F := by
      simp only [isInert, Bool.and_eq_true, decide_eq_true_eq, bne_iff_ne] at hc
      exact ⟨hc.1.1.2, hc.1.2⟩
    rw [List.cons_append, Scan.bareRest?, if_neg, ih fun x hx => h x (List.mem_cons_of_mem c hx)]
    · simp [hspace, hcontrol.2]
      omega
    · rintro d ds rfl
      exact absurd rfl hbackslash
    · exact hopen
    · exact hclose

/-- Text without ampersands has no references. -/
theorem decodeReferences_of_inert (h : ∀ c ∈ cs, isInert c = true) : decodeReferences cs = cs := by
  induction cs with
  | nil => rfl
  | cons c cs ih =>
    have hamp : c ≠ '&' := Text.ne_of_isInert (h c List.mem_cons_self) (by decide)
    have hrest := ih fun x hx => h x (List.mem_cons_of_mem c hx)
    rw [decodeReferences] at hrest
    simp [decodeReferences, decodeFrom, hamp, hrest]

/-- Text without backslashes stays as it is. -/
theorem dropBackslashes_of_inert (h : ∀ c ∈ cs, isInert c = true) : dropBackslashes cs = cs := by
  induction cs with
  | nil => rfl
  | cons c cs ih =>
    have hbackslash : c ≠ '\\' := Text.ne_of_isInert (h c List.mem_cons_self) (by decide)
    have hrest := ih fun x hx => h x (List.mem_cons_of_mem c hx)
    cases cs with
    | nil => rfl
    | cons d cs => simp [dropBackslashes, hbackslash, hrest]

/-- Inert text in front of a closing bracket has no blanks before it to pass over. -/
theorem Scan.blanks_of_inert (h : ∀ c ∈ cs, isInert c = true) (rest : List Char) :
    Scan.blanks (cs ++ ')' :: rest) = cs ++ ')' :: rest := by
  cases cs with
  | nil => rfl
  | cons c cs =>
    have hspace := Text.isSpace_of_isInert (h c List.mem_cons_self)
    exact List.dropWhile_cons_of_neg (by simp [hspace])

/-- Inert text has no white space around it. -/
theorem trimWhile_of_inert (h : ∀ c ∈ cs, isInert c = true) :
    Text.trimWhile Text.isSpace cs = cs := by
  have hkept : ∀ ds : List Char, (∀ c ∈ ds, isInert c = true) → ds.dropWhile Text.isSpace = ds := by
    intro ds hds
    cases ds with
    | nil => rfl
    | cons d ds =>
      have hspace := Text.isSpace_of_isInert (hds d List.mem_cons_self)
      exact List.dropWhile_cons_of_neg (by simp [hspace])
  rw [Text.trimWhile, Text.dropEndWhile, hkept cs h, hkept _ fun c hc => h c (List.mem_reverse.mp hc),
    List.reverse_reverse]

/-- A link in parentheses has inert text as its destination, as it is written,
and no title. -/
theorem Reading.inlineTarget?_of_inert (h : ∀ c ∈ cs, isInert c = true) (rest : List Char) :
    Reading.inlineTarget? ('(' :: (cs ++ ')' :: rest)) = some (⟨cs, []⟩, rest) := by
  have hwritten : Scan.upTo (cs ++ ')' :: rest) (')' :: rest) = cs := by
    rw [Scan.upTo, List.length_append, Nat.add_sub_cancel, List.take_left]
  have hdestination : Scan.destination? (cs ++ ')' :: rest) = some (cs, ')' :: rest) := by
    have hbare := Scan.bareRest?_of_inert h rest
    unfold Scan.destination?
    split
    · next ds heq =>
      -- Inert text does not begin with an angle bracket, nor does what follows it.
      cases cs with
      | nil => cases heq
      | cons c cs =>
        obtain ⟨rfl, -⟩ := List.cons.inj heq
        exact absurd rfl (Text.ne_of_isInert (h '<' List.mem_cons_self) (by decide))
    · simp [hbare, hwritten]
  have hend : Scan.blanks (')' :: rest) = ')' :: rest := rfl
  have hclean : Scan.cleanDestination cs = cs := by
    rw [Scan.cleanDestination, trimWhile_of_inert h, plainText, decodeReferences_of_inert h,
      dropBackslashes_of_inert h]
  simp [Reading.inlineTarget?, Scan.blanks_of_inert h, hdestination, hend, hclean, Scan.one?,
    Scan.cleanTitle]

end Markdown

namespace Link

open Text (isInert)

/-! ## Links -/

/-- What an address holds without an escape is inert. -/
theorem isInert_of_isUnreserved {c : Char} (h : isUnreserved c = true) : isInert c = true := by
  simp only [isUnreserved, Bool.or_eq_true, beq_iff_eq] at h
  rcases h with (((h | rfl) | rfl) | rfl) | rfl
  · apply Text.isInert_of_isAlphanumeric
    have hascii : c.toNat < 0x80 := by
      simp only [Text.isAsciiAlphanumeric, Bool.or_eq_true, Bool.and_eq_true,
        decide_eq_true_eq] at h
      omega
    rw [Text.isAlphanumeric, if_pos hascii, h]
  all_goals decide

/-- What a link is: its steps, the encoded page, and the anchor of a member. -/
theorem href?_eq {site : Site} {symbol page : String} (h : site.index.page? symbol = some page)
    (member : Option String) :
    site.href? symbol member = some (String.join (List.replicate site.depth "../")
      ++ encodePath page ++ member.elim "" fun m => "#" ++ anchor m) := by
  unfold Site.href?
  rw [h, Option.map_some]
  cases member with
  | none => rfl
  | some m => rfl

/-- All characters of a link are inert. -/
theorem isInert_of_mem_href {site : Site} {symbol href : String} {member : Option String}
    (h : site.href? symbol member = some href) : ∀ c ∈ href.toList, isInert c = true := by
  obtain ⟨page, hpage, -⟩ := Option.map_eq_some_iff.mp h
  rw [href?_eq hpage] at h
  cases h
  intro c hc
  rw [String.toList_append, List.mem_append] at hc
  rcases hc with hc | hc
  · rcases mem_link hc with hkept | rfl | rfl
    · exact isInert_of_isUnreserved hkept
    · decide
    · decide
  · cases member with
    | none => cases hc
    | some m =>
      rw [Option.elim_some, String.toList_append, List.mem_append] at hc
      rcases hc with hhash | hanchor
      · obtain rfl := List.mem_singleton.mp hhash
        decide
      · rcases mem_anchor hanchor with rfl | hc
        · decide
        · exact Text.isInert_of_isAlphanumeric hc

/-- Two paths with one encoding are one. -/
theorem encodePath_injective : Function.Injective encodePath := by
  intro p q h
  have hdecoded := congrArg decodePath? h
  rw [decodePath?_encodePath, decodePath?_encodePath] at hdecoded
  exact Option.some.inj hdecoded

/-- An encoded path has as many slashes as the path. -/
theorem count_slash_encodePath (path : String) :
    (encodePath path).toList.count '/' = path.toList.count '/' := by
  have hlength := congrArg List.length (splitOn_encodePath path)
  rw [List.length_map, Text.length_splitOn, Text.length_splitOn] at hlength
  omega

/-- The encoding of paths, and the links made of it. No two paths have one
encoding. It keeps the slashes, its segments decode to those of the path, and it
has but letters and digits of ASCII and a few marks. The link to a symbol is its
steps, its encoded page and perhaps an anchor. It holds no blank and no
delimiter; so an attribute in quotes and the target of a link in Markdown hold
all of it, and end where it does. -/
theorem href_embeds :
    Function.Injective encodePath
    ∧ (∀ path : String,
      (encodePath path).toList.count '/' = path.toList.count '/'
      ∧ (Text.splitOn '/' (encodePath path).toList).mapM decodeSegment?
        = some (Text.splitOn '/' path.toList)
      ∧ ∀ c ∈ (encodePath path).toList,
        Text.isAsciiAlphanumeric c = true ∨ c ∈ ['-', '_', '.', '~', '%', '/'])
    ∧ ∀ (site : Site) (symbol page : String) (member : Option String),
      site.index.page? symbol = some page →
      ∃ href, site.href? symbol member = some href
        ∧ href = String.join (List.replicate site.depth "../") ++ encodePath page
          ++ (member.elim "" fun m => "#" ++ anchor m)
        ∧ (∀ c ∈ href.toList, Text.isBlank c = false
          ∧ c ∉ ['"', '\'', '\x60', '<', '>', '&', '\\', '(', ')'])
        ∧ (∀ quote rest, quote = '"' ∨ quote = '\'' →
          Markdown.Scan.attributeValue? (quote :: (href.toList ++ quote :: rest)) = some rest)
        ∧ (∀ rest, tag? ("<a href=\"".toList ++ href.toList ++ "\">".toList ++ rest)
          = some (.opening href, rest))
        ∧ ∀ rest, Markdown.Reading.inlineTarget? ('(' :: (href.toList ++ ')' :: rest))
          = some (⟨href.toList, []⟩, rest) := by
  refine ⟨encodePath_injective, fun path => ⟨count_slash_encodePath path, ?_, ?_⟩, ?_⟩
  · rw [splitOn_encodePath, mapM_decodeSegment?]
  · intro c hc
    rcases mem_encodePath hc with hkept | rfl | rfl
    · simp only [isUnreserved, Bool.or_eq_true, beq_iff_eq] at hkept
      rcases hkept with (((hascii | rfl) | rfl) | rfl) | rfl
      · exact Or.inl hascii
      all_goals exact Or.inr (by decide)
    · exact Or.inr (by decide)
    · exact Or.inr (by decide)
  · intro site symbol page member hpage
    have hhref := href?_eq hpage member
    have hinert := isInert_of_mem_href hhref
    refine ⟨_, hhref, rfl, fun c hc => ?_, fun quote rest hquote => ?_, fun rest => ?_,
      fun rest => ?_⟩
    · exact ⟨Text.isBlank_of_isInert (hinert c hc),
        Text.not_mem_delimiters_of_isInert (hinert c hc)⟩
    · exact Markdown.Scan.attributeValue?_of_inert hinert hquote rest
    · exact tag?_opening (fun c hc => Text.isMarkup_of_isInert (hinert c hc)) rest
    · exact Markdown.Reading.inlineTarget?_of_inert hinert rest

example : encodePath "m_a b/ü(1).html" = "m_a%20b/%C3%BC%281%29.html" := by decide +kernel

end Link

end ApiPages
