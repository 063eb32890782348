import ApiPages.Proofs.Link.Embedding
import ApiPages.Proofs.Link.Mention
import Mathlib.Data.List.Basic
import Mathlib.Data.List.TakeWhile
import Mathlib.Tactic.ByContra

/-!
# Types with links

A type on a page says what it is as written, and has an anchor around each of
its names that is a known symbol's, other than the page's own (`linkify_readsAs`).
Which characters are names does not depend on how the writer goes through them:
they are what each run of letters, digits, `_` and `$` has after its leading
digits (`tokens_eq_identifiers`).
-/

namespace ApiPages.Link

/-! ## Names -/

/-- The names in some characters: of each run of characters that an identifier
may have, what follows its leading digits. -/
def tokens (cs : List Char) : List String :=
  (((cs.splitOnP fun c => !isIdentifierPart c).map (·.dropWhile Char.isDigit)).filter
    (· ≠ [])).map String.ofList

variable {c : Char} {cs : List Char} {href name : String} {site : Site}

/-- What an identifier can start with, it can go on with. -/
theorem isIdentifierPart_of_start (h : isIdentifierStart c = true) : isIdentifierPart c = true := by
  rw [isIdentifierPart, h, Bool.true_or]

/-- It starts with no digit. -/
theorem isDigit_of_start (h : isIdentifierStart c = true) : c.isDigit = false := by
  by_contra hdigit
  rw [Bool.not_eq_false] at hdigit
  simp only [Char.isDigit, ge_iff_le, Bool.and_eq_true, decide_eq_true_eq,
    UInt32.le_iff_toNat_le] at hdigit
  simp only [isIdentifierStart, Text.isAsciiLetter, Bool.or_eq_true, Bool.and_eq_true,
    decide_eq_true_eq, beq_iff_eq] at h
  have hlow : 48 ≤ c.toNat := hdigit.1
  have hhigh : c.toNat ≤ 57 := hdigit.2
  rcases h with ((h | h) | rfl) | rfl
  · omega
  · omega
  · revert hhigh
    decide
  · revert hlow
    decide

/-- And a digit is the only part that it cannot start with. -/
theorem isDigit_of_part (h : isIdentifierPart c = true) (hstart : isIdentifierStart c = false) :
    c.isDigit = true := by
  rwa [isIdentifierPart, hstart, Bool.false_or] at h

/-- What is not part of a name is skipped, a leading digit too. -/
theorem tokens_of_not_start (h : isIdentifierStart c = false) (cs : List Char) :
    tokens (c :: cs) = tokens cs := by
  rw [tokens, tokens, List.splitOnP_cons_eq_if_modifyHead]
  cases hpart : isIdentifierPart c with
  | false => rfl
  | true =>
    obtain ⟨run, more, hruns⟩ :=
      List.exists_cons_of_ne_nil (List.splitOnP_ne_nil (fun c => !isIdentifierPart c) cs)
    rw [hruns, if_neg (by decide), List.modifyHead_cons, List.map_cons, List.map_cons,
      List.dropWhile_cons_of_pos (isDigit_of_part hpart h)]

/-- A name goes on as long as its run. -/
theorem tokens_of_start (h : isIdentifierStart c = true) (cs : List Char) :
    tokens (c :: cs) = String.ofList (c :: cs.takeWhile isIdentifierPart)
      :: tokens (cs.dropWhile isIdentifierPart) := by
  have hrun : ∀ x ∈ c :: cs.takeWhile isIdentifierPart, (!isIdentifierPart x) = false := by
    rintro x (_ | ⟨_, hx⟩)
    · rw [isIdentifierPart_of_start h, Bool.not_true]
    · rw [List.mem_takeWhile_imp hx, Bool.not_true]
  have hname : (c :: cs.takeWhile isIdentifierPart).dropWhile Char.isDigit
      = c :: cs.takeWhile isIdentifierPart :=
    List.dropWhile_cons_of_neg (by rw [isDigit_of_start h]; decide)
  have hcs : c :: cs = (c :: cs.takeWhile isIdentifierPart) ++ cs.dropWhile isIdentifierPart := by
    rw [List.cons_append, List.takeWhile_append_dropWhile]
  have hend := List.head?_dropWhile_not isIdentifierPart cs
  rw [hcs]
  cases hrest : cs.dropWhile isIdentifierPart with
  | nil =>
    rw [List.append_nil, tokens, List.splitOnP_eq_singleton hrun, List.map_singleton, hname]
    rfl
  | cons d rest =>
    rw [hrest] at hend
    have hd : isIdentifierPart d = false := hend
    have hdstart : isIdentifierStart d = false := by
      rw [isIdentifierPart, Bool.or_eq_false_iff] at hd
      exact hd.1
    rw [tokens_of_not_start hdstart, tokens,
      List.splitOnP_append_cons_of_forall_mem hrun d (by rw [hd, Bool.not_false]),
      List.map_cons, hname]
    rfl

/-- The writer of types finds exactly the names. -/
theorem tokens_eq_identifiers (cs : List Char) : tokens cs = identifiers cs := by
  induction cs using identifiers.induct with
  | case1 => rw [identifiers]; rfl
  | case2 c cs hstart ih => rw [identifiers, if_pos hstart, tokens_of_start hstart, ih]
  | case3 c cs hstart ih =>
    rw [identifiers, if_neg hstart, tokens_of_not_start (Bool.eq_false_iff.mpr hstart), ih]

example : tokens "Map<2a, $b9>".toList = ["Map", "a", "$b9"] := by decide +kernel

/-! ## Anchors -/

/-- The links of names on a site, each with its name. A site does not link to
its own. -/
def symbolLinks (site : Site) (names : List String) : List (String × String) :=
  (names.filter (· ≠ site.current)).filterMap fun name =>
    (site.href? name none).map fun href => (href, name)

/-- The links of names are put together name by name. -/
theorem symbolLinks_cons (site : Site) (name : String) (names : List String) :
    symbolLinks site (name :: names) = symbolLinks site [name] ++ symbolLinks site names := by
  rw [symbolLinks, ← List.singleton_append, List.filter_append, List.filterMap_append]
  rfl

/-- A name is linked when it is not the current one and has a page. -/
theorem symbolLinks_singleton (site : Site) (name : String) :
    symbolLinks site [name]
      = ((if name == site.current then none else site.href? name none).map fun href =>
        (href, name)).toList := by
  by_cases hcurrent : name = site.current
  · simp [symbolLinks, hcurrent]
  · cases hhref : site.href? name none <;> simp [symbolLinks, hcurrent, hhref]

/-- HTML writes the characters of identifiers as they are. -/
theorem textChar_of_part (h : isIdentifierPart c = true) : Text.textChar c = [c] := by
  have hother {x : Char} (hx : isIdentifierPart x = false) : c ≠ x := by
    rintro rfl
    exact Bool.false_ne_true (hx.symm.trans h)
  have hamp : c ≠ '&' := hother (by decide)
  have hlt : c ≠ '<' := hother (by decide)
  have hgt : c ≠ '>' := hother (by decide)
  simp [Text.textChar, hamp, hlt, hgt]

/-- So it writes an identifier as it is. -/
theorem flatMap_textChar_of_part (h : ∀ c ∈ cs, isIdentifierPart c = true) :
    cs.flatMap Text.textChar = cs :=
  calc cs.flatMap Text.textChar
      = cs.flatMap fun c => [c] := List.flatMap_congr fun c hc => textChar_of_part (h c hc)
    _ = cs := List.flatMap_singleton' cs

/-- A name is spelled as it is, in an anchor when it is a known symbol's. -/
theorem exists_spells_linkIdentifier (site : Site) (h : ∀ c ∈ cs, isIdentifierPart c = true) :
    ∃ ms, Spells ms (linkIdentifier site (String.ofList cs)).toList cs
      (symbolLinks site [String.ofList cs]) := by
  have hescaped := flatMap_textChar_of_part h
  have hname : (String.ofList cs).toList = cs := String.toList_ofList
  rw [linkIdentifier, symbolLinks_singleton]
  cases hhref : (if String.ofList cs == site.current then none
      else site.href? (String.ofList cs) none) with
  | none =>
    dsimp only
    rw [hname]
    exact ⟨_, .plain hescaped⟩
  | some href =>
    have hknown : site.href? (String.ofList cs) none = some href := by
      split at hhref
      · cases hhref
      · exact hhref
    have hinert := isInert_of_mem_href hknown
    have hanchor := Spells.anchor (fun c hc => Text.isMarkup_of_isInert (hinert c hc)) cs
    rw [hescaped] at hanchor
    dsimp only
    rw [String.toList_append, String.toList_append, String.toList_append, String.toList_append,
      hname]
    exact ⟨_, hanchor⟩

/-- A linked type spells its own text, with the links of its identifiers in their order. -/
theorem exists_spells_linkifyChars (site : Site) (cs : List Char) :
    ∃ ms, Spells ms (linkifyChars site cs) cs (symbolLinks site (identifiers cs)) := by
  induction cs using identifiers.induct with
  | case1 =>
    rw [linkifyChars, identifiers]
    exact ⟨_, Spells.escaped []⟩
  | case2 c cs hstart ih =>
    have hpart : ∀ x ∈ c :: cs.takeWhile isIdentifierPart, isIdentifierPart x = true := by
      rintro x (_ | ⟨_, hx⟩)
      · exact isIdentifierPart_of_start hstart
      · exact List.mem_takeWhile_imp hx
    obtain ⟨ms, hms⟩ := exists_spells_linkIdentifier site hpart
    obtain ⟨more, hmore⟩ := ih
    have happend := hms.append hmore
    rw [List.cons_append, List.takeWhile_append_dropWhile] at happend
    rw [linkifyChars, if_pos hstart, identifiers, if_pos hstart, symbolLinks_cons]
    exact ⟨_, happend⟩
  | case3 c cs hstart ih =>
    obtain ⟨ms, hms⟩ := ih
    rw [linkifyChars, if_neg hstart, identifiers, if_neg hstart]
    have hchar := Spells.escaped [c]
    rw [List.flatMap_singleton] at hchar
    exact ⟨_, hchar.append hms⟩

/-- A type on a page. Without the tags and with entities decoded it is the type
as written, every angle bracket belongs to a tag, and there is an anchor around
exactly the names that are known and not the page's own, in order, each with
the link to that symbol. -/
theorem linkify_readsAs (site : Site) (type : String) :
    plainText (linkify site type) = type
      ∧ (∀ c ∈ untagged (marks (linkify site type).toList), c ≠ '<' ∧ c ≠ '>')
      ∧ anchors? (linkify site type)
        = some (((tokens type.toList).filter (· ≠ site.current)).filterMap fun name =>
          (site.href? name none).map fun href => (href, name)) := by
  obtain ⟨ms, hms⟩ := exists_spells_linkifyChars site type.toList
  have hplain := hms.plainText_eq
  rw [String.ofList_toList] at hplain
  refine ⟨hplain, fun c hc => ?_, ?_⟩
  · rw [linkify, String.toList_ofList] at hc
    simpa [Text.isBracket] using hms.isBracket_of_mem hc
  · rw [tokens_eq_identifiers]
    exact hms.anchors?_eq

end ApiPages.Link
