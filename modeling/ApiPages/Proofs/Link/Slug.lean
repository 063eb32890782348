import ApiPages.Proofs.Link.Anchor

/-!
# Slugs

A slug is letters and numbers, those of ASCII small, with single hyphens between
them (`IsSlug`). Anchors are slugs, and slugs are the names that are their own
anchors (`anchor_eq_self_iff`). Both halves look at the text between the hyphens:
an anchor is cut at them into the runs that it was joined from, and a hyphen that
is not single or not between others would cut off an empty run.
-/

namespace ApiPages.Link

open Text (isAlphanumeric splitOn joinWith)

/-- Whether a text is a slug. -/
structure IsSlug (cs : List Char) : Prop where
  char : ∀ c ∈ cs, c = '-' ∨ isAlphanumeric c = true
  small : ∀ c ∈ cs, c.isUpper = false
  first : cs.head? ≠ some '-'
  last : cs.getLast? ≠ some '-'
  single : ¬['-', '-'] <:+: cs

/-! ## Characters -/

/-- Upper case is a range of codes. -/
theorem isUpper_eq_true_iff {c : Char} : c.isUpper = true ↔ 0x41 ≤ c.toNat ∧ c.toNat ≤ 0x5A := by
  have hbounds : c.isUpper = decide (c.val ≥ 'A'.val ∧ c.val ≤ 'Z'.val) := rfl
  rw [hbounds, decide_eq_true_eq, ge_iff_le, UInt32.le_iff_toNat_le, UInt32.le_iff_toNat_le]
  rfl

/-- A lowered character is not in upper case. -/
theorem isUpper_asciiLower (c : Char) : (Text.asciiLower c).isUpper = false := by
  have hcapital : ∀ n < 0x5B, 0x41 ≤ n → (Char.ofNat (n + 0x20)).isUpper = false := by decide
  rw [Text.asciiLower]
  split
  · rename_i hc
    simp only [Bool.and_eq_true, decide_eq_true_eq] at hc
    exact hcapital c.toNat (by omega) hc.1
  · rename_i hc
    rw [Bool.eq_false_iff, ne_eq, isUpper_eq_true_iff]
    simpa using hc

/-- Any other character is left as it is. -/
theorem asciiLower_of_not_upper {c : Char} (h : c.isUpper = false) : Text.asciiLower c = c := by
  rw [Bool.eq_false_iff, ne_eq, isUpper_eq_true_iff] at h
  rw [Text.asciiLower, if_neg (by simpa using h)]

/-- What a character of a name becomes is not in upper case. -/
theorem isUpper_anchorChar (c : Char) : (anchorChar c).isUpper = false := by
  rw [anchorChar]
  split
  · exact isUpper_asciiLower c
  · rfl

/-- A character of a slug stands for itself. -/
theorem anchorChar_eq_self {c : Char} (hc : c = '-' ∨ isAlphanumeric c = true)
    (hsmall : c.isUpper = false) : anchorChar c = c := by
  rcases hc with rfl | hc
  · rfl
  · rw [anchorChar, if_pos hc, asciiLower_of_not_upper hsmall]

/-! ## Hyphens -/

/-- No part of an anchor holds a hyphen. -/
theorem hyphen_not_mem_anchorParts {cs part : List Char} (h : part ∈ anchorParts cs) : '-' ∉ part :=
  Text.not_mem_of_mem_splitOn (List.mem_filter.mp h).1

/-- An anchor is cut at its hyphens into the runs it was joined from. -/
theorem splitOn_anchor {name : String} (h : anchorParts name.toList ≠ []) :
    splitOn '-' (anchor name).toList = anchorParts name.toList := by
  rw [anchor_eq, String.toList_ofList]
  exact Text.splitOn_joinWith h fun part => hyphen_not_mem_anchorParts

/-- An anchor is empty exactly when its name has no parts. -/
theorem anchor_eq_empty_iff {name : String} : anchor name = "" ↔ anchorParts name.toList = [] := by
  rw [anchor_eq, ← String.toList_eq_nil_iff, String.toList_ofList]
  by_cases hparts : anchorParts name.toList = []
  · rw [hparts]
    exact iff_of_true rfl rfl
  · exact iff_of_false (Text.joinWith_ne_nil hparts fun part => anchorParts_ne_nil_of_mem) hparts

/-- The hyphens of a text are those of a slug exactly when they cut off no empty
run. -/
theorem hyphens_iff {cs : List Char} (h : cs ≠ []) :
    [] ∉ splitOn '-' cs
      ↔ cs.head? ≠ some '-' ∧ cs.getLast? ≠ some '-' ∧ ¬['-', '-'] <:+: cs := by
  rw [Text.nil_mem_splitOn_iff]
  simp [h]

/-- An anchor is a slug, whatever the name. -/
theorem isSlug_anchor (name : String) : IsSlug (anchor name).toList := by
  have hchar : ∀ c ∈ (anchor name).toList, c = '-' ∨ isAlphanumeric c = true := fun c => mem_anchor
  have hsmall : ∀ c ∈ (anchor name).toList, c.isUpper = false := by
    intro c hc
    obtain ⟨own, rfl⟩ := exists_anchorChar_of_mem hc
    exact isUpper_anchorChar own
  by_cases hparts : anchorParts name.toList = []
  · rw [anchor_eq_empty_iff.mpr hparts]
    exact ⟨nofun, nofun, nofun, nofun, by decide⟩
  · have hne : (anchor name).toList ≠ [] := by
      rwa [ne_eq, String.toList_eq_nil_iff, anchor_eq_empty_iff]
    have hnone : [] ∉ splitOn '-' (anchor name).toList := by
      rw [splitOn_anchor hparts]
      exact fun h => anchorParts_ne_nil_of_mem h rfl
    obtain ⟨hfirst, hlast, hsingle⟩ := (hyphens_iff hne).mp hnone
    exact ⟨hchar, hsmall, hfirst, hlast, hsingle⟩

/-- A slug is its own anchor. -/
theorem IsSlug.anchor_eq {name : String} (h : IsSlug name.toList) : anchor name = name := by
  by_cases hempty : name = ""
  · rw [hempty]
    rfl
  · have hsame : name.toList.map anchorChar = name.toList := by
      conv => rhs; rw [← List.map_id name.toList]
      exact List.map_congr_left fun c hc => anchorChar_eq_self (h.char c hc) (h.small c hc)
    have hnone : [] ∉ splitOn '-' name.toList :=
      (hyphens_iff (by rwa [ne_eq, String.toList_eq_nil_iff])).mpr ⟨h.first, h.last, h.single⟩
    have hparts : anchorParts name.toList = splitOn '-' name.toList := by
      rw [anchorParts, hsame, List.filter_eq_self]
      intro part hpart
      have hne : part ≠ [] := fun e => hnone (e ▸ hpart)
      simpa using hne
    rw [Link.anchor_eq, hparts, Text.joinWith_splitOn, String.ofList_toList]

/-- Slugs are the names that are their own anchors. -/
theorem anchor_eq_self_iff {name : String} : anchor name = name ↔ IsSlug name.toList :=
  ⟨fun h => h ▸ isSlug_anchor name, IsSlug.anchor_eq⟩

/-- A character that is no letter or number joins the anchors of what stands on
its two sides, when both have one. -/
theorem anchor_append {x : Char} (h : isAlphanumeric x = false) (a b : String) :
    anchor (a ++ String.singleton x ++ b)
      = if anchor a = "" then anchor b
        else if anchor b = "" then anchor a
        else anchor a ++ "-" ++ anchor b := by
  have hparts : anchorParts (a ++ String.singleton x ++ b).toList
      = anchorParts a.toList ++ anchorParts b.toList := by
    rw [String.toList_append, String.toList_append, List.append_assoc]
    simpa using anchorParts_append h a.toList b.toList
  rw [Link.anchor_eq, hparts]
  split
  · next ha => rw [anchor_eq_empty_iff.mp ha, List.nil_append, Link.anchor_eq]
  · next ha =>
    split
    · next hb => rw [anchor_eq_empty_iff.mp hb, List.append_nil, Link.anchor_eq]
    · next hb =>
      rw [anchor_eq_empty_iff] at ha hb
      rw [Text.joinWith_append ha hb, Link.anchor_eq, Link.anchor_eq, String.ofList_append,
        String.ofList_append]

/-- Anchors are canonical. Every anchor is a slug, and the slugs are the names
that are their own anchors, so an anchor is its own. What stands around a
character that is no letter or number keeps its anchor: the two are joined by a
hyphen, or one of them is alone when the other is empty. -/
theorem anchor_canonical :
    (∀ name, IsSlug (anchor name).toList)
    ∧ (∀ name, anchor (anchor name) = anchor name)
    ∧ (∀ name, anchor name = name ↔ IsSlug name.toList)
    ∧ ∀ (a b : String) (x : Char), isAlphanumeric x = false →
      anchor (a ++ String.singleton x ++ b)
        = if anchor a = "" then anchor b
          else if anchor b = "" then anchor a
          else anchor a ++ "-" ++ anchor b :=
  ⟨isSlug_anchor, fun name => (isSlug_anchor name).anchor_eq, fun _ => anchor_eq_self_iff,
    fun a b _ h => anchor_append h a b⟩

/-- What stands around a bracket keeps its anchors, with one hyphen between. -/
theorem anchor_canonical_call :
    isAlphanumeric '(' = false
    ∧ anchor ("Über--Size " ++ String.singleton '(' ++ "2)") = "Über-size-2" := by
  have hopen : isAlphanumeric '(' = false := by decide
  have hjoined := anchor_canonical.2.2.2 "Über--Size " "2)" '(' hopen
  exact ⟨hopen, hjoined.trans (by decide +kernel)⟩

end ApiPages.Link
