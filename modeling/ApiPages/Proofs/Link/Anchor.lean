import ApiPages.Link.Index
import ApiPages.Proofs.Text.Pieces

/-!
# Anchors

An anchor is the runs of letters and numbers of a name, in order, with hyphens
between them (`anchorParts`). Any other character ends a run, so it cuts the
runs of what precedes it from those of what follows (`anchorParts_append`), and
a name gains runs by being put behind another one with a letter or a number
(`anchor_dot_eq_iff`).
-/

namespace ApiPages.Link

open Text (isAlphanumeric)

/-- A character as it stands in an anchor. -/
def anchorChar (c : Char) : Char := if isAlphanumeric c then Text.asciiLower c else '-'

/-- The runs of letters and numbers of a name, with ASCII in small letters. -/
def anchorParts (cs : List Char) : List (List Char) :=
  (Text.splitOn '-' (cs.map anchorChar)).filter fun part => !part.isEmpty

/-- An anchor is made of the parts of its name, with a hyphen between any two. -/
theorem anchor_eq (name : String) :
    anchor name = String.ofList (Text.joinWith ['-'] (anchorParts name.toList)) := rfl

/-- No part is empty. -/
theorem anchorParts_ne_nil_of_mem {cs part : List Char} (h : part ∈ anchorParts cs) : part ≠ [] := by
  have hpart := (List.mem_filter.mp h).2
  simpa using hpart

/-- What is no letter and no digit becomes a hyphen. -/
theorem anchorChar_of_other {x : Char} (h : isAlphanumeric x = false) : anchorChar x = '-' := by
  rw [anchorChar, h]
  rfl

/-- A hyphen stands for no letter or number. -/
theorem anchorChar_ne_hyphen {c : Char} (h : isAlphanumeric c = true) : anchorChar c ≠ '-' := by
  -- A capital moves to its small letter, never to the hyphen.
  have hcapital : ∀ n < 0x5B, 0x41 ≤ n → Char.ofNat (n + 0x20) ≠ '-' := by decide
  rw [anchorChar, if_pos h, Text.asciiLower]
  split
  · rename_i hc
    simp only [Bool.and_eq_true, decide_eq_true_eq] at hc
    exact hcapital c.toNat (by omega) hc.1
  · rintro rfl
    revert h
    decide

/-- A letter or number stands for one, though a capital for its small letter. -/
theorem isAlphanumeric_asciiLower {c : Char} (h : isAlphanumeric c = true) :
    isAlphanumeric (Text.asciiLower c) = true := by
  have hcapital : ∀ n < 0x5B, 0x41 ≤ n → isAlphanumeric (Char.ofNat (n + 0x20)) = true := by decide
  rw [Text.asciiLower]
  split
  · rename_i hc
    simp only [Bool.and_eq_true, decide_eq_true_eq] at hc
    exact hcapital c.toNat (by omega) hc.1
  · exact h

/-- Every character becomes a hyphen, or a letter or digit. -/
theorem anchorChar_cases (c : Char) : anchorChar c = '-' ∨ isAlphanumeric (anchorChar c) = true := by
  cases hc : isAlphanumeric c with
  | false => exact Or.inl (anchorChar_of_other hc)
  | true =>
    rw [anchorChar, if_pos hc]
    exact Or.inr (isAlphanumeric_asciiLower hc)

/-- An anchor is made of characters as they stand in anchors. -/
theorem exists_anchorChar_of_mem {name : String} {c : Char} (h : c ∈ (anchor name).toList) :
    ∃ own, anchorChar own = c := by
  rw [anchor_eq, String.toList_ofList] at h
  rcases Text.mem_joinWith h with hhyphen | ⟨part, hpart, hc⟩
  · obtain rfl := List.mem_singleton.mp hhyphen
    exact ⟨'-', rfl⟩
  · have hpiece : part ∈ Text.splitOn '-' (name.toList.map anchorChar) := (List.mem_filter.mp hpart).1
    obtain ⟨own, -, hown⟩ := List.mem_map.mp (Text.mem_of_mem_splitOn hpiece hc)
    exact ⟨own, hown⟩

/-- The characters of an anchor. -/
theorem mem_anchor {name : String} {c : Char} (h : c ∈ (anchor name).toList) :
    c = '-' ∨ isAlphanumeric c = true := by
  obtain ⟨own, rfl⟩ := exists_anchorChar_of_mem h
  exact anchorChar_cases own

/-- What is no letter or number cuts the runs before it from those behind. -/
theorem anchorParts_append {x : Char} (h : isAlphanumeric x = false) (before after : List Char) :
    anchorParts (before ++ x :: after) = anchorParts before ++ anchorParts after := by
  rw [anchorParts, List.map_append, List.map_cons, anchorChar_of_other h,
    Text.splitOn_append_cons, List.filter_append, anchorParts, anchorParts]

/-- A name has no parts exactly when it has neither letters nor digits. -/
theorem anchorParts_eq_nil_iff {cs : List Char} :
    anchorParts cs = [] ↔ ∀ c ∈ cs, isAlphanumeric c = false := by
  induction cs with
  | nil => exact iff_of_true rfl nofun
  | cons c cs ih =>
    rw [List.forall_mem_cons]
    cases hc : isAlphanumeric c with
    | false =>
      have hrest : anchorParts (c :: cs) = anchorParts cs := anchorParts_append hc [] cs
      rw [hrest, ih]
      simp
    | true =>
      obtain ⟨piece, more, hpieces⟩ :=
        List.exists_cons_of_ne_nil (Text.splitOn_ne_nil '-' (cs.map anchorChar))
      have hparts : anchorParts (c :: cs) ≠ [] := by
        rw [anchorParts, List.map_cons, Text.splitOn, if_neg (anchorChar_ne_hyphen hc), hpieces]
        simp
      simp [hparts]

/-- The name of a part has the anchor of its own name exactly when the name
before the dot has neither letters nor numbers. -/
theorem anchor_dot_eq_iff {name part : String} :
    anchor (name ++ "." ++ part) = anchor part ↔ ∀ c ∈ name.toList, isAlphanumeric c = false := by
  have hparts : anchorParts (name ++ "." ++ part).toList
      = anchorParts name.toList ++ anchorParts part.toList := by
    rw [String.toList_append, String.toList_append, List.append_assoc]
    exact anchorParts_append (by decide) name.toList part.toList
  rw [anchor_eq, anchor_eq, hparts, String.ofList_inj, ← anchorParts_eq_nil_iff]
  by_cases hname : anchorParts name.toList = []
  · rw [hname, List.nil_append]
    exact iff_of_true rfl rfl
  · exact iff_of_false (Text.joinWith_append_ne hname fun p => anchorParts_ne_nil_of_mem) hname

example : anchor "input.required" = "input-required" ∧ anchor "required" = "required" := by
  decide +kernel

end ApiPages.Link
