import ApiPages.Text.Lowercase

/-!
# Small letters around uncased text

The small letter of a sigma hangs on its neighbours, so `lowercase` is no
homomorphism: the small letters of two halves are not those of the whole.
They are when something uncased stands between the halves. `Uncased` names
the characters that keep their spelling and that no search for a cased
neighbour passes; `lowercaseFrom_around` cuts a text at a run of them.
-/

namespace ApiPages.Text

/-- A character that is its own small letter and ends every search for a
cased neighbour: it is neither cased nor passed over. -/
structure Uncased (c : Char) : Prop where
  notIgnorable : inRanges c.toNat caseIgnorableRanges = false
  notCased : inRanges c.toNat casedRanges = false
  notSigma : (c.toNat == 0x3A3) = false
  small : lowercaseChar c = [c]

/-- A search for a cased neighbour ends at an uncased character. -/
theorem casedNext_append_uncased {d : Char} (hd : Uncased d) (cs after : List Char) :
    casedNext (cs ++ d :: after) = casedNext cs := by
  induction cs with
  | nil => simp [casedNext, hd.notIgnorable, hd.notCased]
  | cons c cs ih =>
    unfold casedNext at ih ⊢
    by_cases hc : inRanges c.toNat caseIgnorableRanges = true
    · simpa only [List.cons_append, List.dropWhile_cons, hc, if_true] using ih
    · simp only [List.cons_append, List.dropWhile_cons, hc, Bool.false_eq_true, if_false]

/-- What precedes an uncased character has no say in what follows it. -/
theorem lowercaseFrom_past_uncased {d : Char} (hd : Uncased d) (before : List Char) :
    ∀ near cs : List Char, lowercaseFrom (near ++ d :: before) cs = lowercaseFrom near cs
  | _, [] => rfl
  | near, c :: cs => by
    have hrest := lowercaseFrom_past_uncased hd before (c :: near) cs
    simp only [List.cons_append] at hrest
    simp only [lowercaseFrom, casedNext_append_uncased hd, hrest]

/-- What follows an uncased character has no say in what precedes it. -/
theorem lowercaseFrom_append_uncased {d : Char} (hd : Uncased d) (after : List Char) :
    ∀ before cs : List Char,
      lowercaseFrom before (cs ++ d :: after)
        = lowercaseFrom before cs ++ lowercaseFrom (cs.reverse ++ before) (d :: after)
  | _, [] => rfl
  | before, c :: cs => by
    have hrest := lowercaseFrom_append_uncased hd after (c :: before) cs
    simp only [List.cons_append, lowercaseFrom, casedNext_append_uncased hd, List.reverse_cons,
      List.append_assoc, List.nil_append] at hrest ⊢
    rw [hrest]

/-- Uncased characters stay as they are. -/
theorem lowercaseFrom_uncased_append {ds : List Char} (hds : ∀ d ∈ ds, Uncased d)
    (before after : List Char) :
    lowercaseFrom before (ds ++ after) = ds ++ lowercaseFrom (ds.reverse ++ before) after := by
  induction ds generalizing before with
  | nil => rfl
  | cons d ds ih =>
    have hd := hds d List.mem_cons_self
    have hrest := ih (fun x hx => hds x (List.mem_cons_of_mem _ hx)) (d :: before)
    simp only [List.cons_append, lowercaseFrom, hd.notSigma, Bool.false_eq_true, if_false, hd.small,
      hrest, List.reverse_cons, List.append_assoc, List.nil_append]

/-- A text with a run of uncased characters in it is put in small letters
part by part. -/
theorem lowercaseFrom_around {ds : List Char} (hds : ∀ d ∈ ds, Uncased d) (hne : ds ≠ [])
    (before cs after : List Char) :
    lowercaseFrom before (cs ++ ds ++ after)
      = lowercaseFrom before cs ++ ds ++ lowercaseFrom [] after := by
  obtain ⟨d, more, rfl⟩ := List.exists_cons_of_ne_nil hne
  have hd := hds d List.mem_cons_self
  have hsplit : lowercaseFrom before (cs ++ d :: more ++ after)
      = lowercaseFrom before cs
        ++ lowercaseFrom (cs.reverse ++ before) ((d :: more) ++ after) := by
    simpa only [List.append_assoc, List.cons_append] using
      lowercaseFrom_append_uncased hd (more ++ after) before cs
  -- The last of the run is the one that stands next to `after`.
  obtain ⟨front, e, he⟩ := (List.eq_nil_or_concat (d :: more)).resolve_left hne
  have hlast := hds e (he ▸ by simp)
  have hpast : lowercaseFrom ((d :: more).reverse ++ (cs.reverse ++ before)) after
      = lowercaseFrom [] after := by
    rw [he, List.concat_eq_append, List.reverse_append, List.reverse_singleton,
      List.singleton_append, List.cons_append]
    exact lowercaseFrom_past_uncased hlast _ [] after
  rw [hsplit, lowercaseFrom_uncased_append hds, hpast, List.append_assoc]

/-- How many small letters a character has does not hang on its neighbours. -/
theorem length_lowercaseFrom (before cs : List Char) :
    (lowercaseFrom before cs).length = (cs.flatMap fun c => lowercaseFrom [] [c]).length := by
  induction cs generalizing before with
  | nil => rfl
  | cons c cs ih =>
    rw [List.flatMap_cons, List.length_append, ← ih (c :: before)]
    by_cases hsigma : c.toNat = 0x3A3
    · simp [lowercaseFrom, hsigma, Nat.add_comm]
    · simp [lowercaseFrom, hsigma]

/-- A hyphen is uncased. -/
theorem uncased_hyphen : Uncased '-' := ⟨by decide, by decide, by decide, by decide⟩

/-- A digit is uncased. -/
theorem uncased_of_isDigit {c : Char} (h : c.isDigit = true) : Uncased c := by
  have hbounds : 48 ≤ c.toNat ∧ c.toNat ≤ 57 := by
    simpa [Char.isDigit, UInt32.le_iff_toNat_le] using h
  have hall : ∀ n ∈ List.range' 48 10,
      inRanges (Char.ofNat n).toNat caseIgnorableRanges = false
        ∧ inRanges (Char.ofNat n).toNat casedRanges = false
        ∧ ((Char.ofNat n).toNat == 0x3A3) = false
        ∧ lowercaseChar (Char.ofNat n) = [Char.ofNat n] := by decide
  have hc := hall c.toNat (List.mem_range'_1.mpr ⟨hbounds.1, by omega⟩)
  rw [Char.ofNat_toNat] at hc
  obtain ⟨hignorable, hcased, hsigma, hsmall⟩ := hc
  exact ⟨hignorable, hcased, hsigma, hsmall⟩

end ApiPages.Text
