import ApiPages.Text.Bytes

/-!
# Cuts by bytes

Cutting a text at a byte works exactly between two characters: the bytes must be
those of what stands before (`fromByte_eq_ok_iff`). The first occurrence of a word
is such a place, and so is the end of it.
-/

namespace ApiPages.Text

/-- Lengths in bytes add up. -/
theorem byteLength_append (cs rest : List Char) :
    byteLength (cs ++ rest) = byteLength cs + byteLength rest := by
  induction cs with
  | nil => simp [byteLength]
  | cons c cs ih => rw [List.cons_append, byteLength, byteLength, ih, Nat.add_assoc]

/-! ## Cuts -/

/-- A cut behind some text leaves what follows it. -/
theorem go_byteLength (byte : Nat) (before rest : List Char) :
    fromByte.go byte (byteLength before) (before ++ rest) = .ok rest := by
  induction before with
  | nil =>
    cases rest <;> rfl
  | cons c before ih =>
    obtain ⟨size, hsize⟩ := Nat.exists_eq_add_one.mpr c.utf8Size_pos
    have hleft : byteLength (c :: before) = size + byteLength before + 1 := by
      rw [byteLength, hsize]
      omega
    rw [hleft, List.cons_append, fromByte.go, if_pos (by omega)]
    have hpassed : size + byteLength before + 1 - c.utf8Size = byteLength before := by omega
    rw [hpassed, ih]

/-- And a cut that is not refused is behind some text. -/
theorem exists_of_go {byte left : Nat} {cs rest : List Char}
    (h : fromByte.go byte left cs = .ok rest) :
    ∃ before, cs = before ++ rest ∧ byteLength before = left := by
  induction cs generalizing left with
  | nil =>
    cases left with
    | zero =>
      cases h
      exact ⟨[], rfl, rfl⟩
    | succ left => cases h
  | cons c cs ih =>
    cases left with
    | zero =>
      cases h
      exact ⟨[], rfl, rfl⟩
    | succ left =>
      rw [fromByte.go] at h
      split at h
      · next hle =>
        obtain ⟨before, rfl, hbefore⟩ := ih h
        exact ⟨c :: before, rfl, by rw [byteLength, hbefore]; omega⟩
      · cases h

/-- A text is cut exactly between two characters. -/
theorem fromByte_eq_ok_iff {byte : Nat} {cs rest : List Char} :
    fromByte byte cs = .ok rest ↔ ∃ before, cs = before ++ rest ∧ byteLength before = byte := by
  constructor
  · exact exists_of_go
  · rintro ⟨before, rfl, rfl⟩
    exact go_byteLength _ before rest

end ApiPages.Text
