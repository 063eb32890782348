import Mathlib.Data.List.Perm.Basic

/-!
# Lookups in lists of pairs

The value under a key is that of the first pair with the key. Pairs with other
keys have no say in it (`lookup_filter_of_pos`), and when each key stands once,
their order has none (`lookup_of_perm`).
-/

namespace ApiPages

variable {α β : Type} [BEq α] [LawfulBEq α] {o o' : List (α × β)} {key : α} {v : β}

section

variable {p : α → Bool}

/-- A key that stays is found as before. -/
theorem lookup_filter_of_pos (h : p key = true) :
    (o.filter fun field => p field.1).lookup key = o.lookup key := by
  induction o with
  | nil => rfl
  | cons field o ih =>
    obtain ⟨k, v⟩ := field
    by_cases hk : key = k
    · subst hk
      rw [List.filter_cons, if_pos h, List.lookup_cons_self, List.lookup_cons_self]
    · rw [List.lookup_cons, beq_eq_false_iff_ne.mpr hk, ← ih, List.filter_cons]
      split
      · rw [List.lookup_cons, beq_eq_false_iff_ne.mpr hk]
      · rfl

/-- A key that goes is not found. -/
theorem lookup_filter_of_neg (h : p key = false) :
    (o.filter fun field => p field.1).lookup key = none := by
  rw [List.lookup_eq_none_iff]
  intro field hfield
  rw [bne_iff_ne]
  rintro rfl
  rw [(List.mem_filter.mp hfield).2] at h
  cases h

end

/-- With distinct keys, a value is found exactly where it stands. -/
theorem lookup_eq_some_iff_mem (h : (o.map Prod.fst).Nodup) :
    o.lookup key = some v ↔ (key, v) ∈ o := by
  constructor
  · intro hv
    obtain ⟨front, back, rfl, -⟩ := List.lookup_eq_some_iff.mp hv
    simp
  · intro hmem
    obtain ⟨front, back, rfl⟩ := List.append_of_mem hmem
    refine List.lookup_eq_some_iff.mpr ⟨front, back, rfl, fun field hfield => ?_⟩
    -- The key stands once, so nothing ahead of it has it too.
    rw [List.map_append, List.nodup_append] at h
    rw [bne_iff_ne]
    exact Ne.symm (h.2.2 field.1 (List.mem_map_of_mem hfield) key (by simp))

/-- With distinct keys, the order of the fields does not matter. -/
theorem lookup_of_perm (hkeys : (o.map Prod.fst).Nodup) (h : o.Perm o') :
    o.lookup key = o'.lookup key := by
  have hkeys' : (o'.map Prod.fst).Nodup := (h.map Prod.fst).nodup_iff.mp hkeys
  refine Option.ext fun v => ?_
  rw [lookup_eq_some_iff_mem hkeys, lookup_eq_some_iff_mem hkeys', h.mem_iff]

end ApiPages
