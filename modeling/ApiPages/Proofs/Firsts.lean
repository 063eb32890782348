import Mathlib.Data.List.Dedup
import Mathlib.Data.List.Forall2

/-!
# The first of each key

Grouping and indexing keep one element of each key, the first, and every
element without a key. `firsts` is what they keep. It stands in its order, at
the places at which a key begins (`exists_places`), and it holds each of the
keys once (`keys_firsts_perm`).
-/

namespace ApiPages

variable {α : Type} (key : α → Option String)

/-- A list without the elements whose key one before them has; those without a
key all stay. -/
def firsts : List α → List α
  | [] => []
  | x :: xs => x :: (firsts xs).filter fun y => (key y).isNone || key y != key x

/-- Whether a key stands at a place and is the first of its kind there. -/
def Begins (keys : List (Option String)) (i : Nat) : Prop :=
  ∃ k, keys[i]? = some k ∧ (k ∈ keys.take i → k = none)

theorem begins_zero (k : Option String) (keys : List (Option String)) : Begins (k :: keys) 0 :=
  ⟨k, rfl, fun h => absurd h List.not_mem_nil⟩

/-- One more key ahead takes the places of its own kind away. -/
theorem begins_succ_iff {k : Option String} {keys : List (Option String)} {i : Nat} :
    Begins (k :: keys) (i + 1)
      ↔ Begins keys i ∧ ∃ k', keys[i]? = some k' ∧ (k'.isNone || k' != k) = true := by
  simp only [Begins, List.getElem?_cons_succ, List.take_succ_cons, List.mem_cons, Bool.or_eq_true,
    Option.isNone_iff_eq_none, bne_iff_ne]
  constructor
  · rintro ⟨k', hk', hfirst⟩
    refine ⟨⟨k', hk', fun h => hfirst (Or.inr h)⟩, k', hk', ?_⟩
    by_cases hsame : k' = k
    · exact Or.inl (hfirst (Or.inl hsame))
    · exact Or.inr hsame
  · rintro ⟨⟨k', hk', hfirst⟩, k'', hk'', hother⟩
    obtain rfl := Option.some.inj (hk'.symm.trans hk'')
    refine ⟨k', hk', ?_⟩
    rintro (hsame | hmem)
    · exact hother.resolve_right fun hne => hne hsame
    · exact hfirst hmem

/-- What stays is what begins something, in its order. -/
theorem exists_places (xs : List α) :
    ∃ places : List Nat, places.Pairwise (· < ·) ∧ (∀ i, i ∈ places ↔ Begins (xs.map key) i)
      ∧ places.map (xs[·]?) = (firsts key xs).map some := by
  induction xs with
  | nil =>
    refine ⟨[], List.Pairwise.nil, fun i => iff_of_false List.not_mem_nil ?_, rfl⟩
    rintro ⟨k, hk, -⟩
    cases hk
  | cons x xs ih =>
    obtain ⟨places, hsorted, hmem, hat⟩ := ih
    let stays (found : Option α) : Bool := found.any fun y => (key y).isNone || key y != key x
    refine ⟨0 :: (places.filter fun i => stays xs[i]?).map (· + 1), ?_, ?_, ?_⟩
    · refine List.pairwise_cons.mpr ⟨fun i hi => ?_, ?_⟩
      · obtain ⟨j, -, rfl⟩ := List.mem_map.mp hi
        exact Nat.succ_pos j
      · exact List.pairwise_map.mpr ((hsorted.filter _).imp Nat.succ_lt_succ)
    · intro i
      cases i with
      | zero => exact iff_of_true List.mem_cons_self (begins_zero _ _)
      | succ i =>
        have hstays : stays xs[i]? = true
            ↔ ∃ k, (xs.map key)[i]? = some k ∧ (k.isNone || k != key x) = true := by
          rw [List.getElem?_map]
          cases xs[i]? <;> simp [stays]
        rw [List.map_cons, begins_succ_iff, ← hmem, ← hstays]
        simp
    · have hrest : (places.filter fun i => stays xs[i]?).map (xs[·]?)
          = ((firsts key xs).filter fun y => (key y).isNone || key y != key x).map some := by
        have hfilter := congrArg (List.filter stays) hat
        rw [List.filter_map, List.filter_map] at hfilter
        exact hfilter
      rw [firsts, List.map_cons, List.map_cons, List.map_map, ← hrest]
      rfl

/-- Elements without a key all stay. -/
theorem filter_isNone_firsts (xs : List α) :
    (firsts key xs).filter (fun y => (key y).isNone) = xs.filter fun y => (key y).isNone := by
  induction xs with
  | nil => rfl
  | cons x xs ih =>
    have hrest : ((firsts key xs).filter fun y => (key y).isNone || key y != key x).filter
        (fun y => (key y).isNone) = xs.filter fun y => (key y).isNone := by
      rw [List.filter_filter, ← ih]
      refine List.filter_congr fun y _ => ?_
      cases (key y).isNone <;> rfl
    rw [firsts, List.filter_cons, List.filter_cons, hrest]

variable {key} in
/-- The first elements are elements. -/
theorem mem_of_mem_firsts {xs : List α} {x : α} (h : x ∈ firsts key xs) : x ∈ xs := by
  induction xs with
  | nil => exact h
  | cons y xs ih =>
    rcases List.mem_cons.mp h with rfl | h
    · exact List.mem_cons_self
    · exact List.mem_cons_of_mem y (ih (List.mem_filter.mp h).1)

/-- Every key stays. -/
theorem exists_mem_firsts {xs : List α} {x : α} (h : x ∈ xs) :
    ∃ y ∈ firsts key xs, key y = key x := by
  induction xs with
  | nil => cases h
  | cons z xs ih =>
    by_cases hsame : key z = key x
    · exact ⟨z, List.mem_cons_self, hsame⟩
    · have hmem : x ∈ xs := by
        rcases List.mem_cons.mp h with rfl | h
        · exact absurd rfl hsame
        · exact h
      obtain ⟨y, hy, hkey⟩ := ih hmem
      refine ⟨y, List.mem_cons_of_mem z (List.mem_filter.mpr ⟨hy, ?_⟩), hkey⟩
      rw [hkey, Bool.or_eq_true, bne_iff_ne]
      exact Or.inr (Ne.symm hsame)

/-- What goes with the elements one by one goes with those that stay. -/
theorem forall₂_firsts {β : Type} {key : α → Option String} {key' : β → Option String}
    {R : α → β → Prop} (hkey : ∀ x y, R x y → key x = key' y) {xs : List α} {ys : List β}
    (h : List.Forall₂ R xs ys) : List.Forall₂ R (firsts key xs) (firsts key' ys) := by
  induction h with
  | nil => exact .nil
  | @cons x y xs ys hxy _ ih =>
    refine .cons hxy (List.rel_filter (fun a b hab => ?_) ih)
    dsimp only
    rw [hkey a b hab, hkey x y hxy]

/-- Each key stays once. -/
theorem nodup_keys_firsts (xs : List α) : ((firsts key xs).filterMap key).Nodup := by
  induction xs with
  | nil => exact List.nodup_nil
  | cons x xs ih =>
    have hrest : (((firsts key xs).filter fun y => (key y).isNone || key y != key x).filterMap
        key).Nodup := ih.sublist (List.filter_sublist.filterMap key)
    cases hkey : key x with
    | none => rwa [firsts, List.filterMap_cons_none hkey]
    | some k =>
      rw [firsts, List.filterMap_cons_some hkey, List.nodup_cons]
      refine ⟨fun hmem => ?_, hrest⟩
      obtain ⟨y, hy, hyk⟩ := List.mem_filterMap.mp hmem
      have hne := (List.mem_filter.mp hy).2
      simp [hyk, hkey] at hne

/-- The keys that stay are the different ones. -/
theorem keys_firsts_perm (xs : List α) :
    ((firsts key xs).filterMap key).Perm (xs.filterMap key).dedup := by
  rw [List.perm_ext_iff_of_nodup (nodup_keys_firsts key xs) (List.nodup_dedup _)]
  intro k
  rw [List.mem_dedup, List.mem_filterMap, List.mem_filterMap]
  constructor
  · rintro ⟨x, hx, hkey⟩
    exact ⟨x, mem_of_mem_firsts hx, hkey⟩
  · rintro ⟨x, hx, hkey⟩
    obtain ⟨y, hy, hsame⟩ := exists_mem_firsts key hx
    exact ⟨y, hy, hsame.trans hkey⟩

/-- Elements with and without a key are all there are. -/
theorem length_eq_keyless_add_keys (xs : List α) :
    xs.length = (xs.filter fun x => (key x).isNone).length + (xs.filterMap key).length := by
  induction xs with
  | nil => rfl
  | cons x xs ih =>
    cases hkey : key x with
    | none => rw [List.filterMap_cons_none hkey, List.filter_cons, hkey]; simp; omega
    | some k => rw [List.filterMap_cons_some hkey, List.filter_cons, hkey]; simp; omega

end ApiPages
