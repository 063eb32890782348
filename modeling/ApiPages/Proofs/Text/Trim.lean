import ApiPages.Text.List
import Mathlib.Data.List.TakeWhile

/-!
# Trimming

Trimming takes the elements of a class from both ends of a list, and what is
left has none of them at its ends (`isTrimmed_trimWhile`). The rest is put back
by two stretches of the class (`exists_eq_append_trimWhile`), so a list without
them at its ends is found again wherever it is padded with the class
(`IsTrimmed.trimWhile_append`).
-/

namespace ApiPages.Text

variable {α : Type} {p : α → Bool} {cs before after : List α}

/-- Whether no element of a class stands at either end of a list. -/
structure IsTrimmed (p : α → Bool) (cs : List α) : Prop where
  first : ∀ c ∈ cs.head?, p c = false
  last : ∀ c ∈ cs.getLast?, p c = false

/-- What is dropped at the end can be left out before. -/
theorem dropEndWhile_append (h : ∀ c ∈ after, p c = true) :
    dropEndWhile p (cs ++ after) = dropEndWhile p cs := by
  rw [dropEndWhile, dropEndWhile, List.reverse_append,
    List.dropWhile_append_of_pos fun c hc => h c (List.mem_reverse.mp hc)]

/-- Nothing is dropped behind a last element that stays. -/
theorem dropEndWhile_eq_self (h : ∀ c ∈ cs.getLast?, p c = false) : dropEndWhile p cs = cs := by
  have hlast : cs.reverse.dropWhile p = cs.reverse := by
    cases hback : cs.reverse with
    | nil => rfl
    | cons c more =>
      have hc : cs.getLast? = some c := by rw [← List.head?_reverse, hback, List.head?_cons]
      exact List.dropWhile_cons_of_neg (by simp [h c hc])
  rw [dropEndWhile, hlast, List.reverse_reverse]

/-- Only elements that are to go are dropped. -/
theorem exists_eq_dropEndWhile_append (p : α → Bool) (cs : List α) :
    ∃ after, cs = dropEndWhile p cs ++ after ∧ ∀ c ∈ after, p c = true := by
  refine ⟨(cs.reverse.takeWhile p).reverse, ?_, fun c hc => ?_⟩
  · rw [dropEndWhile, ← List.reverse_append, List.takeWhile_append_dropWhile, List.reverse_reverse]
  · exact List.mem_takeWhile_imp (List.mem_reverse.mp hc)

/-- A trimmed list is what is left, and what was cut off at both ends. -/
theorem exists_eq_append_trimWhile (p : α → Bool) (cs : List α) :
    ∃ before after, cs = before ++ trimWhile p cs ++ after
      ∧ (∀ c ∈ before, p c = true) ∧ ∀ c ∈ after, p c = true := by
  obtain ⟨after, hcut, hafter⟩ := exists_eq_dropEndWhile_append p (cs.dropWhile p)
  refine ⟨cs.takeWhile p, after, ?_, fun c hc => List.mem_takeWhile_imp hc, hafter⟩
  rw [List.append_assoc, trimWhile, ← hcut, List.takeWhile_append_dropWhile]

/-- What is trimmed on the left can be left out before. -/
theorem trimWhile_append_left (h : ∀ c ∈ before, p c = true) :
    trimWhile p (before ++ cs) = trimWhile p cs := by
  rw [trimWhile, trimWhile, List.dropWhile_append_of_pos h]

/-- So can what is trimmed on the right. -/
theorem trimWhile_append_right (h : ∀ c ∈ after, p c = true) :
    trimWhile p (cs ++ after) = trimWhile p cs := by
  rw [trimWhile, trimWhile, List.dropWhile_append]
  split
  · next hnone =>
    -- The list is all of the class, and so is what is behind it.
    rw [List.isEmpty_iff.mp hnone, List.dropWhile_eq_nil_iff.mpr h]
  · exact dropEndWhile_append h

/-- What is trimmed stays as it is. -/
theorem IsTrimmed.trimWhile_eq (h : IsTrimmed p cs) : trimWhile p cs = cs := by
  have hfirst : cs.dropWhile p = cs := by
    cases cs with
    | nil => rfl
    | cons c cs => exact List.dropWhile_cons_of_neg (by simp [h.first c rfl])
  rw [trimWhile, hfirst, dropEndWhile_eq_self h.last]

/-- What needs no trimming is found again between stretches of the class. -/
theorem IsTrimmed.trimWhile_append (h : IsTrimmed p cs) (hbefore : ∀ c ∈ before, p c = true)
    (hafter : ∀ c ∈ after, p c = true) : trimWhile p (before ++ cs ++ after) = cs := by
  rw [trimWhile_append_right hafter, trimWhile_append_left hbefore, h.trimWhile_eq]

/-- What trimming leaves needs no more of it. -/
theorem isTrimmed_trimWhile (p : α → Bool) (cs : List α) : IsTrimmed p (trimWhile p cs) where
  first c hc := by
    obtain ⟨after, hcut, -⟩ := exists_eq_dropEndWhile_append p (cs.dropWhile p)
    have hhead := List.head?_dropWhile_not p cs
    have hfirst : (cs.dropWhile p).head? = some c := by
      rw [hcut, ← trimWhile, List.head?_append, Option.mem_def.mp hc, Option.some_or]
    rw [hfirst] at hhead
    exact hhead
  last c hc := by
    have hhead := List.head?_dropWhile_not p (cs.dropWhile p).reverse
    rw [trimWhile, dropEndWhile, List.getLast?_reverse] at hc
    rw [Option.mem_def.mp hc] at hhead
    exact hhead

/-- Nothing is left exactly when all is to go. -/
theorem trimWhile_eq_nil_iff : trimWhile p cs = [] ↔ ∀ c ∈ cs, p c = true := by
  constructor
  · intro h
    obtain ⟨before, after, hcut, hbefore, hafter⟩ := exists_eq_append_trimWhile p cs
    rw [h, List.append_nil] at hcut
    intro c hc
    rw [hcut, List.mem_append] at hc
    exact hc.elim (hbefore c) (hafter c)
  · intro h
    rw [trimWhile, List.dropWhile_eq_nil_iff.mpr h]
    rfl

end ApiPages.Text
