import ApiPages.Text.List

/-!
# Where words occur

A word is looked for from the start of a text. Dropping it succeeds exactly when
the text begins with it (`dropWord?_eq_some_iff`), and it is found exactly when it
stands somewhere in the text (`hasWord_iff`): at the first place where it can
begin, if none of the characters before it is its first one (`cutAt?_append`).
-/

namespace ApiPages.Text

variable {α : Type} [DecidableEq α] {word cs before after rest : List α}

/-- A word is dropped where the text starts with it. -/
theorem dropWord?_eq_some_iff : dropWord? word cs = some rest ↔ cs = word ++ rest :=
  ⟨eq_append_of_dropWord?, fun h => h ▸ dropWord?_append word rest⟩

/-- Nothing is dropped where it does not. -/
theorem dropWord?_eq_none_iff : dropWord? word cs = none ↔ ¬word <+: cs := by
  constructor
  · rintro hnone ⟨rest, rfl⟩
    rw [dropWord?_append] at hnone
    cases hnone
  · intro h
    cases hdrop : dropWord? word cs with
    | none => rfl
    | some rest => exact absurd ⟨rest, (eq_append_of_dropWord? hdrop).symm⟩ h

/-- A text has a word when this stands somewhere in it. -/
theorem hasWord_iff : hasWord word cs = true ↔ word <:+: cs := by
  rw [hasWord]
  induction cs with
  | nil =>
    rw [cutAt?, List.infix_nil]
    cases word with
    | nil => simp
    | cons w ws => simp
  | cons c cs ih =>
    rw [cutAt?, List.infix_cons_iff]
    cases hdrop : dropWord? word (c :: cs) with
    | none => simp [ih, dropWord?_eq_none_iff.mp hdrop]
    | some rest =>
      have hbegins : word <+: c :: cs := ⟨rest, (eq_append_of_dropWord? hdrop).symm⟩
      simp [hbegins]

/-- A word is first found where it stands, if no character before it is its
first one. -/
theorem cutAt?_append (hword : word ≠ []) (h : ∀ c ∈ before, word.head? ≠ some c) :
    cutAt? word (before ++ word ++ after) = some (before, after) := by
  obtain ⟨w, ws, rfl⟩ := List.exists_cons_of_ne_nil hword
  induction before with
  | nil =>
    have hdrop : dropWord? (w :: ws) (w :: (ws ++ after)) = some after :=
      dropWord?_append (w :: ws) after
    rw [List.nil_append, List.cons_append, cutAt?, hdrop]
  | cons c before ih =>
    have hc : w ≠ c := fun e => h c List.mem_cons_self (e ▸ rfl)
    have hrest := ih fun d hd => h d (List.mem_cons_of_mem c hd)
    rw [List.cons_append, List.cons_append, cutAt?, dropWord?, if_neg hc, hrest]
    rfl

end ApiPages.Text
