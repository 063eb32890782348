import ApiPages.Text.List

/-!
# Pieces of a text

A text is cut at a separator and put together again. The pieces of a text hold
no separator, and pieces that hold none are found again in what they join to,
so cutting and joining are inverse to each other (`splitOn_joinWith`, beside
`joinWith_splitOn`). Both respect what stands next to a separator: the pieces
of a text are those of what precedes it and then those of what follows
(`splitOn_append_cons`, `joinWith_append`). An empty piece tells of a separator at
an end of the text or beside another one (`nil_mem_splitOn_iff`).
-/

namespace ApiPages.Text

variable {α : Type}

/-! ## Cutting -/

section Cutting

variable [DecidableEq α] {sep : α}

/-- A separator cuts the pieces of what precedes it from those of what
follows. -/
theorem splitOn_append_cons (sep : α) (cs after : List α) :
    splitOn sep (cs ++ sep :: after) = splitOn sep cs ++ splitOn sep after := by
  induction cs with
  | nil => simp [splitOn]
  | cons c cs ih =>
    by_cases hc : c = sep
    · simp [splitOn, hc, ih]
    · obtain ⟨piece, more, hpieces⟩ := List.exists_cons_of_ne_nil (splitOn_ne_nil sep cs)
      simp [splitOn, hc, ih, hpieces]

/-- What has no separator is one piece. -/
theorem splitOn_of_not_mem {cs : List α} (h : sep ∉ cs) : splitOn sep cs = [cs] := by
  induction cs with
  | nil => rfl
  | cons c cs ih =>
    have hc : c ≠ sep := fun e => h (e ▸ List.mem_cons_self)
    simp [splitOn, hc, ih fun hcs => h (List.mem_cons_of_mem _ hcs)]

/-- Pieces hold no separator. -/
theorem not_mem_of_mem_splitOn {cs piece : List α} (h : piece ∈ splitOn sep cs) :
    sep ∉ piece := by
  induction cs generalizing piece with
  | nil =>
    obtain rfl := List.mem_singleton.mp h
    exact List.not_mem_nil
  | cons c cs ih =>
    obtain ⟨first, more, hpieces⟩ := List.exists_cons_of_ne_nil (splitOn_ne_nil sep cs)
    rw [hpieces] at ih
    by_cases hc : c = sep
    · rw [splitOn, if_pos hc, hpieces, List.mem_cons] at h
      rcases h with rfl | h
      · exact List.not_mem_nil
      · exact ih h
    · simp only [splitOn, if_neg hc, hpieces, List.mem_cons] at h
      rcases h with rfl | h
      · -- The first piece is longer by an element that is no separator.
        rw [List.mem_cons, not_or]
        exact ⟨Ne.symm hc, ih List.mem_cons_self⟩
      · exact ih (List.mem_cons_of_mem first h)

/-- Text without a separator lengthens the last piece. -/
theorem exists_splitOn_append (sep : α) (cs : List α) :
    ∃ pieces last, ∀ after, sep ∉ after →
      splitOn sep (cs ++ after) = pieces ++ [last ++ after] := by
  induction cs with
  | nil => exact ⟨[], [], fun after h => splitOn_of_not_mem h⟩
  | cons c cs ih =>
    obtain ⟨pieces, last, hpieces⟩ := ih
    by_cases hc : c = sep
    · refine ⟨[] :: pieces, last, fun after h => ?_⟩
      simp [splitOn, hc, hpieces after h]
    · cases pieces with
      | nil =>
        refine ⟨[], c :: last, fun after h => ?_⟩
        have hrest := hpieces after h
        simp only [List.nil_append] at hrest
        simp [splitOn, hc, hrest]
      | cons piece more =>
        refine ⟨(c :: piece) :: more, last, fun after h => ?_⟩
        simp [splitOn, hc, hpieces after h]

/-- Pieces hold what they were cut from. -/
theorem mem_of_mem_splitOn {x : α} {piece cs : List α} (hpiece : piece ∈ splitOn sep cs)
    (hx : x ∈ piece) : x ∈ cs := by
  induction cs generalizing piece with
  | nil =>
    obtain rfl := List.mem_singleton.mp hpiece
    exact hx
  | cons c cs ih =>
    obtain ⟨first, more, hpieces⟩ := List.exists_cons_of_ne_nil (splitOn_ne_nil sep cs)
    rw [hpieces] at ih
    by_cases hc : c = sep
    · rw [splitOn, if_pos hc, hpieces, List.mem_cons] at hpiece
      rcases hpiece with rfl | hpiece
      · cases hx
      · exact List.mem_cons_of_mem c (ih hpiece hx)
    · simp only [splitOn, if_neg hc, hpieces, List.mem_cons] at hpiece
      rcases hpiece with rfl | hpiece
      · -- The first piece is longer by the first element.
        rcases List.mem_cons.mp hx with rfl | hx
        · exact List.mem_cons_self
        · exact List.mem_cons_of_mem c (ih List.mem_cons_self hx)
      · exact List.mem_cons_of_mem c (ih (List.mem_cons_of_mem first hpiece) hx)

end Cutting

/-! ## Joining -/

section Joining

variable {between : List α} {ps qs : List (List α)}

/-- In front of other pieces a piece is joined with what stands between. -/
theorem joinWith_cons {p : List α} (h : qs ≠ []) :
    joinWith between (p :: qs) = p ++ between ++ joinWith between qs := by
  obtain ⟨q, more, rfl⟩ := List.exists_cons_of_ne_nil h
  rfl

/-- So are two lists of pieces, when neither is empty. -/
theorem joinWith_append (hp : ps ≠ []) (hq : qs ≠ []) :
    joinWith between (ps ++ qs) = joinWith between ps ++ between ++ joinWith between qs := by
  induction ps with
  | nil => exact absurd rfl hp
  | cons p ps ih =>
    by_cases hps : ps = []
    · rw [hps, List.singleton_append, joinWith_cons hq]
      rfl
    · rw [List.cons_append, joinWith_cons (List.append_ne_nil_of_left_ne_nil hps qs), ih hps,
        joinWith_cons hps]
      simp only [List.append_assoc]

/-- Pieces with something in them join to something. -/
theorem joinWith_ne_nil (hp : ps ≠ []) (h : ∀ p ∈ ps, p ≠ []) : joinWith between ps ≠ [] := by
  obtain ⟨p, more, rfl⟩ := List.exists_cons_of_ne_nil hp
  have hfirst : p ≠ [] := h p List.mem_cons_self
  cases more with
  | nil => exact hfirst
  | cons q more =>
    rw [joinWith_cons (List.cons_ne_nil q more)]
    simp [hfirst]

/-- More pieces make a longer text. -/
theorem joinWith_append_ne (hp : ps ≠ []) (h : ∀ p ∈ ps, p ≠ []) :
    joinWith between (ps ++ qs) ≠ joinWith between qs := by
  by_cases hq : qs = []
  · rw [hq, List.append_nil]
    exact joinWith_ne_nil hp h
  · intro heq
    have hlength := congrArg List.length heq
    have hpos : 0 < (joinWith between ps).length := List.length_pos_iff.mpr (joinWith_ne_nil hp h)
    rw [joinWith_append hp hq, List.length_append, List.length_append] at hlength
    omega

/-- What is joined comes from the pieces or stands between them. -/
theorem mem_joinWith {x : α} {pieces : List (List α)} (h : x ∈ joinWith between pieces) :
    x ∈ between ∨ ∃ piece ∈ pieces, x ∈ piece := by
  induction pieces with
  | nil => cases h
  | cons piece more ih =>
    cases more with
    | nil => exact Or.inr ⟨piece, List.mem_cons_self, h⟩
    | cons next more =>
      change x ∈ piece ++ between ++ joinWith between (next :: more) at h
      rw [List.append_assoc, List.mem_append, List.mem_append] at h
      rcases h with h | h | h
      · exact Or.inr ⟨piece, List.mem_cons_self, h⟩
      · exact Or.inl h
      · obtain hbetween | ⟨p, hp, hx⟩ := ih h
        · exact Or.inl hbetween
        · exact Or.inr ⟨p, List.mem_cons_of_mem piece hp, hx⟩

theorem joinWith_eq_intercalate (between : List α) (ps : List (List α)) :
    joinWith between ps = between.intercalate ps := by
  induction ps with
  | nil => rfl
  | cons p more ih =>
    cases more with
    | nil => simp [joinWith]
    | cons q more => rw [joinWith_cons (List.cons_ne_nil q more), ih, List.intercalate_cons_cons]

end Joining

/-- Pieces without separators are found again. -/
theorem splitOn_joinWith [DecidableEq α] {sep : α} :
    ∀ {pieces : List (List α)}, pieces ≠ [] → (∀ piece ∈ pieces, sep ∉ piece) →
      splitOn sep (joinWith [sep] pieces) = pieces
  | [], h, _ => absurd rfl h
  | [piece], _, h => splitOn_of_not_mem (h piece List.mem_cons_self)
  | piece :: next :: more, _, h => by
    have hrest := splitOn_joinWith (List.cons_ne_nil next more)
      fun p hp => h p (List.mem_cons_of_mem _ hp)
    rw [joinWith, List.append_assoc, List.singleton_append, splitOn_append_cons, hrest,
      splitOn_of_not_mem (h piece List.mem_cons_self), List.singleton_append]
    exact List.cons_ne_nil _ _

/-- A piece is empty exactly where a separator has no neighbour on one side: at
either end, or beside another separator. -/
theorem nil_mem_splitOn_iff [DecidableEq α] {sep : α} {cs : List α} :
    [] ∈ splitOn sep cs
      ↔ cs = [] ∨ cs.head? = some sep ∨ cs.getLast? = some sep ∨ [sep, sep] <:+: cs := by
  constructor
  · intro h
    obtain ⟨before, after, hpieces⟩ := List.append_of_mem h
    have hjoin := joinWith_splitOn sep cs
    rw [hpieces] at hjoin
    by_cases hbefore : before = []
    · by_cases hafter : after = []
      · rw [hbefore, hafter] at hjoin
        exact Or.inl hjoin.symm
      · rw [hbefore, List.nil_append, joinWith_cons hafter] at hjoin
        exact Or.inr (Or.inl (by rw [← hjoin]; rfl))
    · rw [joinWith_append hbefore (List.cons_ne_nil _ _)] at hjoin
      by_cases hafter : after = []
      · rw [hafter] at hjoin
        exact Or.inr (Or.inr (Or.inl (by rw [← hjoin]; simp [joinWith])))
      · rw [joinWith_cons hafter] at hjoin
        exact Or.inr (Or.inr (Or.inr ⟨joinWith [sep] before, joinWith [sep] after, by
          rw [← hjoin]; simp⟩))
  · rintro (rfl | hfirst | hlast | ⟨before, after, rfl⟩)
    · exact List.mem_singleton_self []
    · obtain ⟨more, rfl⟩ := List.head?_eq_some_iff.mp hfirst
      rw [splitOn, if_pos rfl]
      exact List.mem_cons_self
    · obtain ⟨before, rfl⟩ := List.getLast?_eq_some_iff.mp hlast
      rw [splitOn_append_cons]
      exact List.mem_append_right _ (List.mem_singleton_self [])
    · rw [List.append_assoc, List.cons_append, splitOn_append_cons, List.singleton_append, splitOn,
        if_pos rfl]
      exact List.mem_append_right _ List.mem_cons_self

end ApiPages.Text
