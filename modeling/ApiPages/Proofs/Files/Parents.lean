import ApiPages.Proofs.Files.Walk

/-!
# The parents of a path

The parents of a path are texts, and each is the segments of the path up to
some point (`parents_cases`). So it starts where the path does
(`isAbsolute_textOf`), is as usable as the path (`Usable.textOf`), and leads
where those segments lead (`segments_textOf`); its own parents are the rest of
the path's (`parents_of_eq_cons`).
-/

namespace ApiPages.Files

/-! ## Paths up to a segment -/

section Prefix

variable {path : String} {segs : List String}

/-- The text of segments is their texts with slashes between. -/
theorem toList_ofSegments (segs : List String) :
    (ofSegments segs).toList = Text.joinWith ['/'] (segs.map String.toList) := by
  rw [ofSegments, String.toList_intercalate, ← Text.joinWith_eq_intercalate]
  rfl

/-- A path is the text of its segments. -/
theorem ofSegments_segments (path : String) : ofSegments (segments path) = path := by
  apply String.ext
  rw [toList_ofSegments, segments, List.map_map]
  simp [Function.comp_def, Text.joinWith_splitOn]

/-- The first segments of a path are read back from their text. -/
theorem segments_of_prefix (hne : segs ≠ []) (h : segs <+: segments path) :
    segments (ofSegments segs) = segs := by
  have hslash : ∀ piece ∈ segs.map String.toList, '/' ∉ piece := by
    intro piece hpiece
    obtain ⟨seg, hseg, rfl⟩ := List.mem_map.mp hpiece
    obtain ⟨cs, hcs, rfl⟩ := List.mem_map.mp (h.subset hseg)
    simpa using Text.not_mem_of_mem_splitOn hcs
  have hpieces : segs.map String.toList ≠ [] := by simpa using hne
  rw [segments, toList_ofSegments, Text.splitOn_joinWith hpieces hslash, List.map_map]
  simp [Function.comp_def]

/-- The first segments of a path are how its text starts. -/
theorem exists_eq_append_of_prefix (hne : segs ≠ []) (h : segs <+: segments path) :
    ∃ rest, path = ofSegments segs ++ rest := by
  obtain ⟨more, hmore⟩ := h
  rw [← ofSegments_segments path, ← hmore]
  by_cases hnil : more = []
  · exact ⟨"", by rw [hnil, List.append_nil, String.append_empty]⟩
  · refine ⟨"/" ++ ofSegments more, ?_⟩
    rw [ofSegments, String.intercalate_append_of_ne_nil hne hnil, String.append_assoc]
    rfl

/-- A part of a usable path is usable. -/
theorem Usable.of_prefix (hu : Usable path) (hne : segs ≠ []) (h : segs <+: segments path) :
    Usable (ofSegments segs) := by
  obtain ⟨rest, hrest⟩ := exists_eq_append_of_prefix hne h
  have hnul := hu.noNul
  have hshort := hu.short
  rw [hrest, String.toList_append] at hnul
  rw [hrest, String.utf8ByteSize_append] at hshort
  exact ⟨fun hmem => hnul (List.mem_append_left _ hmem), by omega⟩

/-- Only a lone empty segment has no text. -/
theorem ofSegments_ne_empty (hne : segs ≠ []) (h : segs <+: segments path) (hlone : segs ≠ [""]) :
    ofSegments segs ≠ "" := by
  intro hempty
  apply hlone
  rw [← segments_of_prefix hne h, hempty]
  decide

/-- A path up to a segment starts where the path does. -/
theorem isAbsolute_of_prefix (hne : segs ≠ []) (h : segs <+: segments path) (hlone : segs ≠ [""]) :
    isAbsolute (ofSegments segs) = isAbsolute path := by
  obtain ⟨rest, hrest⟩ := exists_eq_append_of_prefix hne h
  have hchars : (ofSegments segs).toList ≠ [] := by simpa using ofSegments_ne_empty hne h hlone
  obtain ⟨c, cs, hcs⟩ := List.exists_cons_of_ne_nil hchars
  rw [hrest]
  simp [isAbsolute, hcs]

end Prefix

/-! ## Parents -/

/-- Segments in reverse as the text of a parent: none of them are the root or
the empty path. -/
def textOf (absolute : Bool) (backward : List String) : String :=
  if backward.isEmpty then (if absolute then "/" else "") else ofSegments backward.reverse

section TextOf

variable {path seg : String} {more : List String} (hseg : seg ≠ "")
  (h : more.reverse ++ [seg] <+: segments path)

include hseg in
theorem concat_ne_lone_empty : more.reverse ++ [seg] ≠ [""] := fun heq =>
  hseg (List.mem_singleton.mp (heq ▸ List.mem_concat_self))

/-- A last segment and those before it, in reverse, are written in order. -/
theorem textOf_cons (absolute : Bool) :
    textOf absolute (seg :: more) = ofSegments (more.reverse ++ [seg]) := by
  rw [textOf, List.reverse_cons]
  rfl

include hseg h

/-- So no path around another one is empty. -/
theorem textOf_ne_empty (absolute : Bool) : textOf absolute (seg :: more) ≠ "" := by
  rw [textOf_cons]
  exact ofSegments_ne_empty (by simp) h (concat_ne_lone_empty hseg)

/-- A path around another one starts at the root when that does. -/
theorem isAbsolute_textOf (absolute : Bool) :
    isAbsolute (textOf absolute (seg :: more)) = isAbsolute path := by
  rw [textOf_cons]
  exact isAbsolute_of_prefix (by simp) h (concat_ne_lone_empty hseg)

omit hseg

/-- Its segments are the first of that path. -/
theorem segments_textOf (absolute : Bool) :
    segments (textOf absolute (seg :: more)) = more.reverse ++ [seg] := by
  rw [textOf_cons]
  exact segments_of_prefix (by simp) h

/-- And it is usable with it. -/
theorem Usable.textOf (hu : Usable path) (absolute : Bool) :
    Usable (textOf absolute (seg :: more)) := by
  rw [textOf_cons]
  exact hu.of_prefix (by simp) h

end TextOf

/-- The paths around a path are what is left of it when segments are taken off its end. -/
theorem parents_eq (path : String) :
    parents path = ((outward (segments path).reverse).drop 1).map (textOf (isAbsolute path)) := rfl

theorem outward_ne_nil (backward : List String) : outward backward ≠ [] := by
  fun_induction outward backward <;> simp_all

/-- What lies around some segments is some of them, and does not end in an
empty one. -/
theorem mem_outward {inner backward : List String} (h : inner ∈ outward backward) :
    inner <:+ backward ∧ inner.head? ≠ some "" := by
  fun_induction outward backward with
  | case1 =>
    obtain rfl := List.mem_singleton.mp h
    exact ⟨List.suffix_refl _, nofun⟩
  | case2 =>
    rcases List.mem_pair.mp h with rfl | rfl
    · exact ⟨List.suffix_refl _, by decide⟩
    · exact ⟨List.nil_suffix, nofun⟩
  | case3 seg more _ _ ih => exact ⟨(ih h).1.trans (List.suffix_cons seg more), (ih h).2⟩
  | case4 seg more _ hidle ih =>
    rcases List.mem_cons.mp h with rfl | h
    · exact ⟨List.suffix_refl _, by rintro ⟨⟩; exact hidle rfl⟩
    · exact ⟨(ih h).1.trans (List.suffix_cons seg more), (ih h).2⟩

/-- The segments that stand first have all the others around them. -/
theorem outward_of_eq_cons {backward inner : List String} {around : List (List String)}
    (h : outward backward = inner :: around) : outward inner = inner :: around := by
  fun_induction outward backward with
  | case1 =>
    cases h
    rfl
  | case2 =>
    cases h
    rfl
  | case3 seg more _ _ ih => exact ih h
  | case4 seg more hdot hidle ih =>
    obtain ⟨rfl, rfl⟩ := List.cons.inj h
    rw [outward, if_neg hidle]
    exact hdot

/-- A path has no parents, or they are what its segments before the last that
is not empty have around them. -/
theorem parents_cases (path : String) :
    parents path = [] ∨ ∃ before last after,
      segments path = before ++ last :: after ∧ last ≠ ""
        ∧ parents path = (outward before.reverse).map (textOf (isAbsolute path)) := by
  rw [parents_eq]
  generalize hbackward : (segments path).reverse = backward
  replace hbackward : segments path = backward.reverse := by rw [← hbackward, List.reverse_reverse]
  rw [hbackward]
  clear hbackward
  fun_induction outward backward with
  | case1 => exact Or.inl rfl
  | case2 => exact Or.inr ⟨[], ".", [], rfl, by decide, rfl⟩
  | case3 seg more _ _ ih =>
    rcases ih with hnone | ⟨before, last, after, hmore, hlast, hparents⟩
    · exact Or.inl hnone
    · exact Or.inr ⟨before, last, after ++ [seg], by simp [hmore], hlast, hparents⟩
  | case4 seg more _ hidle ih =>
    refine Or.inr ⟨more.reverse, seg, [], by simp, ne_empty_of_not_isIdle hidle, ?_⟩
    rw [List.reverse_reverse, List.drop_one, List.tail_cons]

/-- The parents of a path that ends in a name are what lies around that. -/
theorem parents_of_segments {path name : String} {before : List String}
    (h : segments path = before ++ [name]) (hidle : isIdle name = false) :
    parents path = (outward before.reverse).map (textOf (isAbsolute path)) := by
  rw [parents_eq, h, List.reverse_append, List.reverse_singleton, List.singleton_append, outward,
    if_neg (by simp [hidle]), List.drop_one, List.tail_cons]
  rintro rfl
  cases hidle

/-- The parents of a path's parent are its other parents. -/
theorem parents_of_eq_cons {path parent : String} {around : List String}
    (h : parents path = parent :: around) : parents parent = around := by
  rcases parents_cases path with hnone | ⟨before, last, after, hsegs, -, hparents⟩
  · rw [hnone] at h
    cases h
  obtain ⟨inner, outer, hinner⟩ := List.exists_cons_of_ne_nil (outward_ne_nil before.reverse)
  rw [hparents, hinner, List.map_cons] at h
  obtain ⟨rfl, rfl⟩ := List.cons.inj h
  have hself := outward_of_eq_cons hinner
  have hmem : inner ∈ outward before.reverse := hinner ▸ List.mem_cons_self
  obtain ⟨hsuffix, hhead⟩ := mem_outward hmem
  cases inner with
  | nil =>
    obtain rfl : outer = [] := by simpa [outward] using hself.symm
    cases isAbsolute path <;> decide
  | cons seg more =>
    have hseg : seg ≠ "" := fun hempty => hhead (by rw [hempty]; rfl)
    have hpre : more.reverse ++ [seg] <+: segments path := by
      rw [hsegs, ← List.reverse_cons]
      exact (List.reverse_suffix.mp (by simpa using hsuffix)).trans (List.prefix_append _ _)
    rw [parents_eq, segments_textOf hpre, isAbsolute_textOf hseg hpre,
      List.reverse_append, List.reverse_reverse, List.reverse_singleton, List.singleton_append,
      hself, List.drop_one, List.tail_cons]

end ApiPages.Files
