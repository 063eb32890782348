import ApiPages.Proofs.Files.Place
import ApiPages.Proofs.Page.Plan

/-!
# The names of pages as paths

Every name that an entry asks for ends in `.html`, and a number goes before
that. So a page and the name that was asked for differ in their last segment
alone, and are both contained in the directory they are joined to or
neither: what decides is the free text that the name was made of.
-/

namespace ApiPages.Page

/-- What all pages end in. -/
def ending : List Char := ".html".toList

/-! ## Names and their endings -/

/-- Every entry asks for a name with the ending. -/
theorem exists_requestedName (moduleName : String) (e : Entry) (cs : List Collection) :
    ∃ stem, (requestedName moduleName e cs).toList = stem ++ ending := by
  unfold requestedName
  split
  · unfold commandName
    split <;> exact ⟨_, String.toList_append⟩
  · exact ⟨_, String.toList_append⟩

/-- The ending is what is cut off. -/
theorem cutExtension_append_ending (stem : List Char) :
    cutExtension (stem ++ ending) = (stem, ending) := by
  simp [cutExtension, ending]

/-- A number goes before the ending. -/
theorem toList_numbered_of_ending {name : String} {stem : List Char}
    (h : name.toList = stem ++ ending) (k : Nat) :
    (numbered name k).toList = stem ++ ('-' :: Nat.toDigits 10 k ++ ending) := by
  rw [toList_numbered, h, cutExtension_append_ending, List.append_assoc]

/-- Neither the hyphen nor a digit is a slash. -/
theorem slash_not_mem_suffix (k : Nat) : '/' ∉ '-' :: Nat.toDigits 10 k := by
  intro hmem
  rcases List.mem_cons.mp hmem with hhyphen | hdigit
  · simp at hhyphen
  · have := Nat.isDigit_of_mem_toDigits (by decide) (by decide) hdigit
    simp [Char.isDigit] at this

/-- A page is the name that its entry asks for with something put before the
ending that has no slash. -/
theorem Plan.exists_stem_of_assign_page? {cs : List Collection} {c e : Nat}
    {collection : Collection} {entry : Entry} {page : String} (hc : cs[c]? = some collection)
    (he : collection.entries[e]? = some entry) (h : (assign cs).page? c e = some page) :
    ∃ stem suffix, (requestedName collection.moduleName entry cs).toList = stem ++ ending
      ∧ page.toList = stem ++ (suffix ++ ending) ∧ '/' ∉ suffix := by
  obtain ⟨collection', entry', hc', he', hr⟩ := exists_entry_of_assign_page? h
  obtain rfl := Option.some.inj (hc.symm.trans hc')
  obtain rfl := Option.some.inj (he.symm.trans he')
  obtain ⟨taken, -, hclaim⟩ := assign_page? hc he hr
  obtain ⟨stem, hstem⟩ := exists_requestedName collection.moduleName entry cs
  have hpage := Option.some.inj (h.symm.trans hclaim)
  rcases claim_cases taken (requestedName collection.moduleName entry cs) with
    ⟨-, hkept⟩ | ⟨-, k, -, hnumber, -, -⟩
  · exact ⟨stem, [], hstem, by rw [hpage, hkept, hstem, List.nil_append], by simp⟩
  · refine ⟨stem, '-' :: Nat.toDigits 10 k, hstem, ?_, slash_not_mem_suffix k⟩
    rw [hpage, hnumber, toList_numbered_of_ending hstem]

/-! ## Containment -/

/-- Only short segments lead elsewhere than down. -/
theorem isName_of_length {seg : String} (h : 2 < seg.length) : Files.isName seg = true := by
  have hne : ∀ other : String, other.length ≤ 2 → seg ≠ other := by
    rintro other hother rfl
    omega
  simp [Files.isName, Files.isIdle, hne "" (by decide), hne "." (by decide), hne ".." (by decide)]

/-- A last segment with the ending names something. -/
theorem isName_ending (last suffix : List Char) :
    Files.isName (String.ofList (last ++ (suffix ++ ending))) = true := by
  have hlong : ending.length = 5 := rfl
  apply isName_of_length
  rw [String.length_ofList, List.length_append, List.length_append]
  omega

/-- What is put before the ending lengthens the last segment. -/
theorem exists_segments_append (stem : List Char) :
    ∃ segs last, ∀ (name : String) (suffix : List Char), '/' ∉ suffix →
      name.toList = stem ++ (suffix ++ ending) →
      Files.segments name = segs ++ [String.ofList (last ++ (suffix ++ ending))] := by
  obtain ⟨pieces, last, hpieces⟩ := Text.exists_splitOn_append '/' stem
  refine ⟨pieces.map String.ofList, last, fun name suffix hsuffix hname => ?_⟩
  have hslash : '/' ∉ suffix ++ ending := by simp [ending, hsuffix]
  simp [Files.segments, hname, hpieces _ hslash]

/-- What is put before the ending does not lead out of a directory, nor back
into it. -/
theorem isContained_eq {name page : String} {stem suffix : List Char}
    (hname : name.toList = stem ++ ending) (hpage : page.toList = stem ++ (suffix ++ ending))
    (hsuffix : '/' ∉ suffix) : Files.isContained page = Files.isContained name := by
  obtain ⟨segs, last, hsegs⟩ := exists_segments_append stem
  have hown := hsegs name [] (by simp) (by simpa using hname)
  have hother := hsegs page suffix hsuffix hpage
  have habsolute : Files.isAbsolute page = Files.isAbsolute name := by
    unfold Files.isAbsolute
    rw [hname, hpage]
    cases stem with
    | cons c cs => rfl
    | nil =>
      cases suffix with
      | nil => rfl
      | cons c cs =>
        have hc : c ≠ '/' := fun heq => hsuffix (heq ▸ List.mem_cons_self)
        simp [ending, hc]
  rw [Files.isContained, Files.isContained, habsolute, hown, hother,
    Files.staysWithin_append_name (isName_ending last suffix),
    Files.staysWithin_append_name (isName_ending last [])]

/-- A page lies below every output directory when the name that its entry
asks for is contained. -/
theorem isBelow_of_ending {page : String} {stem suffix : List Char}
    (hpage : page.toList = stem ++ (suffix ++ ending)) (hsuffix : '/' ∉ suffix)
    (h : Files.isContained page = true) (current : Files.Place) (out : String) :
    Files.IsBelow (Files.placeOf current out) (Files.placeOf current (Files.join out page)) := by
  obtain ⟨segs, last, hsegs⟩ := exists_segments_append stem
  exact Files.isBelow_of_isContained (hsegs page suffix hsuffix hpage) (isName_ending last suffix) h
    current out

end ApiPages.Page
