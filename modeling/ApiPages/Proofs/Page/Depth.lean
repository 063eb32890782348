import ApiPages.Proofs.Page.Name

/-!
# How deep pages lie

A number put before the ending adds no slash, so a page lies as deep as the
name that its entry asks for. Of the parts of an API entry's name only the
entry's own can hold slashes; and as the module and an underscore come
before it, such a page never starts with a step out of the output directory.
-/

namespace ApiPages

namespace Text

/-- Text without a separator begins the first piece. -/
theorem exists_head_splitOn {α : Type} [DecidableEq α] {sep : α} {front : List α}
    (h : sep ∉ front) (cs : List α) :
    ∃ more, (splitOn sep (front ++ cs)).head? = some (front ++ more) := by
  induction front with
  | nil =>
    obtain ⟨piece, more, hpieces⟩ := List.exists_cons_of_ne_nil (splitOn_ne_nil sep cs)
    exact ⟨piece, by rw [List.nil_append, hpieces]; rfl⟩
  | cons c front ih =>
    obtain ⟨more, hmore⟩ := ih fun hmem => h (List.mem_cons_of_mem c hmem)
    obtain ⟨piece, rest, hpieces⟩ :=
      List.exists_cons_of_ne_nil (splitOn_ne_nil sep (front ++ cs))
    rw [hpieces] at hmore
    have hc : c ≠ sep := fun heq => h (heq ▸ List.mem_cons_self)
    refine ⟨more, ?_⟩
    simpa [splitOn, hc, hpieces] using hmore

end Text

namespace Page

/-- Depths of names that differ in their last segment. -/
theorem depth_eq_of_ending {name page : String} {stem suffix : List Char}
    (hname : name.toList = stem ++ ending) (hpage : page.toList = stem ++ (suffix ++ ending))
    (hsuffix : '/' ∉ suffix) : depth page = depth name := by
  rw [depth, depth, hname, hpage]
  simp [List.count_eq_zero_of_not_mem hsuffix]

/-- A command's name lies in as many directories as its own name and its
root's have slashes, and in the root's directory. -/
theorem depth_commandName (root : Option String) (name : String) :
    depth (commandName root name)
      = (match root with | some root => root.toList.count '/' + 1 | none => 0)
        + name.toList.count '/' := by
  cases root with
  | none => simp [depth, commandName]
  | some root => simp [depth, commandName]; omega

theorem slash_not_mem_moduleSlug (moduleName : String) : '/' ∉ (moduleSlug moduleName).toList := by
  rw [moduleSlug, String.toList_ofList, List.mem_map]
  rintro ⟨c, -, hc⟩
  split at hc
  · simp at hc
  · contradiction

/-- An API entry's name lies as deep as the entry's own name has slashes. -/
theorem depth_apiName (moduleName name : String) (kind : EntryKind) :
    depth (apiName moduleName name kind.tag) = name.toList.count '/' := by
  have htag : (Text.lowercase kind.tag).toList.count '/' = 0 := by
    cases kind <;> decide +kernel
  simp [depth, apiName, htag, List.count_eq_zero_of_not_mem (slash_not_mem_moduleSlug moduleName)]

namespace Plan

variable {cs : List Collection} {c e : Nat} {collection : Collection} {entry : Entry}
  {page : String}

/-- A page lies as deep as the name that its entry asks for. -/
theorem depth_of_assign_page? (hc : cs[c]? = some collection)
    (he : collection.entries[e]? = some entry) (h : (assign cs).page? c e = some page) :
    depth page = depth (requestedName collection.moduleName entry cs) := by
  obtain ⟨stem, suffix, hname, hpage, hsuffix⟩ := exists_stem_of_assign_page? hc he h
  exact depth_eq_of_ending hname hpage hsuffix

/-- The name that an API entry asks for. -/
theorem requestedName_of_info? {info : EntryInfo} (h : entry.info? = some info)
    (moduleName : String) (cs : List Collection) :
    requestedName moduleName entry cs = apiName moduleName entry.name info.kind.tag := by
  cases entry <;> cases h <;> rfl

/-- The page of an API entry starts with the entry's module. -/
theorem exists_slug_of_info? {info : EntryInfo} (hinfo : entry.info? = some info)
    (hc : cs[c]? = some collection) (he : collection.entries[e]? = some entry)
    (h : (assign cs).page? c e = some page) :
    ∃ front more, page.toList = front ++ '_' :: more ∧ '/' ∉ front := by
  obtain ⟨stem, suffix, hname, hpage, -⟩ := exists_stem_of_assign_page? hc he h
  rw [requestedName_of_info? hinfo, apiName, String.toList_append] at hname
  refine ⟨(moduleSlug collection.moduleName).toList, ?_⟩
  rw [hpage, ← List.append_cancel_right hname]
  simp only [String.toList_append, List.append_assoc]
  exact ⟨_, rfl, slash_not_mem_moduleSlug _⟩

/-- So it does not start with a step out of the output directory. -/
theorem head_splitOn_of_info? {info : EntryInfo} (hinfo : entry.info? = some info)
    (hc : cs[c]? = some collection) (he : collection.entries[e]? = some entry)
    (h : (assign cs).page? c e = some page) :
    (Text.splitOn '/' page.toList).head? ≠ some "..".toList := by
  obtain ⟨front, more, hpage, hfront⟩ := exists_slug_of_info? hinfo hc he h
  have hslash : '/' ∉ front ++ ['_'] := by simp [hfront]
  obtain ⟨rest, hhead⟩ := Text.exists_head_splitOn hslash more
  rw [List.append_assoc, List.singleton_append, ← hpage] at hhead
  intro heq
  -- The first segment goes on past the underscore that ends the module.
  have hunderscore : '_' ∈ "..".toList := by
    rw [← Option.some.inj (hhead.symm.trans heq)]
    simp
  revert hunderscore
  decide

/-- Nor at the root. -/
theorem isAbsolute_of_info? {info : EntryInfo} (hinfo : entry.info? = some info)
    (hc : cs[c]? = some collection) (he : collection.entries[e]? = some entry)
    (h : (assign cs).page? c e = some page) : Files.isAbsolute page = false := by
  obtain ⟨front, more, hpage, hfront⟩ := exists_slug_of_info? hinfo hc he h
  rw [Files.isAbsolute, hpage]
  cases front with
  | nil => simp
  | cons first front =>
    have hfirst : first ≠ '/' := fun heq => hfront (heq ▸ List.mem_cons_self)
    simpa using hfirst

end Plan

end Page

end ApiPages
