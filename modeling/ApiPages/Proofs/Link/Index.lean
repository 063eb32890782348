import ApiPages.Link.Index
import ApiPages.Proofs.Firsts
import ApiPages.Proofs.Lookup
import ApiPages.Proofs.Page.Plan

/-!
# What the index knows

A symbol's page is the page that the plan has for an API entry of its name,
so a link to a symbol never leads to a page that no entry has. Of several
entries of a name the index keeps one, and none of them goes unknown.
-/

namespace ApiPages.Link.Index

/-- Symbols are found where an API entry has a page. -/
theorem mem_symbols_iff {es : List Entry} {pages : List (Option String)} {t : String × String} :
    t ∈ symbols es pages ↔ ∃ (e : Nat) (entry : Entry) (info : EntryInfo), es[e]? = some entry
      ∧ pages[e]? = some (some t.2) ∧ entry.info? = some info ∧ entry.name = t.1 := by
  induction es generalizing pages with
  | nil => simp [symbols]
  | cons entry es ih =>
    cases pages with
    | nil => simp [symbols]
    | cons page pages =>
      -- The place of a symbol is the first one, or one of the rest.
      have hplaces :
          (∃ (e : Nat) (entry' : Entry) (info : EntryInfo), (entry :: es)[e]? = some entry'
            ∧ (page :: pages)[e]? = some (some t.2) ∧ entry'.info? = some info
            ∧ entry'.name = t.1)
          ↔ (∃ info, page = some t.2 ∧ entry.info? = some info ∧ entry.name = t.1)
            ∨ t ∈ symbols es pages := by
        rw [ih]
        constructor
        · rintro ⟨e, entry', info, he, hpage, hinfo, hname⟩
          cases e with
          | zero =>
            cases he
            exact Or.inl ⟨info, Option.some.inj hpage, hinfo, hname⟩
          | succ e => exact Or.inr ⟨e, entry', info, he, hpage, hinfo, hname⟩
        · rintro (⟨info, rfl, hinfo, hname⟩ | ⟨e, entry', info, he, hpage, hinfo, hname⟩)
          · exact ⟨0, entry, info, rfl, rfl, hinfo, hname⟩
          · exact ⟨e + 1, entry', info, he, hpage, hinfo, hname⟩
      rw [hplaces]
      cases hinfo : entry.info? with
      | none => simp [symbols, hinfo]
      | some info =>
        cases page with
        | none => simp [symbols, hinfo]
        | some own =>
          simp only [symbols, hinfo, List.mem_cons, Prod.ext_iff]
          refine or_congr_left ⟨fun h => ⟨info, by rw [h.2], rfl, h.1.symm⟩, ?_⟩
          rintro ⟨_, hpage, -, hname⟩
          exact ⟨hname.symm, (Option.some.inj hpage).symm⟩

/-- The symbols of two lists of entries are those of the one and then those of the other. -/
theorem symbols_append {es es' : List Entry} {pages pages' : List (Option String)}
    (h : es.length = pages.length) :
    symbols (es ++ es') (pages ++ pages') = symbols es pages ++ symbols es' pages' := by
  induction es generalizing pages with
  | nil =>
    rw [List.length_eq_zero_iff.mp h.symm]
    rfl
  | cons e es ih =>
    cases pages with
    | nil => cases h
    | cons page pages =>
      have ih := ih (Nat.succ.inj h)
      cases hinfo : e.info? with
      | none => simp [symbols, hinfo, ih]
      | some info =>
        cases page with
        | none => simp [symbols, hinfo, ih]
        | some page => simp [symbols, hinfo, ih]

/-- An entry without a page is no symbol. -/
theorem symbols_cons_none (e : Entry) (es : List Entry) (pages : List (Option String)) :
    symbols (e :: es) (none :: pages) = symbols es pages := by
  cases hinfo : e.info? with
  | none => simp [symbols, hinfo]
  | some info => simp [symbols, hinfo]

/-- Of each name the first is kept. -/
theorem keepFirst_eq (ts : List (String × String)) :
    keepFirst ts = firsts (fun t => some t.1) ts := by
  induction ts with
  | nil => rfl
  | cons t ts ih =>
    rw [keepFirst, firsts, ih]
    rfl

/-- A name is kept once. -/
theorem nodup_keepFirst (ts : List (String × String)) :
    ((keepFirst ts).map Prod.fst).Nodup := by
  have hnodup := nodup_keys_firsts (fun t : String × String => some t.1) ts
  rwa [← keepFirst_eq, List.filterMap_eq_map'] at hnodup

/-- A name is kept with its first page. -/
theorem lookup_keepFirst (ts : List (String × String)) (name : String) :
    (keepFirst ts).lookup name = ts.lookup name := by
  induction ts with
  | nil => rfl
  | cons t ts ih =>
    rw [keepFirst, List.lookup_cons, List.lookup_cons]
    by_cases hname : name = t.1
    · rw [beq_iff_eq.mpr hname]
    · have hstays : (name != t.1) = true := bne_iff_ne.mpr hname
      rw [beq_eq_false_iff_ne.mpr hname, ← ih]
      exact lookup_filter_of_pos (p := fun key => key != t.1) hstays

section

variable {cs : List Collection} {c e : Nat} {collection : Collection} {entry : Entry}
  {info : EntryInfo} {name page : String}

/-- The rows of a plan are as many as the collections. -/
theorem mem_zip_pages_iff {row : List (Option String)} :
    (collection, row) ∈ cs.zip (Page.Plan.assign cs).pages
      ↔ ∃ c : Nat, cs[c]? = some collection ∧ (Page.Plan.assign cs).pages[c]? = some row := by
  simp only [List.mem_iff_getElem?, List.getElem?_zip_eq_some]

/-- A symbol's page is the page of an API entry of its name. -/
theorem exists_entry_of_page? (h : (build cs).page? name = some page) :
    ∃ (c e : Nat) (collection : Collection) (entry : Entry) (info : EntryInfo),
      cs[c]? = some collection ∧ collection.entries[e]? = some entry ∧ entry.info? = some info
      ∧ entry.name = name ∧ (Page.Plan.assign cs).page? c e = some page := by
  obtain ⟨front, back, htargets, -⟩ := List.lookup_eq_some_iff.mp h
  have hmem : (name, page) ∈ (build cs).targets := by
    rw [htargets]
    exact List.mem_append_right _ List.mem_cons_self
  rw [build, keepFirst_eq] at hmem
  have hfound := mem_of_mem_firsts hmem
  obtain ⟨⟨collection, row⟩, hrow, hsymbol⟩ := List.mem_flatMap.mp hfound
  obtain ⟨c, hc, hpages⟩ := mem_zip_pages_iff.mp hrow
  obtain ⟨e, entry, info, he, hcell, hinfo, hname⟩ := mem_symbols_iff.mp hsymbol
  exact ⟨c, e, collection, entry, info, hc, he, hinfo, hname,
    Page.Plan.page?_eq_some_iff.mpr ⟨row, hpages, hcell⟩⟩

/-- The index knows the name of every API entry that has a page. -/
theorem isSome_page? (hc : cs[c]? = some collection) (he : collection.entries[e]? = some entry)
    (hinfo : entry.info? = some info) (h : (Page.Plan.assign cs).page? c e = some page) :
    ((build cs).page? entry.name).isSome = true := by
  obtain ⟨row, hrow, hcell⟩ := Page.Plan.page?_eq_some_iff.mp h
  have hfound : (entry.name, page) ∈ (cs.zip (Page.Plan.assign cs).pages).flatMap
      fun row => symbols row.1.entries row.2 :=
    List.mem_flatMap.mpr ⟨(collection, row), mem_zip_pages_iff.mpr ⟨c, hc, hrow⟩,
      mem_symbols_iff.mpr ⟨e, entry, info, he, hcell, hinfo, rfl⟩⟩
  obtain ⟨kept, hkept, hname⟩ := exists_mem_firsts (fun t => some t.1) hfound
  rw [← keepFirst_eq] at hkept
  exact List.lookup_isSome_iff.mpr ⟨kept, hkept, beq_iff_eq.mpr (Option.some.inj hname).symm⟩

end

end ApiPages.Link.Index
