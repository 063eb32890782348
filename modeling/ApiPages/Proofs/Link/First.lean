import Mathlib.Data.Nat.Find
import ApiPages.Proofs.Link.Index

/-!
# The first entry of a name

Names are shared freely between modules and kinds. The index and the plan are
made by two passes, and they agree: what the index knows of a name is the page
that the plan gave to the first API entry of that name in run order, renamed
or not (`page?_of_first`). Commands and entries that are unknown or malformed
are no symbols, wherever they stand. There are as many symbols as API entries
have different names.
-/

namespace ApiPages

open Page (Plan Precedes)

/-- The names of a run's API entries, in run order. -/
def symbolNames (cs : List Collection) : List String :=
  cs.flatMap fun collection => collection.entries.filterMap fun entry =>
    entry.info?.map EntryInfo.name

/-- Whether an API entry of a name stands at a place. -/
def SymbolAt (cs : List Collection) (name : String) (c e : Nat) : Prop :=
  ∃ collection entry info, cs[c]? = some collection ∧ collection.entries[e]? = some entry
    ∧ entry.info? = some info ∧ info.name = name

/-- Whether the first API entry of a name stands at a place. -/
structure FirstSymbolAt (cs : List Collection) (name : String) (c e : Nat) : Prop where
  here : SymbolAt cs name c e
  not_before : ∀ c' e', Precedes c' e' c e → ¬ SymbolAt cs name c' e'

variable {cs : List Collection} {name page : String} {c e : Nat}

/-- A name is one of a symbol exactly when a symbol of that name stands somewhere. -/
theorem mem_symbolNames_iff : name ∈ symbolNames cs ↔ ∃ c e, SymbolAt cs name c e := by
  rw [symbolNames, List.mem_flatMap]
  constructor
  · rintro ⟨collection, hcollection, hname⟩
    obtain ⟨entry, hentry, hname⟩ := List.mem_filterMap.mp hname
    obtain ⟨info, hinfo, hname⟩ := Option.map_eq_some_iff.mp hname
    obtain ⟨c, hc⟩ := List.mem_iff_getElem?.mp hcollection
    obtain ⟨e, he⟩ := List.mem_iff_getElem?.mp hentry
    exact ⟨c, e, collection, entry, info, hc, he, hinfo, hname⟩
  · rintro ⟨c, e, collection, entry, info, hc, he, hinfo, rfl⟩
    refine ⟨collection, List.mem_of_getElem? hc, List.mem_filterMap.mpr ?_⟩
    exact ⟨entry, List.mem_of_getElem? he, by rw [hinfo, Option.map_some]⟩

/-- Of the entries of a name, one is the first. -/
theorem exists_first (h : SymbolAt cs name c e) : ∃ c e, FirstSymbolAt cs name c e := by
  classical
  have hsome : ∃ c e, SymbolAt cs name c e := ⟨c, e, h⟩
  -- The first collection with the name, and the first entry in it.
  have hrow := Nat.find_spec hsome
  refine ⟨Nat.find hsome, Nat.find hrow, Nat.find_spec hrow, ?_⟩
  rintro c' e' (hbefore | ⟨rfl, hbefore⟩) hat
  · exact Nat.find_min hsome hbefore ⟨e', hat⟩
  · exact Nat.find_min hrow hbefore hat

/-- An API entry has a page. -/
theorem SymbolAt.exists_page (h : SymbolAt cs name c e) :
    ∃ page, (Plan.assign cs).page? c e = some page := by
  obtain ⟨collection, entry, info, hc, he, hinfo, -⟩ := h
  have hrenderable : entry.isRenderable = true := by
    cases entry with
    | unknown => cases hinfo
    | malformed => cases hinfo
    | _ => rfl
  obtain ⟨taken, -, hpage⟩ := Plan.assign_page? hc he hrenderable
  exact ⟨_, hpage⟩

namespace Link.Index

/-! ## Which page -/

/-- A symbol is found at its entry's place, after the symbols of the entries
before it. -/
theorem exists_found_around (h : SymbolAt cs name c e)
    (hpage : (Plan.assign cs).page? c e = some page) :
    ∃ front back,
      ((cs.zip (Plan.assign cs).pages).flatMap fun row => symbols row.1.entries row.2)
        = front ++ (name, page) :: back
      ∧ ∀ t ∈ front, ∃ c' e', Precedes c' e' c e ∧ SymbolAt cs t.1 c' e' := by
  obtain ⟨collection, entry, info, hc, he, hinfo, rfl⟩ := h
  obtain ⟨row, hrow, hcell⟩ := Plan.page?_eq_some_iff.mp hpage
  have hpair : (cs.zip (Plan.assign cs).pages)[c]? = some (collection, row) :=
    List.getElem?_zip_eq_some.mpr ⟨hc, hrow⟩
  obtain ⟨rows, rows', hrows, hlength⟩ := Page.exists_around hpair
  obtain ⟨ahead, after, hentries, hahead⟩ := Page.exists_around he
  obtain ⟨pages, pages', hcells, hpages⟩ := Page.exists_around hcell
  have hown : symbols collection.entries row
      = symbols ahead pages ++ (info.name, page) :: symbols after pages' := by
    rw [hentries, hcells, symbols_append (hahead.trans hpages.symm)]
    simp [symbols, hinfo, Entry.name_of_info? hinfo]
  refine ⟨rows.flatMap (fun row => symbols row.1.entries row.2) ++ symbols ahead pages,
    symbols after pages' ++ rows'.flatMap fun row => symbols row.1.entries row.2, ?_, ?_⟩
  · simp [hrows, hown]
  intro t ht
  rcases List.mem_append.mp ht with ht | ht
  · -- The symbol is of a collection before this one.
    obtain ⟨⟨collection', row'⟩, hmem, ht⟩ := List.mem_flatMap.mp ht
    obtain ⟨c', hc'⟩ := List.mem_iff_getElem?.mp hmem
    obtain ⟨e', entry', info', he', -, hinfo', hname⟩ := mem_symbols_iff.mp ht
    have hlt : c' < rows.length := (List.getElem?_eq_some_iff.mp hc').1
    have hat : (cs.zip (Plan.assign cs).pages)[c']? = some (collection', row') := by
      rw [hrows, List.getElem?_append_left hlt, hc']
    rw [Entry.name_of_info? hinfo'] at hname
    exact ⟨c', e', Or.inl (hlength ▸ hlt), collection', entry', info',
      (List.getElem?_zip_eq_some.mp hat).1, he', hinfo', hname⟩
  · obtain ⟨e', entry', info', he', -, hinfo', hname⟩ := mem_symbols_iff.mp ht
    have hlt : e' < ahead.length := (List.getElem?_eq_some_iff.mp he').1
    have hat : collection.entries[e']? = some entry' := by
      rw [hentries, List.getElem?_append_left hlt, he']
    rw [Entry.name_of_info? hinfo'] at hname
    exact ⟨c, e', Or.inr ⟨rfl, hahead ▸ hlt⟩, collection, entry', info', hc, hat, hinfo', hname⟩

/-- The index has the page that the plan gave to the first entry. -/
theorem page?_of_first (h : FirstSymbolAt cs name c e) :
    (build cs).page? name = (Plan.assign cs).page? c e := by
  obtain ⟨page, hpage⟩ := h.here.exists_page
  obtain ⟨front, back, hfound, hfront⟩ := exists_found_around h.here hpage
  have hnone : front.lookup name = none := by
    rw [List.lookup_eq_none_iff]
    intro t ht
    obtain ⟨c', e', hbefore, hat⟩ := hfront t ht
    rw [bne_iff_ne]
    rintro rfl
    exact h.not_before c' e' hbefore hat
  rw [hpage, page?, build, lookup_keepFirst]
  show List.lookup name ((cs.zip (Plan.assign cs).pages).flatMap fun row =>
    symbols row.1.entries row.2) = some page
  rw [hfound, List.lookup_append, hnone, Option.none_or, List.lookup_cons_self]

/-- A name leads to the page of its first symbol, in the order of the run. -/
theorem page?_eq_some_iff : (build cs).page? name = some page ↔
    ∃ c e, FirstSymbolAt cs name c e ∧ (Plan.assign cs).page? c e = some page := by
  constructor
  · intro hpage
    obtain ⟨c, e, collection, entry, info, hc, he, hinfo, hname, -⟩ := exists_entry_of_page? hpage
    have hat : SymbolAt cs name c e :=
      ⟨collection, entry, info, hc, he, hinfo, (Entry.name_of_info? hinfo).symm.trans hname⟩
    obtain ⟨c, e, hfirst⟩ := exists_first hat
    exact ⟨c, e, hfirst, (page?_of_first hfirst).symm.trans hpage⟩
  · rintro ⟨c, e, hfirst, hpage⟩
    exact (page?_of_first hfirst).trans hpage

/-- It leads nowhere exactly when no symbol has it. -/
theorem page?_eq_none_iff : (build cs).page? name = none ↔ ∀ c e, ¬ SymbolAt cs name c e := by
  constructor
  · intro hnone c e hat
    obtain ⟨c, e, hfirst⟩ := exists_first hat
    obtain ⟨page, hpage⟩ := hfirst.here.exists_page
    rw [page?_of_first hfirst, hpage] at hnone
    cases hnone
  · intro hnone
    rw [Option.eq_none_iff_forall_ne_some]
    intro page hpage
    obtain ⟨c, e, hfirst, -⟩ := page?_eq_some_iff.mp hpage
    exact hnone c e hfirst.here

/-! ## How many -/

/-- The symbols are the names of API entries. -/
theorem mem_targets_iff : name ∈ (build cs).targets.map Prod.fst ↔ ∃ c e, SymbolAt cs name c e := by
  have hknown : name ∈ (build cs).targets.map Prod.fst ↔ ((build cs).page? name).isSome = true := by
    rw [page?, List.lookup_isSome_iff, List.mem_map]
    simp only [beq_iff_eq, eq_comm (a := name)]
  rw [hknown, Option.isSome_iff_ne_none, Ne, page?_eq_none_iff]
  simp only [not_forall, not_not]

/-- An index has one symbol for each name, however many entries have that name. -/
theorem size_build (cs : List Collection) : (build cs).size = (symbolNames cs).dedup.length := by
  have hnodup : ((build cs).targets.map Prod.fst).Nodup := nodup_keepFirst _
  have hperm : ((build cs).targets.map Prod.fst).Perm (symbolNames cs).dedup := by
    rw [List.perm_ext_iff_of_nodup hnodup (List.nodup_dedup _)]
    intro name
    rw [mem_targets_iff, List.mem_dedup, mem_symbolNames_iff]
  rw [size, ← hperm.length_eq, List.length_map]

/-- It is empty exactly when there is no symbol. -/
theorem isEmpty_build_iff : (build cs).isEmpty = true ↔ ∀ name c e, ¬ SymbolAt cs name c e := by
  rw [isEmpty, List.isEmpty_iff, ← List.map_eq_nil_iff (f := Prod.fst),
    List.eq_nil_iff_forall_not_mem]
  simp only [mem_targets_iff, not_exists]

/-- The index and the plan agree. A name's page in the index is the page that
the plan gave to the first API entry of the name, and there is none exactly
when no API entry has the name. The symbols are as many as the different names
of API entries. -/
theorem build_agrees_with_plan (cs : List Collection) :
    (∀ name page, (build cs).page? name = some page ↔
      ∃ c e, FirstSymbolAt cs name c e ∧ (Plan.assign cs).page? c e = some page)
    ∧ (∀ name, (build cs).page? name = none ↔ ∀ c e, ¬ SymbolAt cs name c e)
    ∧ (build cs).size = (symbolNames cs).dedup.length
    ∧ ((build cs).isEmpty = true ↔ ∀ name c e, ¬ SymbolAt cs name c e) := by
  exact ⟨fun _ _ => page?_eq_some_iff, fun _ => page?_eq_none_iff, size_build cs, isEmpty_build_iff⟩

end Link.Index

end ApiPages
