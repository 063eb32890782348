import ApiPages.Proofs.Collection.Parent
import ApiPages.Proofs.Link.Index

/-!
# Later documents rename no page

A page that was given out stays what it is when more documents are read. A
name is claimed against the names ahead of it only (`assignAll_append`), and an
entry asks for the same name again: what a subcommand points at lies behind it,
so it was there before (`requestedName_append`). The index keeps the first page
of a symbol, and later ones come after.
-/

namespace ApiPages

open Collection (ParentsSound afterAll commandAt? commandAt?_eq_some_iff exists_later
  moduleDocument parentsSound_afterAll treeDocument)
open Page (Plan requests requestedName)

variable {cs : List Collection} (hsound : ParentsSound cs) (more : List Collection)

namespace Page

include hsound

/-- An entry asks for the name that it asked for. -/
theorem requestedName_append {collection : Collection} {e : Entry} (hc : collection ∈ cs)
    (he : e ∈ collection.entries) (moduleName : String) :
    requestedName moduleName e (cs ++ more) = requestedName moduleName e cs := by
  refine requestedName_congr (fun sub hsub => ?_) moduleName
  subst hsub
  obtain ⟨c, hc⟩ := List.mem_iff_getElem?.mp hc
  obtain ⟨i, he⟩ := List.mem_iff_getElem?.mp he
  have hat : commandAt? cs c i = some sub := commandAt?_eq_some_iff.mpr ⟨_, hc, he⟩
  refine Option.bind_congr fun p hp => Collection.rootCommand?_append ?_
  have hback : p < c := (hsound c i sub p hat hp).2.2.1
  exact Nat.lt_trans hback (Collection.lt_length_of_commandAt? hat)

/-- The pages that a collection asks for do not depend on those after it. -/
theorem requests_append {collection : Collection} (hc : collection ∈ cs) :
    requests (cs ++ more) collection = requests cs collection := by
  refine List.map_congr_left fun e he => ?_
  rw [requestedName_append hsound more hc he]

/-- Later collections get their pages after all others. -/
theorem Plan.exists_pages_append :
    ∃ rest, (Plan.assign (cs ++ more)).pages = (Plan.assign cs).pages ++ rest := by
  have hrequests : cs.map (requests (cs ++ more)) = cs.map (requests cs) :=
    List.map_congr_left fun collection hc => requests_append hsound more hc
  refine ⟨assignAll (assignEach [] (cs.map (requests cs)).flatten).2
    (more.map (requests (cs ++ more))), ?_⟩
  rw [assign, assign, List.map_append, hrequests, assignAll_append]

end Page

/-- There are as many rows of pages as collections. -/
theorem Page.Plan.length_pages_assign (cs : List Collection) :
    (Plan.assign cs).pages.length = cs.length := by
  rw [assign, length_assignAll, List.length_map]

include hsound in
/-- So an entry keeps its page whatever is added after its collection. -/
theorem Page.Plan.page?_assign_append {c : Nat} (hc : c < cs.length) (e : Nat) :
    (Plan.assign (cs ++ more)).page? c e = (Plan.assign cs).page? c e := by
  obtain ⟨rest, hpages⟩ := exists_pages_append hsound more
  have hrow : c < (Plan.assign cs).pages.length := by rwa [length_pages_assign]
  rw [page?, page?, hpages, List.getElem?_append_left hrow]

include hsound in
/-- A symbol that is known keeps its page. -/
theorem Link.Index.page?_build_append {name page : String}
    (h : (build cs).page? name = some page) : (build (cs ++ more)).page? name = some page := by
  obtain ⟨rest, hpages⟩ := Page.Plan.exists_pages_append hsound more
  have hlength : cs.length = (Plan.assign cs).pages.length :=
    (Page.Plan.length_pages_assign cs).symm
  rw [page?, build, lookup_keepFirst] at h ⊢
  rw [hpages, List.zip_append hlength, List.flatMap_append, List.lookup_append, h, Option.some_or]

/-- Whatever documents are read after some others, every place that was there
keeps its page, or has none as before, and every symbol that was known keeps
its page. -/
theorem pages_kept_by_later (earlier later : List (String × String)) :
    afterAll earlier <+: afterAll (earlier ++ later)
    ∧ (∀ c e, c < (afterAll earlier).length →
      (Plan.assign (afterAll (earlier ++ later))).page? c e
        = (Plan.assign (afterAll earlier)).page? c e)
    ∧ ∀ name page, (Link.Index.build (afterAll earlier)).page? name = some page →
      (Link.Index.build (afterAll (earlier ++ later))).page? name = some page := by
  have hsound : ParentsSound (afterAll earlier) := parentsSound_afterAll earlier
  obtain ⟨more, hmore, -⟩ := exists_later (afterAll earlier) later
  have hall : afterAll (earlier ++ later) = afterAll earlier ++ more := by
    rw [← hmore, afterAll, List.foldl_append]
    rfl
  rw [hall]
  exact ⟨List.prefix_append _ _,
    fun c e hc => Page.Plan.page?_assign_append hsound more hc e,
    fun name page h => Link.Index.page?_build_append hsound more h⟩

/-- A tree and the same module once more change nothing about the module. -/
theorem pages_kept_by_tree :
    let cs := afterAll [moduleDocument]
    let cs' := afterAll ([moduleDocument] ++ [treeDocument, moduleDocument])
    (Plan.assign cs').page? 0 0 = (Plan.assign cs).page? 0 0
      ∧ (Link.Index.build cs').page? "a" = some "m_a_class.html" := by
  intro cs cs'
  obtain ⟨-, hpages, hsymbols⟩ :=
    pages_kept_by_later [moduleDocument] [treeDocument, moduleDocument]
  have hlength : 0 < (afterAll [moduleDocument]).length := by decide +kernel
  have hknown : (Link.Index.build (afterAll [moduleDocument])).page? "a"
      = some "m_a_class.html" := by
    decide +kernel
  exact ⟨hpages 0 0 hlength, hsymbols "a" "m_a_class.html" hknown⟩

end ApiPages
