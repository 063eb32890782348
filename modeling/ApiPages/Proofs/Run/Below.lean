import ApiPages.Markdown.Standard
import ApiPages.Proofs.Page.Name
import ApiPages.Proofs.Run.Accounting

/-!
# Where a run writes

Names are free text, and a page is joined to the output directory as it
stands. What keeps a run below its output directory, wherever that is, is
that the names the drafted entries ask for are contained. Every other list
of collections leads out of some directory, which a lenient disk shows: on
it every draft is written, so no fault can hide where it would go.
-/

namespace ApiPages

namespace Files

/-- A disk on which all goes well, and nothing is kept. -/
def Disk.lenient : Disk (StateM Unit) where
  read _ := pure (.ok "")
  makeDirectory _ := pure (.ok ())
  isDirectory _ := pure true
  write _ _ := pure (.ok ())

theorem makeDirectories_lenient (path : String) (s : Unit) :
    Disk.lenient.makeDirectories path s = (.ok (), s) := by
  unfold Disk.makeDirectories Disk.makeFirst
  split <;> rfl

end Files

namespace Run

open Files (Disk Tree Place placeOf IsBelow isContained)

variable {markdown : Markdown.Engine} {style : PageStyle} {out : String} {cs : List Collection}

/-- On a lenient disk an entry with a draft is published. -/
theorem publish_lenient {ctx : Article.Context} {item : Item} {page : String} {html : Html}
    (h : draft ctx style item = .ok (page, html)) (s : Unit) :
    publish Disk.lenient out ctx style item s = (.ok (Files.join out page), s) := by
  simp only [publish, h]
  dsimp only [writePage]
  cases (Files.parents (Files.join out page)).head? with
  | none => rfl
  | some parent =>
    simp only [bind_run, Files.makeDirectories_lenient]
    rfl

/-- On a lenient disk a run writes every draft. -/
theorem mem_written_lenient (out : String) {item : Item} {page : String} {html : Html}
    (hitem : item ∈ items cs)
    (h : draft (Article.Context.ofRun markdown cs) style item = .ok (page, html)) :
    ∃ r, publishAll Disk.lenient markdown style out cs () = (.ok r, ())
      ∧ Files.join out page ∈ r.written := by
  rcases publishAll_cases Disk.lenient style markdown out cs () with
    ⟨e, s', hmade, -⟩ | ⟨s₁, outcomes, s', -, hmap, hall⟩
  · rw [Files.makeDirectories_lenient] at hmade
    cases hmade
  · refine ⟨_, hall, ?_⟩
    obtain ⟨s₂, hat⟩ := exists_mem_mapM_run
      (publish Disk.lenient out (Article.Context.ofRun markdown cs) style) (items cs) s₁ hitem
    rw [publish_lenient h, hmap] at hat
    exact List.mem_filterMap.mpr ⟨_, hat, rfl⟩

/-- A draft's page is contained when the name that its entry asks for is,
and then it lies below every output directory. -/
theorem isContained_of_draft {item : Item} {page : String} {html : Html}
    (hitem : item ∈ items cs)
    (h : draft (Article.Context.ofRun markdown cs) style item = .ok (page, html)) :
    isContained page = isContained (Page.requestedName item.moduleName item.entry cs)
    ∧ (isContained page = true → ∀ (current : Place) (out : String),
      IsBelow (placeOf current out) (placeOf current (Files.join out page))) := by
  obtain ⟨c, hc, he, hname⟩ := mem_items_iff.mp hitem
  obtain ⟨stem, suffix, hwanted, hpage, hsuffix⟩ :=
    Page.Plan.exists_stem_of_assign_page? hc he (page_of_draft h)
  rw [hname]
  exact ⟨Page.isContained_eq hwanted hpage hsuffix, Page.isBelow_of_ending hpage hsuffix⟩

/-- Every path that a run writes lies below its output directory, whatever
directory and disk that is, exactly when the name that each drafted entry
asks for stays in the directory it is joined to. -/
theorem publishAll_below_iff (markdown : Markdown.Engine) (style : PageStyle)
    (cs : List Collection) :
    (∀ (σ : Type) (disk : Disk (StateM σ)) (s s' : σ) (current : Place) (out : String)
      (r : Report), publishAll disk markdown style out cs s = (.ok r, s') →
        ∀ path ∈ r.written, IsBelow (placeOf current out) (placeOf current path))
    ↔ ∀ item ∈ items cs, ∀ page html,
      draft (Article.Context.ofRun markdown cs) style item = .ok (page, html) →
        isContained (Page.requestedName item.moduleName item.entry cs) = true := by
  constructor
  · intro hbelow item hitem page html hdraft
    obtain ⟨heq, -⟩ := isContained_of_draft hitem hdraft
    by_contra hwanted
    obtain ⟨out, hout⟩ :=
      Files.exists_not_isBelow (heq.trans (Bool.eq_false_iff.mpr hwanted))
    obtain ⟨r, hrun, hmem⟩ := mem_written_lenient out hitem hdraft
    exact hout (hbelow Unit Disk.lenient () () [] out r hrun _ hmem)
  · intro hwanted σ disk s s' current out r hrun path hpath
    obtain ⟨item, hitem, page, html, rfl, hdraft⟩ :=
      exists_draft_of_written disk style hrun hpath
    obtain ⟨heq, hbelow⟩ := isContained_of_draft hitem hdraft
    exact hbelow (heq.trans (hwanted item hitem page html hdraft)) current out

/-- A working directory with one input, the command `../x`. -/
def outsideInput : Tree :=
  ⟨[(["w"], .directory),
    (["w", "x.json"], .file (some "\x7b\"name\": \"../x\", \"command\": \"x\"\x7d"))], ["w"]⟩

/-- A command named `../x` is published next to the output directory. -/
theorem exists_written_not_below :
    ∃ cs t r t', readAll Disk.ofTree ["x.json"] outsideInput = (.ok cs, t)
      ∧ publishAll Disk.ofTree true .fragment "out" cs t = (.ok r, t')
      ∧ ∃ path ∈ r.written, ¬ IsBelow (placeOf t.current "out") (placeOf t.current path) := by
  have hruns : (match readAll Disk.ofTree ["x.json"] outsideInput with
    | (.ok cs, t) =>
      match publishAll Disk.ofTree true .fragment "out" cs t with
      | (.ok r, _) => r.written.any fun path =>
          !decide (IsBelow (placeOf t.current "out") (placeOf t.current path))
      | _ => false
    | _ => false) = true := by decide +kernel
  split at hruns
  · next cs t hread =>
    split at hruns
    · next r t' hrun =>
      obtain ⟨path, hpath, hout⟩ := List.any_eq_true.mp hruns
      exact ⟨cs, t, r, t', hread, hrun, path, hpath, by simpa using hout⟩
    · cases hruns
  · cases hruns

end Run

end ApiPages
