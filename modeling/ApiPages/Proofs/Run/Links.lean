import ApiPages.Proofs.Article.CommandLinks
import ApiPages.Proofs.Article.Passage
import ApiPages.Proofs.Run.Below

/-!
# Whether links lead to written pages

Links are made from the plan, which has a page for every entry that can have
one. An entry can still be refused when its own turn comes, for a part
without a name, and then the links to its page lead nowhere. So a run in
which every write succeeds has no such link exactly when no drafted entry
has a link to the page of an entry that is refused.
-/

namespace ApiPages

namespace Link

/-- The page that a link names after its steps, given how many it takes. -/
def target? (d : Nat) (href : String) : Option String :=
  (Text.dropWord? (steps d).toList (withoutAnchor href).toList).bind fun path =>
    decodePath? (String.ofList path)

theorem target?_link (d : Nat) (page : String) {tail : String} (h : IsAnchor tail) :
    target? d (steps d ++ encodePath page ++ tail) = some page := by
  rw [target?, withoutAnchor_link d page h, String.toList_append, Text.dropWord?_append,
    Option.bind_some, String.ofList_toList, decodePath?_encodePath]

/-- A link without anchor. -/
theorem target?_plain (d : Nat) (page : String) :
    target? d (steps d ++ encodePath page) = some page := by
  have h := target?_link d page (Or.inl rfl)
  rwa [String.append_empty] at h

/-- A link without steps either. -/
theorem target?_encodePath (page : String) : target? 0 (encodePath page) = some page := by
  have hnone : steps 0 ++ encodePath page = encodePath page := String.empty_append
  rw [← hnone]
  exact target?_plain 0 page

end Link

namespace Article.Context

/-- The links of an entry's page, each with the number of steps that it
takes: those of its texts to symbols, that of a subcommand to its root, and
those of a root to its subcommands. -/
def links (ctx : Context) (place : Place) (e : Entry) : List (Nat × String) :=
  let toSymbols := (ctx.passages place e).flatMap fun p => p.hrefs (ctx.siteOf e)
  toSymbols.map (fun href => (ctx.linkDepth e, href)) ++
    match e.command? with
    | some c =>
      let body := ctx.commandBody (ctx.scribe c.name (ctx.commandDepth c)) place c
      (body.parent.bind PageLink.href).toList.map (fun href => (ctx.commandDepth c, href))
        ++ (linked body.subcommands).map fun link => (0, link.2)
    | none => []

variable {cs : List Collection} {markdown : Markdown.Engine} {place : Place} {e : Entry}
  {c : Command}
  {d : Nat} {href : String}

/-- A link to a symbol names the page of an entry. -/
theorem exists_page_of_symbol (site : Link.Site) {p : Link.Passage}
    (hindex : site.index = Link.Index.build cs) (h : href ∈ p.hrefs site) :
    ∃ page c e, Link.target? site.depth href = some page
      ∧ (Page.Plan.assign cs).page? c e = some page := by
  obtain ⟨⟨symbol, member⟩, -, hhref⟩ := List.mem_filterMap.mp h
  obtain ⟨target, htarget, -⟩ := Option.map_eq_some_iff.mp hhref
  obtain ⟨tail, htail, hown⟩ := exists_href site htarget member
  obtain rfl := Option.some.inj (hhref.symm.trans hown)
  obtain ⟨c, e, -, -, -, -, -, -, -, hpage⟩ :=
    Link.Index.exists_entry_of_page? (hindex ▸ htarget)
  exact ⟨target, c, e, Link.target?_link _ _ htail, hpage⟩

/-- The way back names the page of an entry. -/
theorem exists_page_of_rootLink? {s : Scribe} {link : PageLink}
    (hlink : (ofRun markdown cs).rootLink? s c = some link) (hhref : link.href = some href) :
    ∃ page number, href = Link.steps s.site.depth ++ Link.encodePath page
      ∧ (Page.Plan.assign cs).page? number 0 = some page := by
  obtain ⟨⟨root, number⟩, -, rfl⟩ := Option.map_eq_some_iff.mp hlink
  obtain ⟨page, hpage, rfl⟩ := Option.map_eq_some_iff.mp hhref
  exact ⟨page, number, rfl, hpage⟩

/-- The links of a root's list name pages of entries. -/
theorem exists_page_of_linked {s : Scribe} {name : String}
    (h : (name, href) ∈ linked ((ofRun markdown cs).subcommandLinks s place c)) :
    ∃ page number, href = Link.encodePath page
      ∧ (Page.Plan.assign cs).page? number 0 = some page := by
  unfold subcommandLinks at h
  dsimp only at h
  -- Where the root lists commands without pages, it gives no link.
  generalize (if c.isSubcommand then [] else _) = paged at h
  obtain ⟨link, hlink, hhref⟩ := List.mem_filterMap.mp h
  obtain ⟨own, hown, heq⟩ := Option.map_eq_some_iff.mp hhref
  obtain ⟨-, rfl⟩ := Prod.ext_iff.mp heq
  split at hlink
  · obtain ⟨sub, -, rfl⟩ := List.mem_map.mp hlink
    cases hown
  · obtain ⟨⟨sub, number⟩, -, rfl⟩ := List.mem_map.mp hlink
    obtain ⟨page, hpage, rfl⟩ := Option.map_eq_some_iff.mp hown
    exact ⟨page, number, rfl, hpage⟩

/-- Every link of an entry's page names the page of an entry. -/
theorem exists_page_of_link (h : (d, href) ∈ (ofRun markdown cs).links place e) :
    ∃ page c e, Link.target? d href = some page
      ∧ (Page.Plan.assign cs).page? c e = some page := by
  rcases List.mem_append.mp h with hsymbol | hcommand
  · obtain ⟨own, hown, heq⟩ := List.mem_map.mp hsymbol
    obtain ⟨rfl, rfl⟩ := Prod.mk.inj heq
    obtain ⟨p, -, hp⟩ := List.mem_flatMap.mp hown
    exact exists_page_of_symbol ((ofRun markdown cs).siteOf e) rfl hp
  · split at hcommand
    · next c _ =>
      dsimp only [commandBody] at hcommand
      rcases List.mem_append.mp hcommand with hroot | hsub
      · obtain ⟨own, hown, heq⟩ := List.mem_map.mp hroot
        obtain ⟨rfl, rfl⟩ := Prod.mk.inj heq
        obtain ⟨link, hlink, hhref⟩ := Option.bind_eq_some_iff.mp (Option.mem_toList.mp hown)
        obtain ⟨page, number, rfl, hpage⟩ := exists_page_of_rootLink? hlink hhref
        exact ⟨page, number, 0, Link.target?_plain _ _, hpage⟩
      · obtain ⟨⟨name, own⟩, hown, heq⟩ := List.mem_map.mp hsub
        obtain ⟨rfl, rfl⟩ := Prod.mk.inj heq
        obtain ⟨page, number, rfl, hpage⟩ := exists_page_of_linked hown
        exact ⟨page, number, 0, Link.target?_encodePath page, hpage⟩
    · cases hcommand

end Article.Context

namespace Run

open Files (Disk Tree)

variable {cs : List Collection} {markdown : Markdown.Engine} {style : PageStyle} {item : Item}
  {page out : String} {html : Html}

/-- One of two lists that go together has a partner in the other. -/
theorem exists_mem_zip {α β : Type} {R : α → β → Prop} {xs : List α} {ys : List β} {x : α}
    (h : List.Forall₂ R xs ys) (hx : x ∈ xs) : ∃ y, (x, y) ∈ xs.zip ys ∧ R x y := by
  induction h with
  | nil => cases hx
  | @cons x' y' xs ys hxy _ ih =>
    rcases List.mem_cons.mp hx with rfl | hx
    · exact ⟨y', List.mem_cons_self, hxy⟩
    · obtain ⟨y, hmem, hy⟩ := ih hx
      exact ⟨y, List.mem_cons_of_mem _ hmem, hy⟩

/-- Where every write succeeds, every draft is written. -/
theorem mem_written_of_draft {σ : Type} (disk : Disk (StateM σ)) {s s' : σ} {r : Report}
    (hrun : publishAll disk markdown style out cs s = (.ok r, s'))
    (hwrites : ∀ d ∈ r.diagnostics, d.file = none) (hitem : item ∈ items cs)
    (hdraft : draft (Article.Context.ofRun markdown cs) style item = .ok (page, html)) :
    Files.join out page ∈ r.written := by
  rcases publishAll_cases disk style markdown out cs s with
    ⟨e, s₂, -, hall⟩ | ⟨s₁, outcomes, s₂, -, hmap, hall⟩
  · rw [hall] at hrun
    cases hrun
  · rw [hall] at hrun
    cases hrun
    have hendings :=
      endings_of_mapM disk (Article.Context.ofRun markdown cs) style out (items cs) s₁
    rw [hmap] at hendings
    obtain ⟨outcome, hmem, hending⟩ := exists_mem_zip hendings hitem
    cases hending with
    | written hown =>
      rw [hown] at hdraft
      cases hdraft
      simp only [Report.tally, List.nil_append]
      exact List.mem_filterMap.mpr ⟨_, (List.of_mem_zip hmem).2, rfl⟩
    | refused hown =>
      rw [hown] at hdraft
      cases hdraft
    | unwritten reason hown hpath =>
      -- A page that was not written is a diagnostic that names its file.
      have hfile := hwrites _ (by
        simp only [Report.tally, List.nil_append]
        exact List.mem_filterMap.mpr ⟨_, hmem, rfl⟩)
      cases hfile

/-- On a lenient disk every write succeeds. -/
theorem file_of_lenient {r : Report} {s s' : Unit}
    (hrun : publishAll Disk.lenient markdown style out cs s = (.ok r, s')) :
    ∀ d ∈ r.diagnostics, d.file = none := by
  rcases publishAll_cases Disk.lenient style markdown out cs s with
    ⟨e, s₂, -, hall⟩ | ⟨s₁, outcomes, s₂, -, hmap, hall⟩
  · rw [hall] at hrun
    cases hrun
  · rw [hall] at hrun
    cases hrun
    intro d hd
    simp only [Report.tally, List.nil_append] at hd
    obtain ⟨⟨item, outcome⟩, hmem, hdiagnostic⟩ := List.mem_filterMap.mp hd
    have houtcome : outcome ∈ ((items cs).mapM
        (publish Disk.lenient out (Article.Context.ofRun markdown cs) style) s₁).1 := by
      rw [hmap]
      exact (List.of_mem_zip hmem).2
    obtain ⟨item', -, s₃, hpublish⟩ := exists_of_mem_mapM_run _ (items cs) s₁ houtcome
    cases outcome with
    | ok path => cases hdiagnostic
    | error f =>
      cases hdiagnostic
      cases hdraft : draft (Article.Context.ofRun markdown cs) style item' with
      | ok both =>
        obtain ⟨page, html⟩ := both
        rw [publish_lenient hdraft] at hpublish
        cases hpublish
      | error f' =>
        have hsame :
            (publish Disk.lenient out (Article.Context.ofRun markdown cs) style item' s₃).1
              = .error f' := by
          simp only [publish, hdraft]
          rfl
        obtain rfl : f' = f := by
          rw [hsame] at hpublish
          cases hpublish
          rfl
        have hwrite := (perEntry_of_draft_error hdraft).2
        cases f' <;> first | rfl | exact absurd rfl (hwrite _ _)

/-- Whether links lead to written pages. An article holds no other links to
symbols than those of its entry's passages: with the same links for these,
any index gives the same article. Every link of an entry's page names the
page that the plan has for some entry. And all runs in which every write
succeeds, on whatever disk and below whatever output directory, write the
pages that the links of written pages name, exactly when every page that a
link of a drafted entry names is the page of an entry that is drafted
too. -/
theorem publishAll_links_iff (markdown : Markdown.Engine) (style : PageStyle)
    (cs : List Collection) :
    let ctx := Article.Context.ofRun markdown cs
    (∀ place moduleName e index,
      (∀ p ∈ ctx.passages place e, p.Agree (ctx.siteOf e) { ctx.siteOf e with index }) →
        ctx.article place moduleName e
          = ctx.articleOn { ctx.siteOf e with index } place moduleName e)
    ∧ (∀ place e d href, (d, href) ∈ ctx.links place e → ∃ target, Link.target? d href = some target
      ∧ ∃ other ∈ items cs,
        ctx.index.plan.page? other.place.collection other.place.entry = some target)
    ∧ ((∀ (σ : Type) (disk : Disk (StateM σ)) (s s' : σ) (out : String) (r : Report),
        publishAll disk markdown style out cs s = (.ok r, s') →
        (∀ d ∈ r.diagnostics, d.file = none) →
        ∀ item ∈ items cs, ∀ page html, draft ctx style item = .ok (page, html) →
          Files.join out page ∈ r.written
          ∧ ∀ d href target, (d, href) ∈ ctx.links item.place item.entry →
            Link.target? d href = some target → Files.join out target ∈ r.written)
      ↔ ∀ item ∈ items cs, ∀ page html, draft ctx style item = .ok (page, html) →
          ∀ d href target, (d, href) ∈ ctx.links item.place item.entry →
            Link.target? d href = some target →
            ∃ other ∈ items cs, ∃ html', draft ctx style other = .ok (target, html')) := by
  intro ctx
  refine ⟨fun place moduleName e index => ctx.article_eq_of_agree place moduleName e,
    fun place e d href hlink => ?_, fun hruns item hitem page html hdraft d href target hlink
    htarget => ?_, fun hdrafts σ disk s s' out r hrun hwrites item hitem page html hdraft =>
    ⟨mem_written_of_draft disk hrun hwrites hitem hdraft, fun d href target hlink htarget => ?_⟩⟩
  · obtain ⟨target, c, e', htarget, hpage⟩ := Article.Context.exists_page_of_link hlink
    obtain ⟨collection, entry, hc, he, -⟩ := Page.Plan.exists_entry_of_assign_page? hpage
    exact ⟨target, htarget, ⟨⟨c, e'⟩, collection.moduleName, entry⟩,
      mem_items_iff.mpr ⟨collection, hc, he, rfl⟩, hpage⟩
  · -- Below the working directory itself, paths and pages are the same.
    obtain ⟨r, hrun, -⟩ := mem_written_lenient "" hitem hdraft
    have hmem := (hruns Unit Disk.lenient () () "" r hrun (file_of_lenient hrun) item hitem page
      html hdraft).2 d href target hlink htarget
    obtain ⟨other, hother, page', html', hpath, hdraft'⟩ :=
      exists_draft_of_written Disk.lenient style hrun hmem
    have hhere : ∀ path, Files.join "" path = path := fun path => by simp [Files.join]
    rw [hhere, hhere] at hpath
    exact ⟨other, hother, html', hpath ▸ hdraft'⟩
  · obtain ⟨other, hother, html', hdraft'⟩ :=
      hdrafts item hitem page html hdraft d href target hlink htarget
    exact mem_written_of_draft disk hrun hwrites hother hdraft'

/-- A working directory with one input, a module of a class that holds a
property without a name and a constant of this class. -/
def namelessInput : Tree :=
  ⟨[(["w"], .directory),
    (["w", "m.json"], .file (some ("\x7b\"moduleName\": \"m\", \"entries\": ["
      ++ "\x7b\"name\": \"Bad\", \"entryType\": \"class\", \"members\": ["
      ++ "\x7b\"memberType\": \"property\", \"name\": \"\"\x7d]\x7d, "
      ++ "\x7b\"name\": \"user\", \"entryType\": \"constant\", \"type\": \"Bad\"\x7d]\x7d")))],
    ["w"]⟩

/-- Every write succeeds, and the page of the constant links to the page of
the class, which is not written. -/
theorem exists_link_to_unwritten :
    ∃ cs t r t', readAll Disk.ofTree ["m.json"] namelessInput = (.ok cs, t)
      ∧ publishAll Disk.ofTree true .fragment "out" cs t = (.ok r, t')
      ∧ (∀ d ∈ r.diagnostics, d.file = none)
      ∧ ∃ item ∈ items cs, ∃ page html d href target,
        draft (Article.Context.ofRun true cs) .fragment item = .ok (page, html)
        ∧ Files.join "out" page ∈ r.written
        ∧ (d, href) ∈ (Article.Context.ofRun true cs).links item.place item.entry
        ∧ Link.target? d href = some target ∧ Files.join "out" target ∉ r.written := by
  have hruns : (match readAll Disk.ofTree ["m.json"] namelessInput with
    | (.ok cs, t) =>
      match publishAll Disk.ofTree true .fragment "out" cs t with
      | (.ok r, _) =>
        decide (∀ d ∈ r.diagnostics, d.file = none)
          && (items cs).any fun item =>
            match draft (Article.Context.ofRun true cs) .fragment item with
            | .ok (page, _) => decide (Files.join "out" page ∈ r.written
              ∧ (0, Link.encodePath "m_Bad_class.html")
                ∈ (Article.Context.ofRun true cs).links item.place item.entry
              ∧ Files.join "out" "m_Bad_class.html" ∉ r.written)
            | .error _ => false
      | _ => false
    | _ => false) = true := by decide +kernel
  split at hruns
  · next cs t hread =>
    split at hruns
    · next r t' hrun =>
      obtain ⟨hfiles, hany⟩ := Bool.and_eq_true_iff.mp hruns
      obtain ⟨item, hitem, hdata⟩ := List.any_eq_true.mp hany
      split at hdata
      · next page html hdraft =>
        obtain ⟨hwritten, hlink, hnot⟩ := of_decide_eq_true hdata
        exact ⟨cs, t, r, t', hread, hrun, of_decide_eq_true hfiles, item, hitem, page, html, 0, _,
          _, hdraft, hwritten, hlink, Link.target?_encodePath _, hnot⟩
      · cases hdata
    · cases hruns
  · cases hruns

end Run

end ApiPages
