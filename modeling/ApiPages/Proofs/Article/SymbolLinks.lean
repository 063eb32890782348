import ApiPages.Markdown.Standard
import ApiPages.Proofs.Article.Site
import ApiPages.Proofs.Collection.Parent
import ApiPages.Proofs.Link.Follow
import ApiPages.Proofs.Link.Index
import ApiPages.Proofs.Page.Depth

/-!
# Links to symbols

The links of a command's page count the directories of the name that the
command asks for, and its page lies as deep, whatever number it was given.
The links of an API entry count none; that is right as long as the entry's
name has no slash, and wrong for every symbol when it has one. Pages of
symbols never start with a step themselves, so the steps of a link are what
it was made with.
-/

namespace ApiPages.Article.Context

open Link (LinksTo follow? IsAnchor)
open Page (Plan depth)

variable {cs : List Collection} {c e : Nat} {collection : Collection} {entry : Entry}
  {page symbol target : String}

/-- An entry is a command or has what API entries share. -/
theorem isCommand_or_info? (h : (Plan.assign cs).page? c e = some page)
    (hc : cs[c]? = some collection) (he : collection.entries[e]? = some entry) :
    (∃ command, entry = .command command) ∨ ∃ info, entry.info? = some info := by
  obtain ⟨collection', entry', hc', he', hr⟩ := Page.Plan.exists_entry_of_assign_page? h
  obtain rfl := Option.some.inj (hc.symm.trans hc')
  obtain rfl := Option.some.inj (he.symm.trans he')
  cases entry with
  | unknown name tag raw => cases hr
  | malformed name tag reason => cases hr
  | command command => exact Or.inl ⟨command, rfl⟩
  | _ => exact Or.inr ⟨_, rfl⟩

/-- The links of a command count the directories of its page. -/
theorem linkDepth_command {command : Command} (markdown : Markdown.Engine)
    (hc : cs[c]? = some collection)
    (he : collection.entries[e]? = some (.command command))
    (h : (Plan.assign cs).page? c e = some page) :
    (ofRun markdown cs).linkDepth (.command command) = depth page := by
  have hroot : ((ofRun markdown cs).root? command).map (fun root => root.1.name)
      = (command.parent.bind (Collection.rootCommand? cs)).map Command.name := by
    change ((command.parent.bind fun number =>
      (Collection.rootCommand? cs number).bind fun root => some (root, number))).map _ = _
    cases command.parent with
    | none => rfl
    | some number => cases hroot : Collection.rootCommand? cs number <;> simp [hroot]
  rw [Page.Plan.depth_of_assign_page? hc he h, linkDepth, commandDepth, hroot]
  rfl

/-- The page of an API entry lies in as many directories as its name has
slashes. -/
theorem depth_of_info? {info : EntryInfo} (hinfo : entry.info? = some info)
    (hc : cs[c]? = some collection) (he : collection.entries[e]? = some entry)
    (h : (Plan.assign cs).page? c e = some page) : depth page = entry.name.toList.count '/' := by
  rw [Page.Plan.depth_of_assign_page? hc he h, Page.Plan.requestedName_of_info? hinfo,
    Page.depth_apiName]

/-- The link from a site to a symbol: the site's steps, the symbol's page
and perhaps an anchor. -/
theorem exists_href (site : Link.Site) (h : site.index.page? symbol = some target)
    (member : Option String) :
    ∃ tail, IsAnchor tail
      ∧ site.href? symbol member
        = some (Link.steps site.depth ++ Link.encodePath target ++ tail) := by
  unfold Link.Site.href? Link.Site.pathTo
  rw [h, Option.map_some]
  cases member with
  | none => exact ⟨"", Or.inl rfl, rfl⟩
  | some m => exact ⟨"#" ++ Link.anchor m, Or.inr ⟨_, rfl⟩, rfl⟩

/-- A symbol's page starts with no step, and not at the root. -/
theorem target_of_page? (h : (Link.Index.build cs).page? symbol = some target) :
    (Text.splitOn '/' target.toList).head? ≠ some "..".toList
      ∧ Files.isAbsolute target = false := by
  obtain ⟨c, e, collection, entry, info, hc, he, hinfo, -, hpage⟩ :=
    Link.Index.exists_entry_of_page? h
  exact ⟨Page.Plan.head_splitOn_of_info? hinfo hc he hpage,
    Page.Plan.isAbsolute_of_info? hinfo hc he hpage⟩

/-- Links to symbols. Every entry is written for its own site, which has a
link for every symbol of the run. The links of a page take one step for
every directory that the page lies in exactly when the entry is a command or
has no slash in its name; and if these directories are what their names say,
such a link leads to where the symbol's page is written. -/
theorem symbol_links_iff (markdown : Markdown.Engine) (cs : List Collection) :
    let ctx := ofRun markdown cs
    (∀ place moduleName entry,
      ctx.article place moduleName entry
        = ctx.articleOn (ctx.siteOf entry) place moduleName entry)
    ∧ ∀ c e collection entry page, cs[c]? = some collection →
      collection.entries[e]? = some entry → (Plan.assign cs).page? c e = some page →
      ((∀ symbol target, ctx.index.page? symbol = some target → ∀ member, ∃ href,
          (ctx.siteOf entry).href? symbol member = some href ∧ LinksTo href (depth page) target)
        ↔ entry.isCommand = true ∨ '/' ∉ entry.name.toList)
      ∧ ((entry.isCommand = true ∨ '/' ∉ entry.name.toList) →
        (∀ name ∈ Files.directories page, Files.isName name = true) →
        ∀ symbol target, ctx.index.page? symbol = some target → ∀ member href,
          (ctx.siteOf entry).href? symbol member = some href → ∀ current out,
            follow? (Files.placeOf current out) page href
              = some (Files.placeOf current (Files.join out target))) := by
  intro ctx
  refine ⟨ctx.article_eq, fun c e collection entry page hc he hpage => ?_⟩
  -- The links are right when they count the directories of the page.
  have hdepth : ctx.linkDepth entry = depth page
      ↔ entry.isCommand = true ∨ '/' ∉ entry.name.toList := by
    rcases isCommand_or_info? hpage hc he with ⟨command, rfl⟩ | ⟨info, hinfo⟩
    · exact iff_of_true (linkDepth_command markdown hc he hpage) (Or.inl rfl)
    · have hnone : entry.isCommand = false ∧ ctx.linkDepth entry = 0 := by
        cases entry <;> cases hinfo <;> exact ⟨rfl, rfl⟩
      rw [hnone.1, hnone.2, depth_of_info? hinfo hc he hpage, eq_comm, List.count_eq_zero]
      simp
  refine ⟨⟨fun hall => ?_, fun h symbol target htarget member => ?_⟩,
    fun h hnames symbol target htarget member href hhref current out => ?_⟩
  · by_cases hcommand : entry.isCommand = true
    · exact Or.inl hcommand
    · rcases isCommand_or_info? hpage hc he with ⟨command, rfl⟩ | ⟨info, hinfo⟩
      · exact absurd rfl hcommand
      · -- The entry itself is a symbol, so there is a link to judge by.
        obtain ⟨target, htarget⟩ :=
          Option.isSome_iff_exists.mp (Link.Index.isSome_page? hc he hinfo hpage)
        obtain ⟨href, hhref, hlinks⟩ := hall _ _ htarget none
        obtain ⟨tail, htail, hown⟩ := exists_href (ctx.siteOf entry) htarget none
        obtain rfl := Option.some.inj (hhref.symm.trans hown)
        exact hdepth.mp ((Link.linksTo_iff htail (target_of_page? htarget).1).mp hlinks)
  · obtain ⟨tail, htail, hown⟩ := exists_href (ctx.siteOf entry) htarget member
    exact ⟨_, hown, (Link.linksTo_iff htail (target_of_page? htarget).1).mpr (hdepth.mpr h)⟩
  · obtain ⟨tail, htail, hown⟩ := exists_href (ctx.siteOf entry) htarget member
    obtain rfl := Option.some.inj (hhref.symm.trans hown)
    have hsite : (ctx.siteOf entry).depth = depth page := hdepth.mpr h
    rw [hsite, Link.follow?_link _ target htail hnames,
      Files.placeOf_join current out (target_of_page? htarget).2]

/-- A constant whose name has a slash, with the type of a class beside it. -/
def slashedDocument : String × String :=
  ("m.json", "\x7b\"moduleName\": \"m\", \"entries\": ["
    ++ "\x7b\"name\": \"a/b\", \"entryType\": \"constant\", \"type\": \"Foo\"\x7d, "
    ++ "\x7b\"name\": \"Foo\", \"entryType\": \"class\"\x7d]\x7d")

/-- The page of the constant `a/b` lies in a directory, and its link to the
class takes no step out of it. -/
theorem exists_symbol_link_astray :
    ∃ cs collection entry page target href, cs = Collection.afterAll [slashedDocument]
      ∧ cs[0]? = some collection ∧ collection.entries[0]? = some entry
      ∧ (Plan.assign cs).page? 0 0 = some page
      ∧ (ofRun true cs).index.page? "Foo" = some target
      ∧ ((ofRun true cs).siteOf entry).href? "Foo" none = some href
      ∧ ¬ LinksTo href (depth page) target := by
  have hdata : (match (Collection.afterAll [slashedDocument])[0]? with
    | some collection =>
      match collection.entries[0]? with
      | some entry =>
        decide ((Plan.assign (Collection.afterAll [slashedDocument])).page? 0 0
            = some "m_a/b_constant.html"
          ∧ (ofRun true (Collection.afterAll [slashedDocument])).index.page? "Foo"
            = some "m_Foo_class.html"
          ∧ ((ofRun true (Collection.afterAll [slashedDocument])).siteOf entry).href? "Foo" none
            = some (Link.steps 0 ++ Link.encodePath "m_Foo_class.html" ++ ""))
      | none => false
    | none => false) = true := by decide +kernel
  split at hdata
  · next collection hcollection =>
    split at hdata
    · next entry hentry =>
      obtain ⟨hpage, htarget, hhref⟩ := of_decide_eq_true hdata
      refine ⟨_, collection, entry, _, _, _, rfl, hcollection, hentry, hpage, htarget, hhref, ?_⟩
      rw [Link.linksTo_iff (Or.inl rfl) (by decide)]
      decide
    · cases hdata
  · cases hdata

end ApiPages.Article.Context
