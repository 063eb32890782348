import ApiPages.Proofs.Article.SymbolLinks

/-!
# Links between commands

A subcommand's way back counts the directories of its own page, so it is
right for every name. The list on a root's page links to its subcommands as
if the root's page lay in the output directory itself; that is right as long
as the root's name has no slash, and wrong for all of them when it has one.
Both take pages from the plan, numbered or not.
-/

namespace ApiPages

namespace Collection

variable {cs : List Collection} {c e : Nat} {command : Command}

/-- Every command has a page. -/
theorem exists_page_of_commandAt? (h : commandAt? cs c e = some command) :
    ∃ page, (Page.Plan.assign cs).page? c e = some page := by
  obtain ⟨collection, hc, he⟩ := commandAt?_eq_some_iff.mp h
  obtain ⟨taken, -, hpage⟩ := Page.Plan.assign_page? hc he rfl
  exact ⟨_, hpage⟩

end Collection

namespace Article

open Collection (afterAll commandAt? rootCommand?)
open Page (Plan depth)

variable {cs : List Collection} {place : Place} {sub : Command} {number : Nat}

/-- The subcommands of a root are the first entries of collections that
point at it. -/
theorem mem_subcommandsOf_iff :
    (sub, number) ∈ subcommandsOf cs place
      ↔ place.entry = 0 ∧ commandAt? cs number 0 = some sub
        ∧ sub.parent = some place.collection
        ∧ (rootCommand? cs place.collection).isSome = true := by
  -- A collection's number is its place in the list, and its command the one
  -- that `commandAt?` finds first.
  simp only [subcommandsOf, List.mem_filterMap, Prod.exists, List.mem_zipIdx_iff_getElem?]
  constructor
  · rintro ⟨collection, n, hc, h⟩
    obtain ⟨sub', hsub, hparents⟩ := Option.bind_eq_some_iff.mp h
    obtain ⟨parent, hparent, hroots⟩ := Option.bind_eq_some_iff.mp hparents
    obtain ⟨root, hroot, hsame⟩ := Option.bind_eq_some_iff.mp hroots
    obtain ⟨hplace, heq⟩ := Option.ite_none_right_eq_some.mp hsame
    cases heq
    refine ⟨hplace.2, ?_, by rw [hparent, hplace.1], by rw [← hplace.1, hroot]; rfl⟩
    simpa only [commandAt?, hc, Option.bind_some, ← List.head?_eq_getElem?] using hsub
  · rintro ⟨hentry, hat, hparent, hroot⟩
    obtain ⟨collection, hc, hsub⟩ := Option.bind_eq_some_iff.mp hat
    simp only [← List.head?_eq_getElem?] at hsub
    obtain ⟨root, hroot⟩ := Option.isSome_iff_exists.mp hroot
    refine ⟨collection, number, hc, ?_⟩
    simp [hsub, hparent, hroot, hentry]

/-- The names and links of those pages in a list that have a link. -/
def linked (links : List PageLink) : List (String × String) :=
  links.filterMap fun link => link.href.map fun href => (link.name, href)

namespace Context

variable {markdown : Markdown.Engine} {c e p : Nat} {command root : Command}
  {page rootPage : String}
  {moduleName : String} {article : Article}

/-- An accepted command's article shows its links. -/
theorem body_of_article {ctx : Context} (h : ctx.article place moduleName (.command command)
      = .ok article) :
    article.body
      = .command (ctx.commandBody (ctx.scribe command.name (ctx.commandDepth command)) place
          command) := by
  change ctx.ofCommand place command = .ok article at h
  unfold ofCommand at h
  dsimp only at h
  split at h
  · cases h
  · cases h
    rfl

/-- The way back from a subcommand: the steps of its own page, and then the
page of its root. -/
theorem rootLink?_eq (s : Scribe) (hparent : command.parent = some p)
    (hroot : rootCommand? cs p = some root) (hpage : (Plan.assign cs).page? p 0 = some rootPage) :
    (ofRun markdown cs).rootLink? s command
      = some (s.pageLink (some (Link.steps s.site.depth ++ Link.encodePath rootPage)) root) := by
  have hboth : (ofRun markdown cs).root? command = some (root, p) := by
    unfold root?
    rw [hparent]
    change (rootCommand? cs p).bind _ = _
    rw [hroot]
    rfl
  unfold rootLink? firstPage?
  rw [hboth]
  change some (s.pageLink (((Plan.assign cs).page? p 0).map s.site.pathTo) root) = _
  rw [hpage]
  rfl

/-- A root's list links to the pages of its subcommands without a step. -/
theorem linked_subcommandLinks (s : Scribe) (h : command.parent = none) :
    linked ((ofRun markdown cs).subcommandLinks s place command)
      = (subcommandsOf cs place).filterMap fun (sub, number) =>
          ((Plan.assign cs).page? number 0).map fun page => (sub.name, Link.encodePath page) := by
  have hroot : command.isSubcommand = false := by rw [Command.isSubcommand, h]; rfl
  unfold subcommandLinks
  rw [hroot]
  change linked (if (subcommandsOf cs place).isEmpty then _ else _) = _
  split
  · next hempty =>
    -- Without pages the root lists its own subcommands, none with a link.
    rw [List.isEmpty_iff.mp hempty, linked, List.filterMap_map]
    exact List.filterMap_eq_nil_iff.mpr fun _ _ => rfl
  · rw [linked, List.filterMap_map]
    refine List.filterMap_congr fun (sub, number) _ => ?_
    change (((Plan.assign cs).page? number 0).map Link.encodePath).map _ = _
    rw [Option.map_map]
    rfl

/-- A root's page lies as deep as its name has slashes. -/
theorem depth_of_root (hat : commandAt? cs c e = some root) (hroot : root.parent = none)
    (h : (Plan.assign cs).page? c e = some page) : depth page = root.name.toList.count '/' := by
  obtain ⟨collection, hc, he⟩ := Collection.commandAt?_eq_some_iff.mp hat
  have hname : Page.requestedName collection.moduleName (.command root) cs
      = Page.commandName none root.name := by
    change Page.commandName ((root.parent.bind _).map _) _ = _
    rw [hroot]
    rfl
  rw [Page.Plan.depth_of_assign_page? hc he h, hname, Page.depth_commandName, Nat.zero_add]

/-- Steps make a difference. -/
theorem eq_zero_of_steps {d : Nat} {path : String} (h : path = Link.steps d ++ path) : d = 0 := by
  cases d with
  | zero => rfl
  | succ d =>
    have hlength := congrArg String.length h
    rw [Link.steps_succ, String.length_append, String.length_append] at hlength
    have : "../".length = 3 := rfl
    omega

/-- The way back from a subcommand's page. -/
theorem back_link (markdown : Markdown.Engine) (hsound : Collection.ParentsSound cs)
    (hat : commandAt? cs c e = some command) (hparent : command.parent = some p) :
    ∃ root page rootPage, rootCommand? cs p = some root
      ∧ (Plan.assign cs).page? c e = some page ∧ (Plan.assign cs).page? p 0 = some rootPage
      ∧ ∀ moduleName article,
        (ofRun markdown cs).article ⟨c, e⟩ moduleName (.command command) = .ok article →
        ∃ body link, article.body = .command body ∧ body.parent = some link
          ∧ link.name = root.name
          ∧ link.href = some (Link.steps (depth page) ++ Link.encodePath rootPage) := by
  obtain ⟨-, -, -, root, hroot, -, -⟩ := hsound c e command p hat hparent
  obtain ⟨page, hpage⟩ := Collection.exists_page_of_commandAt? hat
  obtain ⟨rootPage, hrootPage⟩ :=
    Collection.exists_page_of_commandAt? (Collection.rootCommand?_eq cs p ▸ hroot)
  obtain ⟨collection, hc, he⟩ := Collection.commandAt?_eq_some_iff.mp hat
  refine ⟨root, page, rootPage, hroot, hpage, hrootPage, fun moduleName article h => ?_⟩
  refine ⟨_, _, body_of_article h, rootLink?_eq _ hparent hroot hrootPage, rfl, ?_⟩
  rw [← linkDepth_command markdown hc he hpage]
  rfl

/-- The subcommands that point at a command, when every parent is sound. -/
theorem mem_subcommandsOf_of_sound (hsound : Collection.ParentsSound cs) :
    (sub, number) ∈ subcommandsOf cs ⟨c, e⟩
      ↔ e = 0 ∧ commandAt? cs number 0 = some sub ∧ sub.parent = some c := by
  rw [mem_subcommandsOf_iff]
  refine ⟨fun ⟨he, hsub, hp, _⟩ => ⟨he, hsub, hp⟩, fun ⟨he, hsub, hp⟩ => ⟨he, hsub, hp, ?_⟩⟩
  obtain ⟨-, -, -, root, hroot, -, -⟩ := hsound number 0 sub c hsub hp
  exact Option.isSome_iff_exists.mpr ⟨root, hroot⟩

/-- The links of a root's list take the steps of its page exactly when there
are none to take, or no links. -/
theorem linked_subcommandLinks_iff (s : Scribe) (hat : commandAt? cs c e = some root)
    (hroot : root.parent = none) (hpage : (Plan.assign cs).page? c e = some page) :
    linked ((ofRun markdown cs).subcommandLinks s ⟨c, e⟩ root)
        = (subcommandsOf cs ⟨c, e⟩).filterMap (fun (sub, number) =>
          ((Plan.assign cs).page? number 0).map fun target =>
            (sub.name, Link.steps (depth page) ++ Link.encodePath target))
      ↔ '/' ∉ root.name.toList ∨ subcommandsOf cs ⟨c, e⟩ = [] := by
  have hdepth := depth_of_root hat hroot hpage
  rw [linked_subcommandLinks s hroot]
  constructor
  · intro heq
    by_contra hnot
    obtain ⟨hslash, hne⟩ := not_or.mp hnot
    -- The first link is enough: a text with steps before it is another text.
    obtain ⟨⟨sub, number⟩, more, hcons⟩ := List.exists_cons_of_ne_nil hne
    have hmem : (sub, number) ∈ subcommandsOf cs ⟨c, e⟩ := by
      rw [hcons]
      exact List.mem_cons_self
    obtain ⟨target, htarget⟩ :=
      Collection.exists_page_of_commandAt? (mem_subcommandsOf_iff.mp hmem).2.1
    rw [hcons] at heq
    simp only [List.filterMap_cons, htarget, Option.map_some, List.cons.injEq, Prod.mk.injEq] at heq
    have hzero := hdepth ▸ eq_zero_of_steps heq.1.2
    exact hslash (List.count_eq_zero.mp hzero)
  · rintro (hslash | hnil)
    · rw [hdepth, List.count_eq_zero.mpr hslash]
      simp [Link.steps]
    · rw [hnil]
      rfl

/-- Links between commands, in whatever documents. A subcommand's way back
takes the steps of its own page to the page of its root; if the directories
of its page are what their names say, and the root's page does not start at
the root, it leads to where that page is written. A root's list has, for
each subcommand that points at it, a link to that subcommand's page; these
take the steps of the root's page exactly when the root's name has no slash
or there are no such subcommands, and without a slash they lead to the pages
that they name. -/
theorem command_links_iff (markdown : Markdown.Engine) (documents : List (String × String)) :
    let cs : List Collection := afterAll documents
    let ctx := ofRun markdown cs
    let plan := Plan.assign cs
    (∀ c e sub p, commandAt? cs c e = some sub → sub.parent = some p →
      ∃ root page rootPage, rootCommand? cs p = some root ∧ plan.page? c e = some page
        ∧ plan.page? p 0 = some rootPage
        ∧ (∀ moduleName article, ctx.article ⟨c, e⟩ moduleName (.command sub) = .ok article →
          ∃ body link, article.body = .command body ∧ body.parent = some link
            ∧ link.name = root.name
            ∧ link.href = some (Link.steps (depth page) ++ Link.encodePath rootPage))
        ∧ ((∀ name ∈ Files.directories page, Files.isName name = true) →
          Files.isAbsolute rootPage = false → ∀ current out,
            Link.follow? (Files.placeOf current out) page
                (Link.steps (depth page) ++ Link.encodePath rootPage)
              = some (Files.placeOf current (Files.join out rootPage))))
    ∧ ∀ c e root, commandAt? cs c e = some root → root.parent = none →
      ∃ page, plan.page? c e = some page
        ∧ (∀ sub number, (sub, number) ∈ subcommandsOf cs ⟨c, e⟩ ↔
          e = 0 ∧ commandAt? cs number 0 = some sub ∧ sub.parent = some c)
        ∧ ∀ moduleName article, ctx.article ⟨c, e⟩ moduleName (.command root) = .ok article →
          ∃ body, article.body = .command body
            ∧ (linked body.subcommands = (subcommandsOf cs ⟨c, e⟩).filterMap (fun (sub, number) =>
                (plan.page? number 0).map fun target =>
                  (sub.name, Link.steps (depth page) ++ Link.encodePath target))
              ↔ '/' ∉ root.name.toList ∨ subcommandsOf cs ⟨c, e⟩ = [])
            ∧ ('/' ∉ root.name.toList → ∀ name href, (name, href) ∈ linked body.subcommands →
              ∃ sub number target, (sub, number) ∈ subcommandsOf cs ⟨c, e⟩ ∧ sub.name = name
                ∧ plan.page? number 0 = some target
                ∧ ∀ base, Link.follow? base page href
                  = some (Files.resolve base (Files.segments target))) := by
  have hsound := Collection.parentsSound_afterAll documents
  generalize afterAll documents = cs at hsound ⊢
  intro cs' ctx plan
  refine ⟨fun c e sub p hat hparent => ?_, fun c e root hat hparent => ?_⟩
  · obtain ⟨root, page, rootPage, hroot, hpage, hrootPage, hlinks⟩ :=
      back_link markdown hsound hat hparent
    refine ⟨root, page, rootPage, hroot, hpage, hrootPage, hlinks,
      fun hnames hrelative current out => ?_⟩
    have hfollow := Link.follow?_link (Files.placeOf current out) rootPage (Or.inl rfl) hnames
    rw [String.append_empty] at hfollow
    rw [hfollow, Files.placeOf_join current out hrelative]
  · obtain ⟨page, hpage⟩ := Collection.exists_page_of_commandAt? hat
    refine ⟨page, hpage, fun sub number => mem_subcommandsOf_of_sound hsound,
      fun moduleName article h => ⟨_, body_of_article h,
        linked_subcommandLinks_iff _ hat hparent hpage, fun hslash name href hmem => ?_⟩⟩
    change (name, href) ∈ linked (ctx.subcommandLinks _ _ _) at hmem
    rw [linked_subcommandLinks _ hparent] at hmem
    obtain ⟨⟨sub, number⟩, hsub, hlink⟩ := List.mem_filterMap.mp hmem
    obtain ⟨target, htarget, heq⟩ := Option.map_eq_some_iff.mp hlink
    cases heq
    refine ⟨sub, number, target, hsub, rfl, htarget, fun base => ?_⟩
    have hnone : Files.directories page = [] := by
      rw [← List.length_eq_zero_iff, Page.length_directories, depth_of_root hat hparent hpage]
      exact List.count_eq_zero.mpr hslash
    rw [Link.follow?_encodePath, hnone, List.nil_append]

/-- A root command with a slash in its name, and a subcommand. -/
def slashedTree : String × String :=
  ("x.json", "\x7b\"name\": \"tools/ng\", \"subcommands\": [\x7b\"name\": \"build\"\x7d]\x7d")

/-- The page of the root `tools/ng` lies in a directory, and the link to its
subcommand `build` takes no step out of it. -/
theorem exists_subcommand_link_astray :
    ∃ cs root page target article body href, cs = afterAll [slashedTree]
      ∧ commandAt? cs 0 0 = some root ∧ root.parent = none
      ∧ (Plan.assign cs).page? 0 0 = some page ∧ (Plan.assign cs).page? 1 0 = some target
      ∧ (ofRun true cs).article ⟨0, 0⟩ "unknown" (.command root) = .ok article
      ∧ article.body = .command body ∧ linked body.subcommands = [("build", href)]
      ∧ href ≠ Link.steps (depth page) ++ Link.encodePath target
      ∧ Link.follow? [] page href ≠ some (Files.resolve [] (Files.segments target)) := by
  have hpages : (Plan.assign (afterAll [slashedTree])).page? 0 0 = some "tools/ng.html"
      ∧ (Plan.assign (afterAll [slashedTree])).page? 1 0 = some "tools/ng/build.html" := by
    decide +kernel
  have hroots : ((commandAt? (afterAll [slashedTree]) 0 0).any fun root =>
      let ctx := ofRun true (afterAll [slashedTree])
      decide (root.parent = none) && (ctx.article ⟨0, 0⟩ "unknown" (.command root)).toBool
        && decide (linked (ctx.subcommandLinks (ctx.scribe root.name (ctx.commandDepth root))
          ⟨0, 0⟩ root) = [("build", Link.encodePath "tools/ng/build.html")])) = true := by
    decide +kernel
  cases hroot : commandAt? (afterAll [slashedTree]) 0 0 with
  | none =>
    rw [hroot] at hroots
    cases hroots
  | some root =>
    rw [hroot, Option.any_some] at hroots
    simp only [Bool.and_eq_true, decide_eq_true_eq] at hroots
    obtain ⟨⟨hparent, haccepted⟩, hlinked⟩ := hroots
    cases harticle : (ofRun true (afterAll [slashedTree])).article ⟨0, 0⟩ "unknown"
        (.command root) with
    | error failure =>
      rw [harticle] at haccepted
      cases haccepted
    | ok article =>
      refine ⟨_, root, _, _, article, _, _, rfl, hroot, hparent, hpages.1, hpages.2, harticle,
        body_of_article harticle, hlinked, fun h => absurd (eq_zero_of_steps h) (by decide), ?_⟩
      rw [Link.follow?_encodePath]
      decide

end Context

end Article

end ApiPages
