import ApiPages.Proofs.Collection.Without

/-!
# The subcommands that a command lists

A root's list is made again from all collections, by asking of each whether
it points at the root. What it finds is the block right after the root, as
`Collection.HasTree` says where each subcommand of a tree stands and that
nothing else points at its root; so equal names, of roots or of subcommands,
in one tree or in several, are never taken for one another
(`Collection.HasTree.subcommandsOf_eq`). When it finds nothing, the list is that of
the subcommands that the root keeps, and then there are none.

A subcommand lists those it holds, named or not, and links to none of them.
-/

namespace ApiPages

namespace Command

/-- The subcommands that have a name, each with its number among all that
are declared. -/
def named (declared : Command) : List (Command × Nat) :=
  declared.subcommands.zipIdx.filter fun x => !Text.isBlankText x.1.name

/-- A declared command as the root of its tree: it keeps the subcommands
that have a name. -/
def asRoot (declared : Command) : Command := { declared with
  subcommands := declared.subcommands.filter fun sub => !Text.isBlankText sub.name }

/-- A subcommand of the tree at a number, as it stands in a collection of
its own, with the number of that. -/
def placed (number : Nat) : Command × Nat → Command × Nat
  | (sub, i) => ({ sub with parent := some number }, number + 1 + i)

/-- The named subcommands are those whose name is not blank, in order. -/
theorem map_fst_named (declared : Command) :
    declared.named.map Prod.fst
      = declared.subcommands.filter fun sub => !Text.isBlankText sub.name := by
  have hfilter := List.filter_map (p := fun sub : Command => !Text.isBlankText sub.name)
    (f := Prod.fst) (l := declared.subcommands.zipIdx)
  rw [List.zipIdx_map_fst] at hfilter
  exact hfilter.symm

theorem map_placed_named (number : Nat) (declared : Command) :
    declared.named.map (placed number)
      = declared.subcommands.zipIdx.filterMap fun (sub, i) =>
          if Text.isBlankText sub.name then none else some (placed number (sub, i)) := by
  rw [named, ← List.filterMap_eq_filter, List.map_filterMap]
  refine List.filterMap_congr fun (sub, i) _ => ?_
  by_cases hblank : Text.isBlankText sub.name = true
  · simp [Option.guard, hblank]
  · simp [Option.guard, hblank]

end Command

namespace Collection.HasTree

open Article (subcommand? subcommandsOf)

variable {cs : List Collection} {number i : Nat} {declared sub : Command}

/-- The subcommands of a tree lie within the collections. -/
theorem le_length (h : HasTree cs number declared) :
    number + 1 + declared.subcommands.length ≤ cs.length := by
  have hlength := congrArg List.length h.subcommands
  rw [List.length_take, List.length_drop, List.length_mapIdx] at hlength
  have hroot := (List.getElem?_eq_some_iff.mp h.root).1
  omega

/-- Each subcommand stands at its number after the root. -/
theorem commandAt?_eq (h : HasTree cs number declared)
    (hsub : declared.subcommands[i]? = some sub) :
    commandAt? cs (number + 1 + i) 0
      = if Text.isBlankText sub.name then none else some { sub with parent := some number } := by
  have hi : i < declared.subcommands.length := (List.getElem?_eq_some_iff.mp hsub).1
  have hat := congrArg (·[i]?) h.subcommands
  simp only [List.getElem?_take_of_lt hi, List.getElem?_drop, List.getElem?_mapIdx, hsub,
    Option.map_some] at hat
  rw [commandAt?, hat, Option.bind_some, List.getElem?_cons_zero, Option.bind_some]
  split <;> rfl

/-- So the scan finds it there. -/
theorem subcommand?_eq (h : HasTree cs number declared)
    (hsub : declared.subcommands[i]? = some sub) :
    subcommand? cs ⟨number, 0⟩ (number + 1 + i)
      = if Text.isBlankText sub.name then none else some (Command.placed number (sub, i)) := by
  have hroot : rootCommand? cs number = some { declared with
      subcommands := declared.subcommands.filter fun sub => !Text.isBlankText sub.name } := by
    rw [rootCommand?, h.root]
    rfl
  rw [subcommand?, h.commandAt?_eq hsub]
  split
  · rfl
  · simp only [Option.bind_some, hroot, and_self, if_true]
    rfl

/-- It finds nothing before the tree, and nothing behind it. -/
theorem subcommand?_eq_none (h : HasTree cs number declared) {c : Nat}
    (hc : c ≤ number ∨ number + declared.subcommands.length < c) :
    subcommand? cs ⟨number, 0⟩ c = none := by
  refine Option.bind_eq_none_iff.mpr fun sub hat => ?_
  refine Option.bind_eq_none_iff.mpr fun p hparent => ?_
  refine Option.bind_eq_none_iff.mpr fun _ _ => if_neg ?_
  rintro ⟨hp, -⟩
  obtain ⟨-, hlt, hle⟩ := h.only c 0 sub hat (hparent.trans (congrArg some hp))
  omega

/-- The scan over all collections finds the named subcommands of the tree,
in the order they are declared. -/
theorem subcommandsOf_eq (h : HasTree cs number declared) :
    subcommandsOf cs ⟨number, 0⟩ = declared.named.map (Command.placed number) := by
  obtain ⟨behind, hbehind⟩ := Nat.exists_eq_add_of_le h.le_length
  have hnone (c : Nat) (hc : c ≤ number ∨ number + declared.subcommands.length < c) :
      subcommand? cs ⟨number, 0⟩ c = none := h.subcommand?_eq_none hc
  have hahead : (List.range (number + 1)).filterMap (subcommand? cs ⟨number, 0⟩) = [] := by
    refine List.filterMap_eq_nil_iff.mpr fun c hc => hnone c (Or.inl ?_)
    exact Nat.lt_succ_iff.mp (List.mem_range.mp hc)
  have htail : ((List.range behind).map (number + 1 + declared.subcommands.length + ·)).filterMap
      (subcommand? cs ⟨number, 0⟩) = [] := by
    refine List.filterMap_eq_nil_iff.mpr fun c hc => hnone c (Or.inr ?_)
    obtain ⟨i, -, rfl⟩ := List.mem_map.mp hc
    omega
  have hblock : ((List.range declared.subcommands.length).map (number + 1 + ·)).filterMap
      (subcommand? cs ⟨number, 0⟩) = declared.named.map (Command.placed number) := by
    rw [Command.map_placed_named, filterMap_zipIdx, List.filterMap_map]
    refine List.filterMap_congr fun i hi => ?_
    have hsub := List.getElem?_eq_getElem (List.mem_range.mp hi)
    rw [hsub, Option.bind_some]
    exact h.subcommand?_eq hsub
  rw [Article.subcommandsOf_eq, hbehind, List.range_add, List.range_add, List.filterMap_append,
    List.filterMap_append, hahead, hblock, htail, List.nil_append, List.append_nil]

end Collection.HasTree

namespace Collection

/-- An accepted tree stands among the collections of all documents. -/
theorem exists_hasTree {earlier : List (String × String)} (later : List (String × String))
    {file content : String} {fields : List (String × Json)} {accepted : List Collection}
    (hread : Json.read content = .ok (.object fields)) (hentries : fields.lookup "entries" = none)
    (hsubs : (fields.lookup "subcommands").isSome)
    (haccepted : append (afterAll earlier) file content = .ok accepted) :
    ∃ declared : Command, Command.decoder .direct (.object fields) = .ok declared
      ∧ declared.parent = none
      ∧ HasTree (afterAll (earlier ++ (file, content) :: later)) (afterAll earlier).length
          declared := by
  obtain ⟨declared, hdecode, rfl⟩ := exists_declared_of_append hread hentries hsubs haccepted
  have hunplaced := Command.unplaced_of_decoder _ _ _ hdecode
  obtain ⟨more, hmore, hparents⟩ :=
    exists_later (afterAll earlier ++ ofTree (afterAll earlier).length declared) later
  refine ⟨declared, hdecode, hunplaced.parent, ?_⟩
  have hall : afterAll (earlier ++ (file, content) :: later)
      = later.foldl afterDocument (afterDocument (afterAll earlier) (file, content)) := by
    rw [afterAll, List.foldl_append, List.foldl_cons, afterAll]
  rw [hall, afterDocument, haccepted]
  dsimp only
  rw [hmore]
  exact hasTree_of_append hunplaced (parentsSound_afterAll earlier) hparents

end Collection

namespace Article

open Collection (HasTree afterAll commandAt? exists_hasTree treeDocument)
open Page (Plan)

/-- A link on the page of the root of the tree at a number, and the
subcommand it is for: the one that stands in the collection whose page it
leads to. -/
structure LinkFor (cs : List Collection) (s : Scribe) (number : Nat) (link : PageLink)
    (x : Command × Nat) : Prop where
  stands : commandAt? cs (number + 1 + x.2) 0 = some { x.1 with parent := some number }
  name : link.name = x.1.name
  description : link.description = s.inline x.1.shortDescription
  href : ∃ page, (Plan.assign cs).page? (number + 1 + x.2) 0 = some page
    ∧ link.href = some (Link.encodePath page)

/-- The link on a root's page to one of its named subcommands. -/
def subcommandLink (cs : List Collection) (s : Scribe) (number : Nat) (x : Command × Nat) :
    PageLink :=
  s.pageLink (((Plan.assign cs).page? (number + 1 + x.2) 0).map Link.encodePath) x.1

namespace Context

variable {markdown : Markdown.Engine} {cs : List Collection} {number : Nat} {declared sub : Command}
  {place : Place} {p : Nat}

/-- What has a parent lists what it holds, without links. -/
theorem subcommandLinks_of_parent (ctx : Context) (s : Scribe) (h : sub.parent = some p) :
    ctx.subcommandLinks s place sub = sub.subcommands.map (s.pageLink none) := by
  have hsub : sub.isSubcommand = true := by rw [Command.isSubcommand, h]; rfl
  rw [subcommandLinks, hsub]
  rfl

/-- The root of a tree lists its named subcommands with the pages of their
collections, also when there are none. -/
theorem subcommandLinks_asRoot (s : Scribe) (h : HasTree cs number declared)
    (hparent : declared.parent = none) :
    (ofRun markdown cs).subcommandLinks s ⟨number, 0⟩ declared.asRoot
      = declared.named.map (subcommandLink cs s number) := by
  have hroot : declared.asRoot.isSubcommand = false := by
    change declared.parent.isSome = false
    rw [hparent]
    rfl
  unfold subcommandLinks
  rw [hroot]
  change (if (subcommandsOf cs ⟨number, 0⟩).isEmpty then _ else
    (subcommandsOf cs ⟨number, 0⟩).map _) = _
  rw [h.subcommandsOf_eq]
  split
  · next hempty =>
    -- Nothing has a name, so the root keeps no subcommand either.
    have hnone : declared.named = [] := List.map_eq_nil_iff.mp (List.isEmpty_iff.mp hempty)
    change (declared.subcommands.filter _).map _ = _
    rw [← Command.map_fst_named, hnone]
    rfl
  · rw [List.map_map]
    rfl

/-- Each of them links to the page of its own collection. -/
theorem linkFor_subcommandLink (s : Scribe) (h : HasTree cs number declared) :
    ∀ x ∈ declared.named, LinkFor cs s number (subcommandLink cs s number x) x := by
  rintro ⟨sub, i⟩ hmem
  obtain ⟨hzip, hnamed⟩ := List.mem_filter.mp hmem
  have hat := h.commandAt?_eq (List.mem_zipIdx_iff_getElem?.mp hzip)
  rw [if_neg (by simpa using hnamed)] at hat
  obtain ⟨page, hpage⟩ := Collection.exists_page_of_commandAt? hat
  have hhref : (subcommandLink cs s number (sub, i)).href = some (Link.encodePath page) :=
    congrArg (Option.map Link.encodePath) hpage
  refine ⟨hat, rfl, ?_, page, hpage, hhref⟩
  simp only [subcommandLink, Scribe.pageLink]

/-- Whatever documents are read, the page of a tree's root has one link for
each subcommand that has a name, in the order they are declared, and each
link is made from that subcommand and the page of its own collection. The
page of a subcommand has the names of all that it holds, in their order, and
links to none. -/
theorem subcommands_listed (markdown : Markdown.Engine) (documents : List (String × String)) :
    let cs : List Collection := afterAll documents
    let ctx := ofRun markdown cs
    (∀ earlier file content later fields accepted,
      documents = earlier ++ (file, content) :: later →
      Json.read content = .ok (.object fields) → fields.lookup "entries" = none →
      (fields.lookup "subcommands").isSome →
      Collection.append (afterAll earlier) file content = .ok accepted →
      ∃ declared, Command.decoder .direct (.object fields) = .ok declared
        ∧ let number := (afterAll earlier).length
          let root := declared.asRoot
          commandAt? cs number 0 = some root
          ∧ ∀ moduleName article,
            ctx.article ⟨number, 0⟩ moduleName (.command root) = .ok article →
            ∃ body, article.body = .command body
              ∧ List.Forall₂ (LinkFor cs (ctx.scribe root.name (ctx.commandDepth root)) number)
                  body.subcommands declared.named)
    ∧ ∀ c e sub p, commandAt? cs c e = some sub → sub.parent = some p →
      ∀ moduleName article, ctx.article ⟨c, e⟩ moduleName (.command sub) = .ok article →
        ∃ body, article.body = .command body
          ∧ body.subcommands = sub.subcommands.map fun nested =>
              ⟨nested.name, none,
                (ctx.scribe sub.name (ctx.commandDepth sub)).inline nested.shortDescription⟩ := by
  intro cs ctx
  refine ⟨?_, fun c e sub p hat hparent moduleName article h => ?_⟩
  · rintro earlier file content later fields accepted rfl hread hentries hsubs haccepted
    obtain ⟨declared, hdecode, hparent, htree⟩ :=
      exists_hasTree later hread hentries hsubs haccepted
    refine ⟨declared, hdecode, ?_, fun moduleName article h => ⟨_, body_of_article h, ?_⟩⟩
    · rw [commandAt?, htree.root]
      rfl
    · change List.Forall₂ _ (ctx.subcommandLinks _ _ _) _
      rw [subcommandLinks_asRoot _ htree hparent, List.forall₂_map_left_iff, List.forall₂_same]
      exact linkFor_subcommandLink _ htree
  · exact ⟨_, body_of_article h, subcommandLinks_of_parent ctx _ hparent⟩

/-- What is in the text of a tree of which one subcommand has no name. -/
theorem exists_fields_treeDocument :
    ∃ fields, Json.read treeDocument.2 = .ok (.object fields)
      ∧ fields.lookup "entries" = none ∧ (fields.lookup "subcommands").isSome
      ∧ (Command.decoder .direct (.object fields)).map
          (fun declared => declared.named.map fun x => (x.1.name, x.2)) = .ok [("new", 1)] := by
  have hvalue : ((Json.read treeDocument.2).toOption.any fun v =>
      (v.get? "entries").isNone && (v.get? "subcommands").isSome
        && decide ((Command.decoder .direct v).map
          (fun declared => declared.named.map fun x => (x.1.name, x.2)) = .ok [("new", 1)]))
        = true := by
    decide +kernel
  cases hread : Json.read treeDocument.2 with
  | error fault =>
    rw [hread] at hvalue
    cases hvalue
  | ok v =>
    rw [hread, Except.toOption, Option.any_some] at hvalue
    simp only [Bool.and_eq_true, Option.isNone_iff_eq_none, decide_eq_true_eq] at hvalue
    obtain ⟨⟨hentries, hsubs⟩, hshape⟩ := hvalue
    cases v with
    | object fields => exact ⟨fields, rfl, hentries, hsubs, hshape⟩
    | _ => cases hsubs

/-- Of two equal trees, the second one's root links to its own subcommand. -/
theorem subcommands_listed_equal_trees :
    let cs : List Collection := afterAll [treeDocument, treeDocument]
    ∃ root article body, commandAt? cs 3 0 = some root
      ∧ (ofRun true cs).article ⟨3, 0⟩ "unknown" (.command root) = .ok article
      ∧ article.body = .command body
      ∧ body.subcommands.map (fun link => (link.name, link.href))
        = [("new", some "ng/new-1.html")] := by
  intro cs
  obtain ⟨fields, hread, hentries, hsubs, hshape⟩ := exists_fields_treeDocument
  have haccepted : (Collection.append (afterAll [treeDocument]) "ng.json" treeDocument.2).toBool
      = true := by
    decide +kernel
  have hthree : (afterAll [treeDocument]).length = 3 := by decide +kernel
  have htarget : (Plan.assign cs).page? 5 0 = some "ng/new-1.html" := by decide +kernel
  have hroots : ((commandAt? cs 3 0).any fun root =>
      ((ofRun true cs).article ⟨3, 0⟩ "unknown" (.command root)).toBool) = true := by
    decide +kernel
  cases happend : Collection.append (afterAll [treeDocument]) "ng.json" treeDocument.2 with
  | error failure =>
    rw [happend] at haccepted
    cases haccepted
  | ok accepted =>
    obtain ⟨declared, hdecode, hroot, hlists⟩ :=
      (subcommands_listed true [treeDocument, treeDocument]).1 [treeDocument] "ng.json"
        treeDocument.2 [] fields accepted rfl hread hentries hsubs happend
    rw [hthree] at hroot hlists
    rw [hroot, Option.any_some] at hroots
    cases harticle : (ofRun true cs).article ⟨3, 0⟩ "unknown" (.command declared.asRoot) with
    | error failure =>
      rw [harticle] at hroots
      cases hroots
    | ok article =>
      obtain ⟨body, hbody, hlinks⟩ := hlists "unknown" article harticle
      refine ⟨declared.asRoot, article, body, hroot, harticle, hbody, ?_⟩
      -- One subcommand has a name, the second that is declared.
      rw [hdecode] at hshape
      obtain ⟨⟨sub, i⟩, hnamed, hsub⟩ := List.map_eq_singleton_iff.mp (Except.ok.inj hshape)
      obtain ⟨hname, rfl⟩ := Prod.mk.inj hsub
      rw [hnamed] at hlinks
      generalize body.subcommands = links at hlinks ⊢
      cases hlinks with
      | @cons link _ _ _ hlink hnil =>
        cases hnil
        obtain ⟨page, hpage, hhref⟩ := hlink.href
        have hsame : page = "ng/new-1.html" := Option.some.inj (hpage.symm.trans htarget)
        rw [List.map_cons, List.map_nil, hlink.name, hname, hhref, hsame]
        decide +kernel

end Context

end Article

end ApiPages
