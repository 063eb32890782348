import ApiPages.Proofs.Article.Passage
import ApiPages.Proofs.Collection.Without

/-!
# Pages without one entry

An entry that can have no page asks for none and has no symbol. So without
it every other entry gets the page it had, the index knows the same symbols
with the same pages, and every article is written as before.
-/

namespace ApiPages

/-- Whether or not a cell asks for no page, the others are answered alike. -/
theorem Page.assignAll_without (front back : List (List (Option String)))
    (ahead behind : List (Option String)) :
    ∃ front' ahead' behind' back', front'.length = front.length ∧ ahead'.length = ahead.length
      ∧ behind'.length = behind.length
      ∧ assignAll [] (front ++ (ahead ++ none :: behind) :: back)
        = front' ++ (ahead' ++ none :: behind') :: back'
      ∧ assignAll [] (front ++ (ahead ++ behind) :: back)
        = front' ++ (ahead' ++ behind') :: back' := by
  let claimed := (assignEach [] front.flatten).2
  let taken := (assignEach claimed ahead).2
  refine ⟨assignAll [] front, (assignEach claimed ahead).1, (assignEach taken behind).1,
    assignAll (assignEach taken behind).2 back, length_assignAll front [],
    length_assignEach ahead claimed, length_assignEach behind taken, ?_, ?_⟩
  · rw [assignAll_append, assignAll, assignEach_append, assignEach_cons_none]
  · rw [assignAll_append, assignAll, assignEach_append]

namespace Gap

open Collection (ParentsSound commandAt? commandAt?_eq_some_iff rootCommand?)
open Page (Plan requests requestedName assignAll assignEach)
open Article (Place Context)

variable {g : Gap} {place : Place}

section

variable (hgone : g.gone.isRenderable = false) (hsound : ParentsSound g.full)
include hgone hsound

/-! ## The plan -/

/-- Every entry asks for the name it asked for. -/
theorem requestedName_rest {collection : Collection} {e : Entry} (hc : collection ∈ g.full)
    (he : e ∈ collection.entries) (moduleName : String) :
    requestedName moduleName e g.rest = requestedName moduleName e g.full := by
  refine Page.requestedName_congr (fun sub hsub => ?_) moduleName
  subst hsub
  obtain ⟨c, hc⟩ := List.mem_iff_getElem?.mp hc
  obtain ⟨i, he⟩ := List.mem_iff_getElem?.mp he
  have hat : commandAt? g.full c i = some sub := commandAt?_eq_some_iff.mpr ⟨_, hc, he⟩
  exact root_rest hgone hsound hat

/-- Other collections ask for the same names without the entry. -/
theorem requests_rest {collection : Collection} (hc : collection ∈ g.full) :
    requests g.rest collection = requests g.full collection := by
  refine List.map_congr_left fun e he => ?_
  rw [requestedName_rest hgone hsound hc he]

/-- The pages of both plans are the same but for the entry's own, which is
none. -/
theorem exists_pages :
    ∃ front ahead behind back, front.length = g.front.length ∧ ahead.length = g.ahead.length
      ∧ behind.length = g.behind.length
      ∧ (Plan.assign g.full).pages = front ++ (ahead ++ none :: behind) :: back
      ∧ (Plan.assign g.rest).pages = front ++ (ahead ++ behind) :: back := by
  let own : Collection := ⟨g.moduleName, g.ahead ++ g.gone :: g.behind⟩
  let request (e : Entry) : Option String :=
    if e.isRenderable then some (requestedName g.moduleName e g.full) else none
  obtain ⟨front, ahead, behind, back, hfront, hahead, hbehind, hfull, hrest⟩ :=
    Page.assignAll_without (g.front.map (requests g.full)) (g.back.map (requests g.full))
      (g.ahead.map request) (g.behind.map request)
  rw [List.length_map] at hfront hahead hbehind
  refine ⟨front, ahead, behind, back, hfront, hahead, hbehind, ?_, ?_⟩
  · have hnone : request g.gone = none := if_neg (by simp [hgone])
    have hown : requests g.full own = g.ahead.map request ++ none :: g.behind.map request := by
      show List.map request _ = _
      rw [List.map_append, List.map_cons, hnone]
    rw [← hfull, ← hown, ← List.map_cons, ← List.map_append]
    rfl
  · have hown : requests g.rest ⟨g.moduleName, g.ahead ++ g.behind⟩
        = g.ahead.map request ++ g.behind.map request := by
      rw [← List.map_append]
      refine List.map_congr_left fun e he => ?_
      have hmem : own ∈ g.full := by simp [full, own]
      rw [requestedName_rest hgone hsound hmem
        (((List.sublist_cons_self g.gone g.behind).append_left g.ahead).subset he)]
    have hbefore : g.front.map (requests g.rest) = g.front.map (requests g.full) :=
      List.map_congr_left fun c hc => requests_rest hgone hsound (by simp [full, hc])
    have hafter : g.back.map (requests g.rest) = g.back.map (requests g.full) :=
      List.map_congr_left fun c hc => requests_rest hgone hsound (by simp [full, hc])
    rw [← hrest, ← hown, ← hbefore, ← hafter, ← List.map_cons, ← List.map_append]
    rfl

/-- Every other entry has the page it had. -/
theorem page?_rest (h : place ≠ g.place) :
    (Plan.assign g.rest).page? (g.place.movedUp place).collection (g.place.movedUp place).entry
      = (Plan.assign g.full).page? place.collection place.entry := by
  obtain ⟨front, ahead, behind, back, hfront, hahead, -, hfull, hrest⟩ :=
    exists_pages hgone hsound
  have hplace : g.place = ⟨front.length, ahead.length⟩ := by rw [Gap.place, hfront, hahead]
  rw [Plan.page?, Plan.page?, hfull, hrest, hplace, cell_without (hplace ▸ h)]

/-! ## The index -/

/-- The index knows the same symbols, each with the same page. -/
theorem targets_rest : (Link.Index.build g.rest).targets = (Link.Index.build g.full).targets := by
  obtain ⟨front, ahead, behind, back, hfront, hahead, hbehind, hfull, hrest⟩ :=
    exists_pages hgone hsound
  have hsame : Link.Index.symbols (g.ahead ++ g.behind) (ahead ++ behind)
      = Link.Index.symbols (g.ahead ++ g.gone :: g.behind) (ahead ++ none :: behind) := by
    rw [Link.Index.symbols_append hahead.symm, Link.Index.symbols_append hahead.symm,
      Link.Index.symbols_cons_none]
  show Link.Index.keepFirst ((g.rest.zip (Plan.assign g.rest).pages).flatMap _)
    = Link.Index.keepFirst ((g.full.zip (Plan.assign g.full).pages).flatMap _)
  rw [hfull, hrest, rest, full, List.zip_append hfront.symm, List.zip_append hfront.symm,
    List.zip_cons_cons, List.zip_cons_cons, List.flatMap_append, List.flatMap_append,
    List.flatMap_cons, List.flatMap_cons]
  dsimp only
  rw [hsame]

/-! ## Articles -/

variable {c : Nat} {sub : Command} (markdown : Markdown.Engine)

/-- The root of a command stays, and is not in the entry's collection. -/
theorem root?_rest {e : Nat} (hat : commandAt? g.full c e = some sub) :
    (Context.ofRun markdown g.rest).root? sub = (Context.ofRun markdown g.full).root? sub
      ∧ ∀ root ∈ (Context.ofRun markdown g.full).root? sub, root.2 ≠ g.place.collection := by
  show (sub.parent.bind fun p => (rootCommand? g.rest p).bind fun root => some (root, p))
      = (sub.parent.bind fun p => (rootCommand? g.full p).bind fun root => some (root, p))
    ∧ ∀ root ∈ sub.parent.bind fun p => (rootCommand? g.full p).bind fun root => some (root, p), _
  cases hparent : sub.parent with
  | none => exact ⟨rfl, nofun⟩
  | some p =>
    have hp : p ≠ g.place.collection := (ne_of_parent hgone hsound hat hparent).2
    rw [Option.bind_some, Option.bind_some, rootCommand?_rest hp]
    refine ⟨rfl, fun root hroot => ?_⟩
    obtain ⟨_, _, ⟨⟩⟩ := Option.bind_eq_some_iff.mp hroot
    exact hp

/-- The first page of another collection is found under its own number. -/
theorem firstPage?_rest (h : c ≠ g.place.collection) :
    (Context.ofRun markdown g.rest).firstPage? c
      = (Context.ofRun markdown g.full).firstPage? c := by
  have hplace : (⟨c, 0⟩ : Place) ≠ g.place := fun heq => h (heq ▸ rfl)
  have hpage := page?_rest hgone hsound hplace
  rwa [Article.Place.movedUp_of_ne h] at hpage

/-- The page of a command lies as deep as before. -/
theorem commandDepth_rest {e : Nat} (hat : commandAt? g.full c e = some sub) :
    (Context.ofRun markdown g.rest).commandDepth sub
      = (Context.ofRun markdown g.full).commandDepth sub := by
  rw [Context.commandDepth, Context.commandDepth, (root?_rest hgone hsound markdown hat).1]

/-- A command links to its root as before. -/
theorem rootLink?_rest (s : Article.Scribe) {e : Nat} (hat : commandAt? g.full c e = some sub) :
    (Context.ofRun markdown g.rest).rootLink? s sub
      = (Context.ofRun markdown g.full).rootLink? s sub := by
  obtain ⟨hroot, hroots⟩ := root?_rest hgone hsound markdown hat
  rw [Context.rootLink?, Context.rootLink?, hroot]
  refine Option.map_congr fun (root, number) hmem => ?_
  dsimp only
  rw [firstPage?_rest hgone hsound markdown (hroots (root, number) hmem)]

/-- A command lists the same subcommands with the same links. -/
theorem subcommandLinks_rest (s : Article.Scribe) :
    (Context.ofRun markdown g.rest).subcommandLinks s (g.place.movedUp place) sub
      = (Context.ofRun markdown g.full).subcommandLinks s place sub := by
  have hsame : Article.subcommandsOf (Context.ofRun markdown g.rest).collections
        (g.place.movedUp place)
      = Article.subcommandsOf (Context.ofRun markdown g.full).collections place :=
    subcommandsOf_rest hgone hsound
  have hpages : ∀ paged ∈ (if sub.isSubcommand then []
        else Article.subcommandsOf (Context.ofRun markdown g.full).collections place),
      (Context.ofRun markdown g.rest).firstPage? paged.2
        = (Context.ofRun markdown g.full).firstPage? paged.2 := by
    intro paged hmem
    split at hmem
    · cases hmem
    · obtain ⟨-, hat, hparent, -⟩ := Article.mem_subcommandsOf_iff.mp hmem
      exact firstPage?_rest hgone hsound markdown (ne_of_parent hgone hsound hat hparent).1
  unfold Context.subcommandLinks
  rw [hsame]
  dsimp only
  generalize (if sub.isSubcommand then []
    else Article.subcommandsOf (Context.ofRun markdown g.full).collections place) = paged
    at hpages ⊢
  split
  · rfl
  · refine List.map_congr_left fun paged hmem => ?_
    rw [hpages paged hmem]

/-- So its article is the same. -/
theorem commandArticle_rest (s : Article.Scribe)
    (hat : commandAt? g.full place.collection place.entry = some sub) :
    (Context.ofRun markdown g.rest).commandArticle s (g.place.movedUp place) sub
      = (Context.ofRun markdown g.full).commandArticle s place sub := by
  have hbody : (Context.ofRun markdown g.rest).commandBody s (g.place.movedUp place) sub
      = (Context.ofRun markdown g.full).commandBody s place sub := by
    rw [Context.commandBody, Context.commandBody, rootLink?_rest hgone hsound markdown s hat,
      subcommandLinks_rest hgone hsound markdown s]
  rw [Context.commandArticle, Context.commandArticle, hbody]

/-- Every other entry's article is the one it was, and so is the failure of
an entry that has none. -/
theorem article_rest {collection : Collection} {e : Entry}
    (hc : g.full[place.collection]? = some collection)
    (he : collection.entries[place.entry]? = some e) (moduleName : String) :
    (Context.ofRun markdown g.rest).article (g.place.movedUp place) moduleName e
      = (Context.ofRun markdown g.full).article place moduleName e := by
  have htargets : (Context.ofRun markdown g.rest).index.targets
      = (Context.ofRun markdown g.full).index.targets := targets_rest hgone hsound
  have hsite : (Context.ofRun markdown g.rest).siteOf e
      = { (Context.ofRun markdown g.full).siteOf e with
          index := (Context.ofRun markdown g.rest).index } := by
    cases e with
    | command sub =>
      have hdepth := commandDepth_rest hgone hsound markdown
        (commandAt?_eq_some_iff.mpr ⟨collection, hc, he⟩)
      simp only [Context.siteOf, Context.linkDepth, hdepth]
    | _ => rfl
  have hon (site : Link.Site) :
      (Context.ofRun markdown g.rest).articleOn site (g.place.movedUp place) moduleName e
        = (Context.ofRun markdown g.full).articleOn site place moduleName e := by
    cases e with
    | command sub =>
      exact commandArticle_rest hgone hsound markdown _
        (commandAt?_eq_some_iff.mpr ⟨collection, hc, he⟩)
    | _ => rfl
  rw [Context.article_eq, hon, hsite]
  refine (Context.article_eq_of_agree _ place moduleName e fun p hp symbol member _ => ?_).symm
  -- Links are looked up among the symbols' pages, and these are the same.
  have hpage : (Context.ofRun markdown g.rest).index.page? symbol
      = (Context.ofRun markdown g.full).index.page? symbol := by
    rw [Link.Index.page?, Link.Index.page?, htargets]
  unfold Link.Site.href?
  exact (congrArg _ hpage).symm

end

end Gap

end ApiPages
