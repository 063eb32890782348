import ApiPages.Markdown.Standard
import ApiPages.Article.OfEntry
import ApiPages.Proofs.Page.Plan
import ApiPages.Sample

/-!
# What a page owes to the other entries

A run can be repeated for one entry when the others have changed: its page is
the same as long as they are called the same. `Identity` is all of an entry that
others can tell, and the plan and the index are read off the identities of a
run's entries (`requests_eq`, `symbols_eq`). So two runs with the same
identities have the same plan and the same index, and the article of an API
entry is written with the index alone.
-/

namespace ApiPages

namespace Entry

/-- Which pages an entry can have. -/
inductive Category where
  | api
  | command
  /-- None: it is unknown or malformed. -/
  | neither
  deriving DecidableEq, Repr

/-- What other entries can tell of an entry. -/
structure Identity where
  category : Category
  name : String
  tag : String
  /-- The collection that holds a command's root. -/
  parent : Option Nat
  deriving DecidableEq, Repr

def category : Entry → Category
  | command _ => .command
  | unknown .. | malformed .. => .neither
  | _ => .api

def identity (e : Entry) : Identity := ⟨e.category, e.name, e.tag, e.command?.bind Command.parent⟩

namespace Identity

/-- The name of a command. -/
def commandName? (i : Identity) : Option String :=
  if i.category = .command then some i.name else none

/-- The page that an entry asks for, given what the roots are called. -/
def request (i : Identity) (moduleName : String) (rootName : Nat → Option String) : Option String :=
  match i.category with
  | .api => some (Page.apiName moduleName i.name i.tag)
  | .command => some (Page.commandName (i.parent.bind rootName) i.name)
  | .neither => none

/-- The symbol of an entry with its page. -/
def symbol? (i : Identity) (page : Option String) : Option (String × String) :=
  if i.category = .api then page.map fun page => (i.name, page) else none

end Identity

/-- The name of a command is part of its identity. -/
theorem map_name_command? (e : Entry) : e.command?.map Command.name = e.identity.commandName? := by
  cases e <;> rfl

end Entry

namespace Collection

/-- What can be told of a collection from outside. -/
structure Identity where
  moduleName : String
  entries : List Entry.Identity
  deriving DecidableEq, Repr

def identity (c : Collection) : Identity := ⟨c.moduleName, c.entries.map Entry.identity⟩

/-- What the root command in the collection of a number is called. -/
def rootName? (identities : List Identity) (number : Nat) : Option String :=
  identities[number]?.bind fun i => i.entries.head?.bind Entry.Identity.commandName?

/-- So the name of a root is known from the identities of its collection. -/
theorem map_name_rootCommand? (cs : List Collection) (number : Nat) :
    (rootCommand? cs number).map Command.name = rootName? (cs.map identity) number := by
  have hfirst (c : Collection) : (c.entries.head?.bind Entry.command?).map Command.name
      = c.identity.entries.head?.bind Entry.Identity.commandName? := by
    rw [identity, List.head?_map]
    cases c.entries.head? with
    | none => rfl
    | some e => exact e.map_name_command?
  rw [rootName?, List.getElem?_map]
  show ((cs[number]?).bind fun c => c.entries.head?.bind Entry.command?).map Command.name = _
  cases cs[number]? with
  | none => rfl
  | some c => exact hfirst c

end Collection

open Collection (rootName?)
open Page (Plan requestedName requests)
open Link (Index)
open Article (Place Context)

/-! ## Plan and index -/

variable {cs cs' : List Collection}

/-- The name that an entry asks for is a function of identities. -/
theorem Page.request_eq (moduleName : String) (e : Entry) (cs : List Collection) :
    (if e.isRenderable then some (requestedName moduleName e cs) else none)
      = e.identity.request moduleName (rootName? (cs.map Collection.identity)) := by
  cases e with
  | command c =>
    have hroot : (c.parent.bind (Collection.rootCommand? cs)).map Command.name
        = c.parent.bind (rootName? (cs.map Collection.identity)) := by
      rw [Option.map_bind]
      exact Option.bind_congr fun p _ => Collection.map_name_rootCommand? cs p
    show some (commandName ((c.parent.bind (Collection.rootCommand? cs)).map Command.name) c.name)
      = some (commandName (c.parent.bind (rootName? (cs.map Collection.identity))) c.name)
    rw [hroot]
  | _ => rfl

/-- What a collection's entries ask for, as others can tell. -/
theorem Page.requests_eq (c : Collection) : requests cs c = c.identity.entries.map fun i =>
    i.request c.identity.moduleName (rootName? (cs.map Collection.identity)) := by
  rw [requests, Collection.identity, List.map_map]
  exact List.map_congr_left fun e _ => request_eq c.moduleName e cs

/-- The requests of a run are a function of the identities in it. -/
theorem Page.map_requests_eq (cs : List Collection) : cs.map (requests cs)
    = (cs.map Collection.identity).map fun c => c.entries.map fun i =>
        i.request c.moduleName (rootName? (cs.map Collection.identity)) := by
  rw [List.map_map]
  exact List.map_congr_left fun c _ => requests_eq c

namespace Link.Index

/-- The symbols of a collection are read off its identities and their pages. -/
theorem symbols_eq (es : List Entry) (pages : List (Option String)) :
    symbols es pages = ((es.map Entry.identity).zip pages).filterMap fun cell =>
      cell.1.symbol? cell.2 := by
  induction es generalizing pages with
  | nil => rfl
  | cons e es ih =>
    cases pages with
    | nil => rfl
    | cons page pages =>
      rw [List.map_cons, List.zip_cons_cons, List.filterMap_cons, ← ih]
      cases e <;> cases page <;> rfl

/-- So are those of all collections. -/
theorem flatMap_symbols_eq (cs : List Collection) (rows : List (List (Option String))) :
    ((cs.zip rows).flatMap fun (c, row) => symbols c.entries row)
      = ((cs.map Collection.identity).zip rows).flatMap fun (c, row) =>
          (c.entries.zip row).filterMap fun cell => cell.1.symbol? cell.2 := by
  rw [List.zip_map_left, List.flatMap_map]
  refine congrArg (List.flatMap · _) (funext fun (c, row) => ?_)
  exact symbols_eq c.entries row

end Link.Index

section

variable (h : cs.map Collection.identity = cs'.map Collection.identity)
include h

/-- Runs of the same identities have the same plan. -/
theorem Page.Plan.assign_congr : assign cs = assign cs' := by
  rw [assign, assign, map_requests_eq, map_requests_eq, h]

/-- Runs of the same identities have the same index. -/
theorem Link.Index.build_congr : build cs = build cs' := by
  rw [build, build, Plan.assign_congr h]
  dsimp only
  rw [flatMap_symbols_eq, flatMap_symbols_eq, h]

end

/-! ## Articles -/

/-- The article of an API entry is written with the index, wherever the entry
stands. -/
theorem Article.Context.article_of_info? (ctx ctx' : Context) {place place' : Place} {e : Entry}
    (hhighlight : ctx.markdown = ctx'.markdown) (hindex : ctx.index = ctx'.index)
    (hinfo : e.info?.isSome = true) (moduleName : String) :
    ctx.article place moduleName e = ctx'.article place' moduleName e := by
  obtain ⟨markdown, index, collections⟩ := ctx
  obtain ⟨markdown', index', collections'⟩ := ctx'
  obtain rfl := hhighlight
  obtain rfl := hindex
  cases e with
  | command => cases hinfo
  | unknown => cases hinfo
  | malformed => cases hinfo
  | _ => rfl

/-- Two runs whose entries are called the same have one plan and one index, and
every API entry that they share has one article in both, or fails in the same
way. -/
theorem article_of_identities (markdown : Markdown.Engine) (cs cs' : List Collection)
    (h : cs.map Collection.identity = cs'.map Collection.identity) :
    Plan.assign cs = Plan.assign cs'
    ∧ (∀ name, (Index.build cs).page? name = (Index.build cs').page? name)
    ∧ ∀ c e collection collection' entry,
      cs[c]? = some collection → cs'[c]? = some collection' →
      collection.entries[e]? = some entry → collection'.entries[e]? = some entry →
      entry.info?.isSome = true →
      (Context.ofRun markdown cs).article ⟨c, e⟩ collection.moduleName entry
        = (Context.ofRun markdown cs').article ⟨c, e⟩ collection'.moduleName entry := by
  have hindex : Index.build cs = Index.build cs' := Index.build_congr h
  refine ⟨Plan.assign_congr h, fun name => by rw [hindex], ?_⟩
  intro c e collection collection' entry hc hc' _ _ hinfo
  have hsame : collection.identity = collection'.identity := by
    have hat : (cs.map Collection.identity)[c]? = (cs'.map Collection.identity)[c]? := by rw [h]
    rw [List.getElem?_map, List.getElem?_map, hc, hc'] at hat
    exact Option.some.inj hat
  have hmodule : collection.moduleName = collection'.moduleName :=
    congrArg Collection.Identity.moduleName hsame
  rw [hmodule]
  exact Context.article_of_info? (.ofRun markdown cs) (.ofRun markdown cs') rfl hindex hinfo _

/-- A constant whose type is a class, when the class and a command change. -/
theorem article_of_identities_constant :
    let shared := Sample.constant "B" "A"
    let before := [⟨"m", [Sample.classLike "A" [], shared]⟩, .single (.command (.plain "ng"))]
    let after := [⟨"m", [Sample.classLike "A" [Sample.property "x" "B"], shared]⟩,
      .single (.command (Sample.command "ng"))]
    (Context.ofRun true before).article ⟨0, 1⟩ "m" shared
      = (Context.ofRun true after).article ⟨0, 1⟩ "m" shared := by
  intro shared before after
  have hidentities : before.map Collection.identity = after.map Collection.identity := by decide
  obtain ⟨-, -, harticles⟩ := article_of_identities true before after hidentities
  exact harticles 0 1 _ _ shared rfl rfl rfl rfl rfl

end ApiPages
