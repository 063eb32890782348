import ApiPages.Article.OfEntry

/-!
# Where the links of an article stand

An article is written by one scribe, whose site is decided by the entry
before any text is read: `siteOf` is this site. `articleOn` is the article
written for any site, so that what an article owes to its site can be said;
the article of an entry is the one for the entry's own (`article_eq`).
-/

namespace ApiPages.Article.Context

variable (ctx : Context)

/-- The depth of an entry's page as its links count it: a command's by its
name and its root's, and none for an API entry. -/
def linkDepth : Entry → Nat
  | .command c => ctx.commandDepth c
  | _ => 0

/-- The site of an entry's links. -/
def siteOf (e : Entry) : Link.Site := ⟨ctx.index, ctx.linkDepth e, e.name⟩

/-- The article of a command, written by any scribe. -/
def commandArticle (s : Scribe) (place : Place) (c : Command) : Except Failure Article :=
  match c.options.find? fun o => Text.isBlankText o.name with
  | some o => .error (s.malformed "cli" ("option of type \x60" ++ o.type ++ "\x60 has no name"))
  | none => .ok {
      name := c.name
      tag := "cli"
      category := "CLI"
      moduleName := none
      description := s.blocks c.description
      usageNotes := none
      deprecation := s.deprecation c.deprecated []
      badges := []
      seeAlso := []
      examples := []
      source := none
      body := .command (ctx.commandBody s place c) }

/-- The article of an entry, with its links on any site. -/
def articleOn (site : Link.Site) (place : Place) (moduleName : String) (e : Entry) :
    Except Failure Article :=
  let s : Scribe := ⟨ctx.markdown, site⟩
  let ofBody (info : EntryInfo) (body : Except Failure Body) : Except Failure Article :=
    body.map (s.article moduleName info)
  match e with
  | .unknown name tag _ => .error (.unsupported name tag)
  | .malformed name tag reason => .error (.malformed name tag reason)
  | .command c => ctx.commandArticle s place c
  | .classLike c => ofBody c.info ((s.classBody "class" c).map .classLike)
  | .interface c => ofBody c.info ((s.classBody "interface" c).map .interface)
  | .function f => ofBody f.info (s.functionBody f)
  | .initializerApi f => ofBody f.info (s.initializerApiBody f)
  | .constant c => ofBody c.info (.ok (.constant (s.type c.declaration)))
  | .typeAlias a => ofBody a.info (.ok (.typeAlias (s.type a.head ++ " = " ++ s.type a.type)))
  | .enumeration e => ofBody e.info ((s.members e.members).map .enumeration)
  | .decorator d => ofBody d.info ((s.members d.members).map (.decorator d.placement.label))
  | .block info => ofBody info (.ok .block)

/-- The article of an entry stands on the entry's own site. -/
theorem article_eq (place : Place) (moduleName : String) (e : Entry) :
    ctx.article place moduleName e = ctx.articleOn (ctx.siteOf e) place moduleName e := by
  cases e <;> rfl

end ApiPages.Article.Context
