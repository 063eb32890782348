import ApiPages.Article.Scribe
import ApiPages.Collection

/-!
# The article of a command

A root lists the pages of its subcommands, which are the collections that
name its own as their root. A subcommand links back to its root, and lists
its own subcommands without links, as they have no pages.
-/

namespace ApiPages.Article

/-- What articles are written from, beside their entries. -/
structure Context where
  /-- What writes Markdown. -/
  markdown : Markdown.Engine
  index : Link.Index
  collections : List Collection

/-- The context of a run. -/
def Context.ofRun (markdown : Markdown.Engine) (collections : List Collection) : Context :=
  ⟨markdown, Link.Index.build collections, collections⟩

/-- The place of an entry in a run: the number of its collection, and its
own in that. -/
structure Place where
  collection : Nat
  entry : Nat
  deriving DecidableEq, Repr

namespace Scribe

/-- An alias with one dash for a letter, two for a word. -/
def dashed (other : String) : String := (if other.length == 1 then "-" else "--") ++ other

/-- An option. -/
def commandOption (s : Scribe) (o : CommandOption) : ShownOption where
  name := o.name
  displayName := if o.isPositional then "<" ++ o.name ++ ">" else "--" ++ o.name
  aliases := o.aliases.map dashed
  type := o.type
  description := s.inline o.description
  default := o.default.map Json.display
  allowedValues := o.allowedValues.map Json.display
  deprecation := s.deprecation o.deprecated []

/-- A command's name with its short description and a link. -/
def pageLink (s : Scribe) (href : Option String) (c : Command) : PageLink :=
  ⟨c.name, href, s.inline c.shortDescription⟩

end Scribe

/-- The positional arguments of a command, by position. -/
def positionals (options : List CommandOption) : List CommandOption :=
  (options.filter CommandOption.isPositional).mergeSort
    fun a b => a.positional.getD 0 ≤ b.positional.getD 0

/-- The subcommands that have the entry at a place as their root, each with
the number of its collection. -/
def subcommandsOf (collections : List Collection) (place : Place) : List (Command × Nat) :=
  collections.zipIdx.filterMap fun (collection, number) => do
    let sub ← collection.entries.head?.bind Entry.command?
    let parent ← sub.parent
    let _ ← Collection.rootCommand? collections parent
    if parent = place.collection ∧ place.entry = 0 then some (sub, number) else none

namespace Context

/-- The root of a subcommand, with the number of its collection. -/
def root? (ctx : Context) (c : Command) : Option (Command × Nat) := do
  let number ← c.parent
  let root ← Collection.rootCommand? ctx.collections number
  some (root, number)

/-- The page of the first entry of a collection. -/
def firstPage? (ctx : Context) (number : Nat) : Option String := ctx.index.plan.page? number 0

/-- How deep the page of a command lies. -/
def commandDepth (ctx : Context) (c : Command) : Nat :=
  Page.depth (Page.commandName ((ctx.root? c).map fun root => root.1.name) c.name)

/-- The scribe of an entry whose page lies at a depth. -/
def scribe (ctx : Context) (name : String) (depth : Nat) : Scribe :=
  ⟨ctx.markdown, ⟨ctx.index, depth, name⟩⟩

/-- The subcommands that a command lists: those with pages of their own,
or else those it holds. -/
def subcommandLinks (ctx : Context) (s : Scribe) (place : Place) (c : Command) :
    List PageLink :=
  let paged := if c.isSubcommand then [] else subcommandsOf ctx.collections place
  if paged.isEmpty then c.subcommands.map (s.pageLink none)
  else paged.map fun (sub, number) =>
    s.pageLink ((ctx.firstPage? number).map Link.encodePath) sub

/-- The link from a command to its root. -/
def rootLink? (ctx : Context) (s : Scribe) (c : Command) : Option PageLink :=
  (ctx.root? c).map fun (root, number) =>
    s.pageLink ((ctx.firstPage? number).map s.site.pathTo) root

/-- The body of a command's article. -/
def commandBody (ctx : Context) (s : Scribe) (place : Place) (c : Command) : CommandBody where
  usage := c.usage.getD c.name
  isSubcommand := c.isSubcommand
  label := if c.isSubcommand then "Subcommand" else "Command"
  aliases := c.aliases
  parent := ctx.rootLink? s c
  arguments := (positionals c.options).map s.commandOption
  options := (c.options.filter fun o => !o.isPositional).map s.commandOption
  subcommands := ctx.subcommandLinks s place c

/-- The article of the command at a place; an option without a name is
refused. -/
def ofCommand (ctx : Context) (place : Place) (c : Command) : Except Failure Article :=
  let s := ctx.scribe c.name (ctx.commandDepth c)
  match c.options.find? fun o => Text.isBlankText o.name with
  | some o => .error (s.malformed "cli" ("option of type \x60" ++ o.type ++ "\x60 has no name"))
  | none => .ok {
      name := c.name
      tag := "cli"
      category := "CLI"
      moduleName := none
      description := s.blocks c.description
      usageNotes := none
      deprecation := s.deprecation c.deprecated []
      badges := []
      seeAlso := []
      examples := []
      source := none
      body := .command (ctx.commandBody s place c) }

end Context

end ApiPages.Article
