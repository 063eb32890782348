import ApiPages.Proofs.Article.Site
import ApiPages.Proofs.Link.Mention

/-!
# The texts of an entry

`passages` collects the texts of an entry that are written with links, part
by part as the scribe writes them. They are all of them: scribes that agree
on the links of an entry's passages write the same article of it
(`articleOn_congr`), so the index of a run decides nothing about a page but
which of the symbols that its entry mentions are links, and where they lead.
-/

namespace ApiPages

open Link (Passage)

namespace Article

/-! ## What is written of each part -/

/-- The message of a deprecation. -/
def deprecationPassages (field : Option Deprecation) (tags : List DocTag) : List Passage :=
  (Deprecation.resolve field tags).message.toList.map .prose

def usagePassages (field : Option String) (tags : List DocTag) : List Passage :=
  (DocTag.usageNotes field tags).toList.map .prose

/-- What the first `@returns` tag says. -/
def returnsPassages (tags : List DocTag) : List Passage :=
  ((DocTag.find? tags "returns").map fun tag => .prose (Text.trim tag.comment)).toList

def parameterPassages (tags : List DocTag) (p : Parameter) : List Passage :=
  [.type p.type, .prose (if Text.isBlankText p.description
    then (Scribe.paramDescription? tags p.name).getD "" else p.description)]

/-- A signature, with the marker of the member it belongs to. -/
def overloadPassages (marker : Option Deprecation) (sig : Signature) : List Passage :=
  sig.params.flatMap (parameterPassages sig.tags)
    ++ [.type (Generic.declarations sig.generics), .type sig.returnTypeOrVoid,
      .prose sig.description]
    ++ returnsPassages sig.tags ++ usagePassages none sig.tags
    ++ deprecationPassages marker sig.tags

def callablePassages (c : Callable) : List Passage := c.signatures.flatMap (overloadPassages none)

/-- A member that is no method. -/
def plainPassages (i : MemberInfo) : List Passage :=
  .prose i.description :: deprecationPassages i.deprecated i.tags

def memberPassages : Member → List Passage
  | .method m => deprecationPassages m.info.deprecated m.info.tags
      ++ overloadPassages m.info.deprecated m.signature
  | .property p | .getter p | .setter p => plainPassages p.info ++ [.type p.type]
  | .enumItem e => plainPassages e.info ++ if e.type.isEmpty then [] else [.type e.type]

/-- The Markdown of an example. -/
def exampleText (comment : String) : String :=
  if Text.hasWord Scribe.fence.toList comment.toList then comment
  else Scribe.fence ++ "typescript\n" ++ Text.trim comment ++ "\n" ++ Scribe.fence

/-- What all API entries share. -/
def infoPassages (i : EntryInfo) : List Passage :=
  .prose i.description :: usagePassages i.usageNotes i.tags
    ++ deprecationPassages i.deprecated i.tags
    ++ (DocTag.named i.tags "see").map (fun tag => .prose (Text.trim tag.comment))
    ++ ((DocTag.named i.tags "example").filter fun tag => !Text.isBlankText tag.comment).map
      fun tag => .prose (exampleText tag.comment)

def optionPassages (o : CommandOption) : List Passage :=
  .prose o.description :: deprecationPassages o.deprecated []

/-- The commands that a command lists. -/
def Context.listed (ctx : Context) (place : Place) (c : Command) : List Command :=
  let paged := if c.isSubcommand then [] else subcommandsOf ctx.collections place
  if paged.isEmpty then c.subcommands else paged.map Prod.fst

/-- A command, with what its page says of its root and of the commands that
it lists. -/
def Context.commandPassages (ctx : Context) (place : Place) (c : Command) : List Passage :=
  .prose c.description :: deprecationPassages c.deprecated [] ++ c.options.flatMap optionPassages
    ++ ((ctx.root? c).map fun root => .prose root.1.shortDescription).toList
    ++ (ctx.listed place c).map fun sub => .prose sub.shortDescription

/-- The texts of the entry at a place. -/
def Context.passages (ctx : Context) (place : Place) : Entry → List Passage
  | .unknown .. | .malformed .. => []
  | .command c => ctx.commandPassages place c
  | .classLike c =>
    infoPassages c.info ++ .type (c.declaration "class") :: c.members.flatMap memberPassages
  | .interface c =>
    infoPassages c.info ++ .type (c.declaration "interface") :: c.members.flatMap memberPassages
  | .function f => infoPassages f.info ++ f.signatures.flatMap (overloadPassages none)
  | .initializerApi f =>
    infoPassages f.info ++ callablePassages f.call ++ f.subFunctions.flatMap callablePassages
  | .constant c => infoPassages c.info ++ [.type c.declaration]
  | .typeAlias a => infoPassages a.info ++ [.type a.head, .type a.type]
  | .enumeration e => infoPassages e.info ++ e.members.flatMap memberPassages
  | .decorator d => infoPassages d.info ++ d.members.flatMap memberPassages
  | .block i => infoPassages i

/-! ## Scribes that agree -/

/-- Whether two scribes write some texts alike: they differ at most in what
they link otherwise. -/
structure Scribe.Alike (s s' : Scribe) (ps : List Passage) : Prop where
  markdown : s.markdown = s'.markdown
  depth : s.site.depth = s'.site.depth
  current : s.site.current = s'.site.current
  agree : ∀ p ∈ ps, p.Agree s.site s'.site

namespace Scribe

variable {s s' : Scribe} {ps qs : List Passage}

namespace Alike

/-- Scribes that write some texts alike write fewer of them alike. -/
theorem mono (h : s.Alike s' ps) (hsub : ∀ q ∈ qs, q ∈ ps) : s.Alike s' qs :=
  { h with agree := fun q hq => h.agree q (hsub q hq) }

theorem left (h : s.Alike s' (ps ++ qs)) : s.Alike s' ps :=
  h.mono fun _ hp => List.mem_append_left qs hp

theorem right (h : s.Alike s' (ps ++ qs)) : s.Alike s' qs :=
  h.mono fun _ hq => List.mem_append_right ps hq

/-- They write the texts of each part alike. -/
theorem of_flatMap {α : Type} {f : α → List Passage} {xs : List α}
    (h : s.Alike s' (xs.flatMap f)) : ∀ x ∈ xs, s.Alike s' (f x) :=
  fun x hx => h.mono fun _ hp => List.mem_flatMap.mpr ⟨x, hx, hp⟩

/-- References in a text of both become the same Markdown. -/
theorem prose {text : String} (h : s.Alike s' ps) (hmem : .prose text ∈ ps) :
    Link.resolveReferences s.site text = Link.resolveReferences s'.site text :=
  Link.resolveReferences_congr (h.agree _ hmem)

/-- So both write the same blocks, with one engine. -/
theorem blocks {text : String} (h : s.Alike s' ps) (hmem : .prose text ∈ ps) :
    s.blocks text = s'.blocks text := by
  rw [Scribe.blocks, Scribe.blocks, h.markdown, h.prose hmem]

/-- And the same text for a line. -/
theorem inline {text : String} (h : s.Alike s' ps) (hmem : .prose text ∈ ps) :
    s.inline text = s'.inline text := by
  rw [Scribe.inline, Scribe.inline, h.markdown, h.prose hmem]

/-- A type is linked alike. -/
theorem type {text : String} (h : s.Alike s' ps) (hmem : .type text ∈ ps) :
    s.type text = s'.type text :=
  Link.linkify_congr h.current (h.agree _ hmem)

/-- A refusal names the entry, which is the same for both. -/
theorem malformed (h : s.Alike s' ps) (part reason : String) :
    s.malformed part reason = s'.malformed part reason := by
  rw [Scribe.malformed, Scribe.malformed, h.current]

end Alike

/-! ## Texts -/

/-- The state of a deprecation depends on its message alone. -/
theorem deprecation_congr {field : Option Deprecation} {tags : List DocTag}
    (h : s.Alike s' (deprecationPassages field tags)) :
    s.deprecation field tags = s'.deprecation field tags := by
  have hmessage : (Deprecation.resolve field tags).message.map s.inline
      = (Deprecation.resolve field tags).message.map s'.inline :=
    Option.map_congr fun message hm => h.inline
      (List.mem_map_of_mem (Option.mem_toList.mpr hm))
  rw [Scribe.deprecation, Scribe.deprecation, hmessage]

/-- Usage notes depend on their own text alone. -/
theorem usageNotes_congr {field : Option String} {tags : List DocTag}
    (h : s.Alike s' (usagePassages field tags)) :
    s.usageNotes field tags = s'.usageNotes field tags :=
  Option.map_congr fun _ hn => h.blocks (List.mem_map_of_mem (Option.mem_toList.mpr hn))

theorem returnsDescription_congr {tags : List DocTag} (h : s.Alike s' (returnsPassages tags)) :
    s.returnsDescription tags = s'.returnsDescription tags := by
  have hdescription :
      (DocTag.find? tags "returns").map (fun tag => s.inline (Text.trim tag.comment))
        = (DocTag.find? tags "returns").map fun tag => s'.inline (Text.trim tag.comment) :=
    Option.map_congr fun tag ht => h.inline
      (Option.mem_toList.mpr (Option.mem_map_of_mem _ ht))
  rw [Scribe.returnsDescription, Scribe.returnsDescription, hdescription]

/-- An example is the blocks of its Markdown, with the fence that it may get. -/
theorem exampleOf_eq (s : Scribe) (comment : String) :
    s.exampleOf comment = s.blocks (exampleText comment) :=
  (apply_ite s.blocks _ _ _).symm

/-! ## Signatures -/

/-- What is written of each of some parts is written alike when it is of
every one of them. -/
theorem mapM_congr {ε α β : Type} {f g : α → Except ε β} :
    ∀ {xs : List α}, (∀ x ∈ xs, f x = g x) → xs.mapM f = xs.mapM g
  | [], _ => rfl
  | x :: xs, h => by
    rw [List.mapM_cons, List.mapM_cons, h x List.mem_cons_self,
      mapM_congr fun y hy => h y (List.mem_cons_of_mem x hy)]

/-- A parameter depends on its type and on its description. -/
theorem parameter_congr {tags : List DocTag} {p : Parameter}
    (h : s.Alike s' (parameterPassages tags p)) : s.parameter tags p = s'.parameter tags p := by
  simp only [Scribe.parameter, h.malformed, h.type List.mem_cons_self,
    h.inline (List.mem_cons_of_mem _ List.mem_cons_self)]

/-- Every parameter's type is among its passages, so a declaration is
written alike when the rest of it is. -/
theorem code_congr {name : String} {sig : Signature}
    (hparams : ∀ p ∈ sig.params, s.Alike s' (parameterPassages sig.tags p))
    (h : s.Alike s' [.type (Generic.declarations sig.generics), .type sig.returnTypeOrVoid]) :
    s.code name sig = s'.code name sig := by
  have hdeclarations : sig.params.map (fun p => p.declarationWith Text.escapeText s.type)
      = sig.params.map fun p => p.declarationWith Text.escapeText s'.type :=
    List.map_congr_left fun p hp => by
      rw [Parameter.declarationWith, Parameter.declarationWith,
        (hparams p hp).type List.mem_cons_self]
  rw [Scribe.code, Scribe.code, Signature.declarationWith, Signature.declarationWith, hdeclarations,
    h.type List.mem_cons_self, h.type (List.mem_cons_of_mem _ List.mem_cons_self)]

/-- An overload depends on its parameters, its declaration, and what its description
and tags say. -/
theorem overload_congr {name : String} {marker : Option Deprecation} {sig : Signature}
    (h : s.Alike s' (overloadPassages marker sig)) :
    s.overload name marker sig = s'.overload name marker sig := by
  have hparams := h.left.left.left.left.of_flatMap
  have hown := h.left.left.left.right
  have hcode : s.code name sig = s'.code name sig :=
    code_congr hparams (hown.mono fun p hp => List.mem_append_left [_] hp)
  have hdescription : s.blocks sig.description = s'.blocks sig.description :=
    hown.blocks (by simp)
  have hreturn : s.type sig.returnTypeOrVoid = s'.type sig.returnTypeOrVoid :=
    hown.type (by simp)
  rw [Scribe.overload, Scribe.overload, mapM_congr fun p hp => parameter_congr (hparams p hp),
    hcode, hdescription, hreturn, returnsDescription_congr h.left.left.right,
    usageNotes_congr h.left.right, deprecation_congr h.right]

/-- A callable depends on its signatures. -/
theorem callable_congr {name : String} {c : Callable} (h : s.Alike s' (callablePassages c)) :
    s.callable name c = s'.callable name c := by
  rw [Scribe.callable, Scribe.callable,
    mapM_congr fun sig hsig => overload_congr (h.of_flatMap sig hsig)]

/-! ## Members -/

/-- What is shown of every member depends on its description and its deprecation. -/
theorem plainMember_congr {m : Member} (h : s.Alike s' (plainPassages m.info)) :
    s.plainMember m = s'.plainMember m := by
  have hdeprecation : s.deprecation m.info.deprecated m.info.tags
      = s'.deprecation m.info.deprecated m.info.tags :=
    deprecation_congr (h.mono fun _ hp => List.mem_cons_of_mem _ hp)
  rw [Scribe.plainMember, Scribe.plainMember, h.blocks List.mem_cons_self, hdeprecation]

/-- A property depends on its type beside these. -/
theorem property_congr {m : Member} {p : Property}
    (h : s.Alike s' (plainPassages m.info ++ [.type p.type])) :
    s.property m p = s'.property m p := by
  rw [Scribe.property, Scribe.property, plainMember_congr h.left, h.right.type List.mem_cons_self]

/-- A method shows no description of its own, only its deprecation. -/
theorem method_congr {m : Member}
    (h : s.Alike s' (deprecationPassages m.info.deprecated m.info.tags)) :
    s.method m = s'.method m := by
  funext own
  simp only [Scribe.method, Scribe.plainMember, deprecation_congr h]

/-- A member depends on its own passages. -/
theorem member_congr {m : Member} (h : s.Alike s' (memberPassages m)) :
    s.member m = s'.member m := by
  unfold Scribe.member
  rw [h.malformed]
  -- Both refuse a member without a name, and for the same reason.
  refine ite_congr rfl (fun _ => rfl) fun _ => ?_
  cases m with
  | method x =>
    dsimp only
    rw [overload_congr h.right, method_congr (m := .method x) h.left]
  | property p => exact congrArg Except.ok (property_congr (m := .property p) (p := p) h)
  | getter p => exact congrArg Except.ok (property_congr (m := .getter p) (p := p) h)
  | setter p => exact congrArg Except.ok (property_congr (m := .setter p) (p := p) h)
  | enumItem e =>
    have htype : (if e.type.isEmpty then none else some (s.type e.type))
        = if e.type.isEmpty then none else some (s'.type e.type) := by
      refine ite_congr rfl (fun _ => rfl) fun hempty => ?_
      rw [h.type (List.mem_append_right _ (by simp [hempty]))]
    dsimp only
    rw [plainMember_congr (m := .enumItem e) h.left, htype]

/-- Members depend on the passages of each. -/
theorem members_congr {ms : List Member} (h : s.Alike s' (ms.flatMap memberPassages)) :
    s.members ms = s'.members ms := by
  rw [Scribe.members, Scribe.members, mapM_congr fun m hm => member_congr (h.of_flatMap m hm)]

/-! ## Articles -/

/-- What all API entries share depends on the passages of the shared fields. -/
theorem article_congr {moduleName : String} {info : EntryInfo}
    (h : s.Alike s' (infoPassages info)) :
    s.article moduleName info = s'.article moduleName info := by
  have hseeAlso : ((DocTag.named info.tags "see").map fun tag => s.inline (Text.trim tag.comment))
      = (DocTag.named info.tags "see").map fun tag => s'.inline (Text.trim tag.comment) :=
    List.map_congr_left fun tag htag => h.left.right.inline (List.mem_map_of_mem htag)
  have hexamples : ((DocTag.named info.tags "example").filter fun tag =>
        !Text.isBlankText tag.comment).map (fun tag => s.exampleOf tag.comment)
      = ((DocTag.named info.tags "example").filter fun tag =>
        !Text.isBlankText tag.comment).map fun tag => s'.exampleOf tag.comment :=
    List.map_congr_left fun tag htag => by
      rw [exampleOf_eq, exampleOf_eq, h.right.blocks (List.mem_map_of_mem htag)]
  have hdescription : s.blocks info.description = s'.blocks info.description :=
    h.blocks (by simp [infoPassages])
  have husage : s.usageNotes info.usageNotes info.tags = s'.usageNotes info.usageNotes info.tags :=
    usageNotes_congr (h.mono fun p hp => by simp [infoPassages, hp])
  have hdeprecation : s.deprecation info.deprecated info.tags
      = s'.deprecation info.deprecated info.tags := deprecation_congr h.left.left.right
  funext body
  rw [Scribe.article, Scribe.article, hseeAlso, hexamples, hdescription, husage, hdeprecation]

/-- A class depends on its declaration and its members. -/
theorem classBody_congr {keyword : String} {c : ClassEntry}
    (h : s.Alike s' (.type (c.declaration keyword) :: c.members.flatMap memberPassages)) :
    s.classBody keyword c = s'.classBody keyword c := by
  rw [Scribe.classBody, Scribe.classBody, h.type List.mem_cons_self,
    members_congr (h.mono fun _ hp => List.mem_cons_of_mem _ hp)]

/-- A function depends on its signatures. -/
theorem functionBody_congr {f : FunctionEntry}
    (h : s.Alike s' (f.signatures.flatMap (overloadPassages none))) :
    s.functionBody f = s'.functionBody f := by
  rw [Scribe.functionBody, Scribe.functionBody,
    mapM_congr fun sig hsig => overload_congr (h.of_flatMap sig hsig)]

/-- An initializer API depends on its own call and the functions below it. -/
theorem initializerApiBody_congr {f : InitializerApiEntry}
    (h : s.Alike s' (callablePassages f.call ++ f.subFunctions.flatMap callablePassages)) :
    s.initializerApiBody f = s'.initializerApiBody f := by
  rw [Scribe.initializerApiBody, Scribe.initializerApiBody, callable_congr h.left,
    mapM_congr fun c hc => callable_congr (h.right.of_flatMap c hc)]

/-- An option depends on its description and its deprecation. -/
theorem commandOption_congr {o : CommandOption} (h : s.Alike s' (optionPassages o)) :
    s.commandOption o = s'.commandOption o := by
  rw [Scribe.commandOption, Scribe.commandOption, h.inline List.mem_cons_self,
    deprecation_congr (h.mono fun _ hp => List.mem_cons_of_mem _ hp)]

/-- A link to a page depends on the short description of the command. -/
theorem pageLink_congr {c : Command} (h : s.Alike s' ps) (hmem : .prose c.shortDescription ∈ ps)
    (href : Option String) : s.pageLink href c = s'.pageLink href c := by
  rw [Scribe.pageLink, Scribe.pageLink, h.inline hmem]

end Scribe

namespace Context

variable {ctx : Context} {s s' : Scribe} {place : Place} {c : Command} {ps : List Passage}

/-- The link to a root depends on the short description of the root. -/
theorem rootLink?_congr
    (h : s.Alike s' ((ctx.root? c).map fun root => .prose root.1.shortDescription).toList) :
    ctx.rootLink? s c = ctx.rootLink? s' c := by
  have hpath : s.site.pathTo = s'.site.pathTo := by
    funext page
    rw [Link.Site.pathTo, Link.Site.pathTo, h.depth]
  unfold rootLink?
  rw [hpath]
  exact Option.map_congr fun root hroot => Scribe.pageLink_congr h
    (Option.mem_toList.mpr (Option.mem_map_of_mem _ hroot)) _

/-- The list of subcommands depends on their short descriptions. -/
theorem subcommandLinks_congr
    (h : s.Alike s' ((ctx.listed place c).map fun sub => .prose sub.shortDescription)) :
    ctx.subcommandLinks s place c = ctx.subcommandLinks s' place c := by
  -- Which commands are listed is decided before the scribe writes of any.
  unfold listed at h
  unfold subcommandLinks
  dsimp only at h ⊢
  generalize (if c.isSubcommand then [] else subcommandsOf ctx.collections place) = paged at h ⊢
  split
  · next hempty =>
    rw [if_pos hempty] at h
    exact List.map_congr_left fun sub hsub =>
      Scribe.pageLink_congr h (List.mem_map_of_mem hsub) none
  · next hempty =>
    rw [if_neg hempty] at h
    exact List.map_congr_left fun sub hsub =>
      Scribe.pageLink_congr h (List.mem_map_of_mem (List.mem_map_of_mem hsub)) _

/-- A command depends on its own passages. -/
theorem commandArticle_congr (h : s.Alike s' (ctx.commandPassages place c)) :
    ctx.commandArticle s place c = ctx.commandArticle s' place c := by
  have hoptions : ∀ o ∈ c.options, s.commandOption o = s'.commandOption o := fun o ho =>
    Scribe.commandOption_congr (h.left.left.right.of_flatMap o ho)
  -- Arguments and flags are options of the command, sorted or sifted.
  have harguments : (positionals c.options).map s.commandOption
      = (positionals c.options).map s'.commandOption :=
    List.map_congr_left fun o ho =>
      hoptions o (List.mem_filter.mp ((List.mergeSort_perm _ _).mem_iff.mp ho)).1
  have hflags : (c.options.filter fun o => !o.isPositional).map s.commandOption
      = (c.options.filter fun o => !o.isPositional).map s'.commandOption :=
    List.map_congr_left fun o ho => hoptions o (List.mem_filter.mp ho).1
  have hbody : ctx.commandBody s place c = ctx.commandBody s' place c := by
    rw [commandBody, commandBody, harguments, hflags, rootLink?_congr h.left.right,
      subcommandLinks_congr h.right]
  have hdescription : s.blocks c.description = s'.blocks c.description :=
    h.blocks (by simp [commandPassages])
  have hdeprecation : s.deprecation c.deprecated [] = s'.deprecation c.deprecated [] :=
    Scribe.deprecation_congr (h.mono fun p hp => by simp [commandPassages, hp])
  simp only [commandArticle, h.malformed, hbody, hdescription, hdeprecation]

/-- Sites that agree on an entry's passages give one article of it. -/
theorem articleOn_of_alike {site site' : Link.Site} {moduleName : String} {e : Entry}
    (h : Scribe.Alike ⟨ctx.markdown, site⟩ ⟨ctx.markdown, site'⟩ (ctx.passages place e)) :
    ctx.articleOn site place moduleName e = ctx.articleOn site' place moduleName e := by
  -- A scribe writes an article's body and then what all entries share, so
  -- each case is the body's own lemma and `article_congr`.
  unfold articleOn
  cases e with
  | unknown name tag raw => rfl
  | malformed name tag reason => rfl
  | command c => exact commandArticle_congr h
  | classLike c =>
    dsimp only
    rw [Scribe.classBody_congr h.right, Scribe.article_congr h.left]
  | interface c =>
    dsimp only
    rw [Scribe.classBody_congr h.right, Scribe.article_congr h.left]
  | function f =>
    dsimp only
    rw [Scribe.functionBody_congr h.right, Scribe.article_congr h.left]
  | initializerApi f =>
    -- Its body's passages are the last two of three parts.
    dsimp only
    rw [Scribe.initializerApiBody_congr (h.mono fun p hp => by
      rw [passages, List.append_assoc]
      exact List.mem_append_right _ hp), Scribe.article_congr h.left.left]
  | constant c =>
    dsimp only
    rw [h.right.type List.mem_cons_self, Scribe.article_congr h.left]
  | typeAlias a =>
    dsimp only
    rw [h.right.type List.mem_cons_self, h.right.type (List.mem_cons_of_mem _ List.mem_cons_self),
      Scribe.article_congr h.left]
  | enumeration e =>
    dsimp only
    rw [Scribe.members_congr h.right, Scribe.article_congr h.left]
  | decorator d =>
    dsimp only
    rw [Scribe.members_congr h.right, Scribe.article_congr h.left]
  | block i =>
    dsimp only
    rw [Scribe.article_congr h]

/-- The article of an entry owes to the index of its run no more than the
links of the symbols that its passages mention. -/
theorem article_eq_of_agree (ctx : Context) (place : Place) (moduleName : String) (e : Entry)
    {index : Link.Index}
    (h : ∀ p ∈ ctx.passages place e, p.Agree (ctx.siteOf e) { ctx.siteOf e with index }) :
    ctx.article place moduleName e
      = ctx.articleOn { ctx.siteOf e with index } place moduleName e := by
  rw [article_eq]
  exact articleOn_of_alike ⟨rfl, rfl, rfl, h⟩

end Context

end Article

end ApiPages
