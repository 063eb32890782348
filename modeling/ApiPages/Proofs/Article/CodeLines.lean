import ApiPages.Proofs.Article.Overloads
import ApiPages.Proofs.Article.Written
import ApiPages.Proofs.Link.Tokens
import ApiPages.Sample

/-!
# Lines of code

A page shows code as HTML: signatures are put together from escaped names and
linked types, other declarations are linked as one line or as two. Both say the
plain declaration (`codes_readAs`). The two ways of a declaration are taken
together, piece by piece: what a piece of HTML says, and which symbols it links
to (`Link.Writes`).
-/

namespace ApiPages

namespace Link

/-- Whether HTML reads as a text, with links on a site: it is the text without
tags and entities, and every angle bracket belongs to the tags of an
anchor around a symbol's name with the link to that symbol. -/
structure ReadsAs (site : Site) (html text : String) : Prop where
  plainText_eq : plainText html = text
  isBracket : ∀ c ∈ untagged (marks html.toList), Text.isBracket c = false
  anchors : ∃ links, anchors? html = some links
    ∧ ∀ link ∈ links, site.href? link.2 none = some link.1

/-- Whether HTML is spelled as a text with links to symbols. -/
def Writes (site : Site) (html text : String) : Prop :=
  ∃ ms links, Spells ms html.toList text.toList links
    ∧ ∀ link ∈ links, site.href? link.2 none = some link.1

variable {site : Site} {html text html' text' : String}

namespace Writes

theorem readsAs (h : Writes site html text) : ReadsAs site html text := by
  obtain ⟨ms, links, hms, hlinks⟩ := h
  have hplain := hms.plainText_eq
  have hanchors := hms.anchors?_eq
  rw [String.ofList_toList, String.ofList_toList] at hplain
  rw [String.ofList_toList] at hanchors
  exact ⟨hplain, fun c hc => hms.isBracket_of_mem hc, links, hanchors, hlinks⟩

/-- Written texts are put together with what they write. -/
theorem append (h : Writes site html text) (h' : Writes site html' text') :
    Writes site (html ++ html') (text ++ text') := by
  obtain ⟨ms, links, hms, hlinks⟩ := h
  obtain ⟨ms', links', hms', hlinks'⟩ := h'
  refine ⟨ms ++ ms', links ++ links', ?_, List.forall_mem_append.mpr ⟨hlinks, hlinks'⟩⟩
  rw [String.toList_append, String.toList_append]
  exact hms.append hms'

/-- Text without characters to escape. -/
theorem literal (site : Site) (text : String)
    (h : text.toList.flatMap Text.textChar = text.toList) : Writes site text text :=
  ⟨_, _, .plain h, fun _ h => absurd h List.not_mem_nil⟩

/-- Escaped text writes itself and has no anchors. -/
theorem escaped (site : Site) (text : String) : Writes site (Text.escapeText text) text := by
  have hhtml : (Text.escapeText text).toList = text.toList.flatMap Text.textChar :=
    String.toList_ofList
  have hspells := Spells.escaped text.toList
  rw [← hhtml] at hspells
  exact ⟨_, _, hspells, fun _ h => absurd h List.not_mem_nil⟩

/-- A type with its symbols linked writes the type, and every anchor in it is one of
the site. -/
theorem linked (site : Site) (text : String) : Writes site (linkify site text) text := by
  obtain ⟨ms, hms⟩ := exists_spells_linkifyChars site text.toList
  refine ⟨ms, symbolLinks site (identifiers text.toList), ?_, fun link hlink => ?_⟩
  · rw [linkify, String.toList_ofList]
    exact hms
  · obtain ⟨name, -, hname⟩ := List.mem_filterMap.mp hlink
    obtain ⟨href, hhref, rfl⟩ := Option.map_eq_some_iff.mp hname
    exact hhref

/-- Written texts stay written with a separator between them that is written too. -/
theorem intercalate {htmls texts : List String} {between between' : String}
    (hbetween : Writes site between between') (h : List.Forall₂ (Writes site) htmls texts) :
    Writes site (between.intercalate htmls) (between'.intercalate texts) := by
  induction h with
  | nil => exact literal site "" rfl
  | @cons html text htmls texts hfirst hmore ih =>
    cases hmore with
    | nil =>
      rw [String.intercalate_singleton, String.intercalate_singleton]
      exact hfirst
    | cons hnext hrest =>
      rw [String.intercalate_cons_cons, String.intercalate_cons_cons]
      exact (hfirst.append hbetween).append ih

end Writes

end Link

/-! ## Declarations -/

/-- The plain declaration of a signature under a name. -/
def Signature.declaration (sig : Signature) (name : String) : String :=
  sig.declarationWith name id id

/-- The plain declarations of the methods among members, in the order of the
items that show them. -/
def Member.declarations (ms : List Member) : List String :=
  (firsts Member.methodName? ms).flatMap fun m =>
    (m.overloads ms).map fun x => x.signature.declaration x.info.name

/-- The plain declarations of an entry: its own line, if it has one, and those
of its signatures. -/
def Entry.declarations : Entry → List String
  | .classLike c => c.declaration "class" :: Member.declarations c.members
  | .interface c => c.declaration "interface" :: Member.declarations c.members
  | .function f => f.signatures.map (·.declaration f.info.name)
  | .initializerApi f => f.call.signatures.map (·.declaration f.info.name)
      ++ f.subFunctions.flatMap fun c =>
        c.signatures.map (·.declaration (f.info.name ++ "." ++ c.name))
  | .constant c => [c.declaration]
  | .typeAlias t => [t.head ++ " = " ++ t.type]
  | .enumeration e => Member.declarations e.members
  | .decorator d => Member.declarations d.members
  | .block _ | .command _ | .unknown .. | .malformed .. => []

namespace Article

/-- The code of a page that stands outside of signatures. -/
def Body.line? : Body → Option Html
  | .classLike c | .interface c => some c.declaration
  | .constant code | .typeAlias code => some code
  | _ => none

/-- The lines of code of a page. -/
def Body.codes (b : Body) : List Html := b.line?.toList ++ b.overloads.map Overload.code

namespace Scribe

variable {s : Scribe} {name : String} {marker : Option Deprecation} {sig : Signature}
  {ms : List Member} {out : List ShownMember}

/-- The declaration of a parameter with links writes the plain one. -/
theorem writes_parameter (s : Scribe) (p : Parameter) :
    Link.Writes s.site (p.declarationWith Text.escapeText s.type) (p.declarationWith id id) := by
  have hrest : Link.Writes s.site (if p.isRest then "..." else "")
      (if p.isRest then "..." else "") := by
    cases p.isRest <;> exact .literal _ _ (by decide)
  have hoptional : Link.Writes s.site (if p.isOptional then "?" else "")
      (if p.isOptional then "?" else "") := by
    cases p.isOptional <;> exact .literal _ _ (by decide)
  have htype : Link.Writes s.site (if p.type.isEmpty then "" else ": " ++ s.type p.type)
      (if p.type.isEmpty then "" else ": " ++ p.type) := by
    split
    · exact .literal _ _ rfl
    · exact (Link.Writes.literal _ _ (by decide)).append (.linked _ _)
  exact ((hrest.append (.escaped _ _)).append hoptional).append htype

/-- The code of a signature is written as its plain declaration. -/
theorem writes_code (s : Scribe) (name : String) (sig : Signature) :
    Link.Writes s.site (s.code name sig) (sig.declaration name) := by
  have hparams : List.Forall₂ (Link.Writes s.site)
      (sig.params.map fun p => p.declarationWith Text.escapeText s.type)
      (sig.params.map fun p => p.declarationWith id id) := by
    rw [List.forall₂_map_left_iff, List.forall₂_map_right_iff, List.forall₂_same]
    exact fun p _ => s.writes_parameter p
  have hlist := Link.Writes.intercalate (.literal s.site ", " (by decide)) hparams
  have hgenerics := Link.Writes.linked s.site (Generic.declarations sig.generics)
  have hname := (Link.Writes.escaped s.site name).append hgenerics
  have hopening := hname.append (.literal _ "(" (by decide))
  have hclosing := (hopening.append hlist).append (.literal _ "): " (by decide))
  exact hclosing.append (.linked _ sig.returnTypeOrVoid)

/-- The code line of an overload writes the declaration of its signature. -/
theorem writes_of_overload {o : Overload} (h : s.overload name marker sig = .ok o) :
    Link.Writes s.site o.code (sig.declaration name) := by
  rw [(of_overload h).1]
  exact s.writes_code name sig

/-- What is written one by one is written as a whole. -/
theorem writes_of_mapM {α : Type} {xs : List α} {os : List Overload}
    {overload : α → Except Failure Overload} {declaration : α → String}
    (hwrites : ∀ x o, overload x = .ok o → Link.Writes s.site o.code (declaration x))
    (h : xs.mapM overload = .ok os) :
    List.Forall₂ (Link.Writes s.site) (os.map Overload.code) (xs.map declaration) := by
  rw [List.forall₂_map_left_iff, List.forall₂_map_right_iff]
  exact (mapM_eq_ok_iff.mp h).flip.imp fun o x => hwrites x o

/-- The code lines of a callable write the declarations of its signatures, one each. -/
theorem writes_of_callable {c : Callable} {shown : ShownCallable}
    (h : s.callable name c = .ok shown) :
    List.Forall₂ (Link.Writes s.site) (shown.overloads.map Overload.code)
      (c.signatures.map (·.declaration name)) := by
  obtain ⟨os, hos, h⟩ := exists_of_bind_eq_ok h
  cases h
  exact writes_of_mapM (fun _ _ => writes_of_overload) hos

/-- An item has the code of the methods that it stands for. -/
theorem writes_of_members (h : s.members ms = .ok out) :
    List.Forall₂ (Link.Writes s.site) ((out.flatMap ShownMember.overloads).map Overload.code)
      (Member.declarations ms) := by
  rw [List.map_flatMap, Member.declarations]
  refine List.rel_flatMap (forall₂_isItem h).flip fun item m hitem => ?_
  exact writes_of_mapM (fun _ _ => writes_of_overload) hitem.overloads

end Scribe

/-! ## Pages -/

namespace Context

variable {ctx : Context} {s : Scribe} {place : Place} {moduleName : String} {e : Entry} {b : Body}
  {a : Article}

/-- All code lines of a written body write the declarations of the entry, in order. -/
theorem Written.writes (h : ctx.Written s place e b) :
    List.Forall₂ (Link.Writes s.site) b.codes e.declarations := by
  have linked (text : String) : Link.Writes s.site (s.type text) text := .linked s.site text
  cases h with
  | classLike h | interface h => exact .cons (linked _) (Scribe.writes_of_members h)
  | enumeration h | decorator h => exact Scribe.writes_of_members h
  | function h => exact Scribe.writes_of_mapM (fun _ _ => Scribe.writes_of_overload) h
  | @initializerApi f call subs hcall hsubs =>
    change List.Forall₂ _ ((call.overloads ++ subs.flatMap _).map Overload.code) _
    rw [List.map_append, List.map_flatMap]
    exact List.rel_append (Scribe.writes_of_callable hcall)
      (List.rel_flatMap (mapM_eq_ok_iff.mp hsubs).flip fun _ _ => Scribe.writes_of_callable)
  | constant => exact .cons (linked _) .nil
  | @typeAlias t =>
    have hhead := (linked t.head).append (.literal s.site " = " (by decide))
    exact .cons (hhead.append (linked _)) .nil
  | block | command => exact .nil

/-- The lines of code on the page of an accepted entry. One by one they read as
the plain declarations: the line of a class, interface, constant or type alias,
and the signatures of functions, callables and methods, each under its name. -/
theorem codes_readAs (h : ctx.article place moduleName e = .ok a) :
    List.Forall₂ (Link.ReadsAs (ctx.siteOf e)) a.body.codes e.declarations :=
  (written_of_article h).1.writes.imp fun _ _ => Link.Writes.readsAs

/-- A class with a generic method of another class's instances. -/
def classOfFoos : ClassEntry :=
  Sample.classEntry "Bar" .classKind
    [.method ⟨.plain "f" "", [⟨"xs", "", "Foo<T>[]", false, true⟩], none, [⟨"T", none, none⟩]⟩]

/-- Both lines of its page read as plain TypeScript. -/
theorem codes_readAs_method :
    let e : Entry := .classLike classOfFoos
    let ctx := ofRun true [⟨"m", [Sample.classLike "Foo" [], e]⟩]
    ∃ a, ctx.article ⟨0, 1⟩ "m" e = .ok a
      ∧ a.body.codes = ["class Bar",
        "f&lt;T&gt;(...xs: <a href=\"m_Foo_class.html\">Foo</a>&lt;T&gt;[]): void"]
      ∧ List.Forall₂ (Link.ReadsAs (ctx.siteOf e)) a.body.codes
        ["class Bar", "f<T>(...xs: Foo<T>[]): void"] := by
  intro e ctx
  have hcodes : ((ctx.article ⟨0, 1⟩ "m" e).toOption.map (Body.codes ·.body)) = some ["class Bar",
      "f&lt;T&gt;(...xs: <a href=\"m_Foo_class.html\">Foo</a>&lt;T&gt;[]): void"] := by
    decide +kernel
  have hdeclarations : e.declarations = ["class Bar", "f<T>(...xs: Foo<T>[]): void"] := by
    decide +kernel
  obtain ⟨a, ha, hcodes⟩ := Option.map_eq_some_iff.mp hcodes
  have harticle := toOption_eq_some_iff.mp ha
  exact ⟨a, harticle, hcodes, hdeclarations ▸ codes_readAs harticle⟩

end Context

end Article

end ApiPages
