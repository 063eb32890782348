import ApiPages.Article.Value
import ApiPages.Json.Decoder
import ApiPages.Template.Pages
import ApiPages.Failure

/-!
# Articles as HTML

A template is chosen by the article's kind. What it gives is a fragment;
on request the fragment is wrapped as a document of its own.
-/

namespace ApiPages

/-- How pages are wrapped. -/
structure PageStyle where
  /-- Whether a page is a document of its own. -/
  standalone : Bool
  /-- The stylesheet that such a document links. -/
  stylesheet : Option String
  deriving DecidableEq, Repr

namespace PageStyle

/-- Fragments only. -/
def fragment : PageStyle := ⟨false, none⟩

/-- The fields of a style. -/
def fields : Json.Decoder.Fields PageStyle :=
  PageStyle.mk <$> .required "standalone" .flag <*> .optionalKey "stylesheet" .text

/-- Decodes a style. -/
def decoder : Json.Decoder PageStyle := .record "HtmlConfig" fields

/-- A style as a value. -/
def toJson (s : PageStyle) : Json :=
  .object [("standalone", .bool s.standalone), ("stylesheet", .ofOption .string s.stylesheet)]

end PageStyle

/-- The name of the program that pages are signed with. -/
def generatorName : String := "refdocs"

/-- The version of the program. -/
def generatorVersion : String := "0.1.0"

namespace Article

/-- The template of a body. -/
def Body.template : Body → Template
  | classLike _ | interface _ => Template.classPage
  | function .. => Template.functionPage
  | initializerApi .. => Template.initializerApiPage
  | constant _ => Template.constantPage
  | typeAlias _ => Template.typeAliasPage
  | enumeration _ => Template.enumPage
  | decorator .. => Template.decoratorPage
  | block => Template.blockPage
  | command c => if c.isSubcommand then Template.subcommandPage else Template.commandPage

/-- Renders a template; a fault is a failure of the page. -/
def renderTemplate (t : Template) (data : Json) : Except Failure Html :=
  (t.render data).mapError fun fault => .template fault.message

/-- The title of an article's document. -/
def title (a : Article) : String :=
  match a.moduleName with
  | some m => a.name ++ " | " ++ m
  | none => a.name

/-- What the template of a document reads. -/
def documentData (a : Article) (stylesheet : Option String) (fragment : Html) : Json :=
  .object [("title", .string a.title), ("stylesheet", .ofOption .string stylesheet),
    ("body", .string fragment),
    ("generator", .string (generatorName ++ " v" ++ generatorVersion))]

/-- The article as HTML. -/
def render (style : PageStyle) (a : Article) : Except Failure Html := do
  let fragment ← renderTemplate a.body.template a.toJson
  if style.standalone then
    renderTemplate Template.documentPage (a.documentData style.stylesheet fragment)
  else .ok fragment

end Article

/-- Renders the template of a name with any data. -/
def Template.renderNamed (name : String) (data : Json) : Except Failure Html :=
  match Template.find? name with
  | some t => Article.renderTemplate t data
  | none => .error (.template ("Template not found " ++ name))

end ApiPages
