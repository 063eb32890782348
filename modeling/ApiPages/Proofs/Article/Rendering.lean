import ApiPages.Proofs.Article.Outline
import ApiPages.Proofs.Template.Fits

/-!
# Rendering articles

Every page's template fits the shape of its articles, so an article always
has a page, and the page's markup comes from the article's outline alone. A
document is a head, the fragment as it stands, and a tail.
-/

namespace ApiPages.Article

open Template (CoversAll Alike alike_of_fitsAll covers_of_fitsAll exists_renderNodes
  renderNode_given renderNode_escaped renderNode_asIs renderNodes_cons_eq_ok)
open Text (markup)

/-- The template of a body fits its articles. -/
theorem Body.template_fits : ∀ b : Body, (shape b).fitsAll b.template.nodes = true
  | classLike _ | interface _ | function .. | initializerApi .. | constant _ | typeAlias _
  | enumeration _ | decorator .. | block => by rfl
  | command c => by
    rw [Body.template]
    cases c.isSubcommand with
    | true => rfl
    | false => rfl

/-- The template of every body is among the registered ones. -/
theorem Body.find?_template : ∀ b : Body, Template.find? b.template.name = some b.template
  | classLike _ | interface _ | function .. | initializerApi .. | constant _ | typeAlias _
  | enumeration _ | decorator .. | block => by rfl
  | command c => by
    rw [Body.template]
    cases c.isSubcommand with
    | true => rfl
    | false => rfl

/-- Every article has a page, and its markup is that of its outline's. -/
theorem alike_outline (a : Article) :
    Alike (a.body.template.render a.toJson) (a.body.template.render a.outline.toJson) :=
  alike_of_fitsAll _ false _ a.body.template_fits a.similar_outline

/-! ## Documents -/

/-- The tag that links a stylesheet; none for a stylesheet without a
name. -/
def stylesheetLink : Option String → Html
  | none => ""
  | some path =>
    if path.isEmpty then ""
    else "    <link rel=\"stylesheet\" href=\"" ++ Text.escapeValue path ++ "\">\n"

/-- What stands in a document before the article. -/
def documentHead (title : String) (stylesheet : Option String) : Html :=
  "<!DOCTYPE html>\n<html lang=\"en\">\n<head>\n    <meta charset=\"UTF-8\">\n"
    ++ "    <meta name=\"viewport\" content=\"width=device-width, initial-scale=1.0\">\n"
    ++ "    <title>" ++ Text.escapeValue title ++ "</title>\n" ++ stylesheetLink stylesheet
    ++ "</head>\n<body>\n"

/-- What stands in a document after the article. -/
def documentTail : Html :=
  "\n<footer>\n    <p>Generated by " ++ "refdocs v0.1.0" ++ "</p>\n</footer>\n</body>\n</html>\n"

def documentShape : Template.Shape :=
  .record [("title", .plain), ("stylesheet", .optional .plain), ("body", .fixed),
    ("generator", .fixed)]

/-- The template of a document fits the shape of its data. -/
theorem documentPage_fits : documentShape.fitsAll Template.documentPage.nodes = true := by decide

/-- The data of a document are similar to those with the stylesheet masked. -/
theorem similar_documentData (a : Article) (stylesheet : Option String) (fragment : Html) :
    Template.Similar documentShape (a.documentData stylesheet fragment)
      (a.documentData (stylesheet.map masked) fragment) :=
  .record <|
  .cons (.plain rfl) <|
  .cons (similar_optionalText stylesheet) <|
  .cons (.fixed _) <|
  .cons (.fixed _) <|
  .nil

/-- The condition in a document's head gives the link. -/
theorem renderNode_stylesheet {scope : Template.Scope} {place shown : Template.Position}
    {stylesheet : Option String}
    (h : Template.lookup? ["stylesheet"] scope.current
      = .ok (some (.ofOption .string stylesheet))) :
    Template.renderNode scope (.given place ["stylesheet"] [
        .text "    <link rel=\"stylesheet\" href=\"",
        .value shown ["stylesheet"] .escaped,
        .text "\">\n"] [])
      = .ok (stylesheetLink stylesheet) := by
  rw [renderNode_given h]
  cases stylesheet with
  | none => rfl
  | some path =>
    show (if (!path.isEmpty) = true then _ else _) = _
    rw [stylesheetLink]
    cases path.isEmpty with
    | true => rfl
    | false =>
      refine (renderNodes_cons_eq_ok rfl <| renderNodes_cons_eq_ok (renderNode_escaped h) <|
        renderNodes_cons_eq_ok rfl rfl).trans ?_
      simp [String.append_assoc, Template.display, Json.ofOption]

theorem escapeValue_generator :
    Text.escapeValue (generatorName ++ " v" ++ generatorVersion) = "refdocs v0.1.0" := by decide

/-- A document is the fragment between a head and a tail. -/
theorem render_documentPage (a : Article) (stylesheet : Option String) (fragment : Html) :
    Template.documentPage.render (a.documentData stylesheet fragment)
      = .ok (documentHead a.title stylesheet ++ fragment ++ documentTail) := by
  refine (renderNodes_cons_eq_ok rfl <| renderNodes_cons_eq_ok rfl <| renderNodes_cons_eq_ok rfl <|
    renderNodes_cons_eq_ok (renderNode_escaped rfl) <| renderNodes_cons_eq_ok rfl <|
    renderNodes_cons_eq_ok (renderNode_stylesheet rfl) <| renderNodes_cons_eq_ok rfl <|
    renderNodes_cons_eq_ok (renderNode_asIs rfl) <| renderNodes_cons_eq_ok rfl <|
    renderNodes_cons_eq_ok (renderNode_escaped rfl) <| renderNodes_cons_eq_ok rfl rfl).trans ?_
  simp only [Template.display]
  rw [escapeValue_generator]
  -- What is rendered is nested to the right, the head to the left.
  unfold documentHead documentTail
  simp only [String.append_assoc, String.append_empty, -String.reduceAppend]

/-- A page is its fragment, with the document around it when it stands alone. -/
theorem render_eq {a : Article} {fragment : Html}
    (h : a.body.template.render a.toJson = .ok fragment) (style : PageStyle) :
    a.render style = .ok (if style.standalone then
      documentHead a.title style.stylesheet ++ fragment ++ documentTail else fragment) := by
  rw [render, renderTemplate, h]
  show (if style.standalone then renderTemplate _ _ else _) = _
  cases style.standalone with
  | false => rfl
  | true =>
    rw [if_pos rfl, if_pos rfl, renderTemplate, render_documentPage]
    rfl

/-- An article is rendered in every style, by the template that is registered
under its body's name and from what it holds: each tag of its page, in parts
and in parts of parts, and each tag of a document finds the value that it
names. A document is a head, which depends on the title and the stylesheet
alone, the fragment as it stands, and a tail. -/
theorem render_total (a : Article) :
    CoversAll a.toJson a.body.template.nodes
      ∧ ∃ fragment, Template.renderNamed a.body.template.name a.toJson = .ok fragment
        ∧ (∀ stylesheet, a.render ⟨false, stylesheet⟩ = .ok fragment)
        ∧ ∀ stylesheet,
          CoversAll (a.documentData stylesheet fragment) Template.documentPage.nodes
            ∧ a.render ⟨true, stylesheet⟩
                = .ok (documentHead a.title stylesheet ++ fragment ++ documentTail) := by
  have hcovers : CoversAll a.toJson a.body.template.nodes :=
    covers_of_fitsAll _ a.body.template_fits a.similar_outline
  obtain ⟨fragment, hfragment⟩ := exists_renderNodes a.body.template.name false _ hcovers
  refine ⟨hcovers, fragment, ?_, fun stylesheet => render_eq hfragment ⟨false, stylesheet⟩,
    fun stylesheet => ⟨?_, ?_⟩⟩
  · rw [Template.renderNamed, a.body.find?_template]
    show renderTemplate _ _ = _
    rw [renderTemplate, Template.render, hfragment]
    rfl
  · exact covers_of_fitsAll _ documentPage_fits (similar_documentData a stylesheet fragment)
  · exact render_eq hfragment ⟨true, stylesheet⟩

/-! ## Markup -/

/-- What a stylesheet is called adds no markup; whether there is one decides. -/
theorem markup_stylesheetLink (stylesheet : Option String) :
    markup (stylesheetLink stylesheet) = markup (stylesheetLink (stylesheet.map masked)) := by
  cases stylesheet with
  | none => rfl
  | some path =>
    rw [Option.map_some, stylesheetLink, stylesheetLink, isEmpty_masked]
    by_cases hempty : path.isEmpty = true
    · rw [if_pos hempty, if_pos hempty]
    · rw [if_neg hempty, if_neg hempty]
      simp [Text.markup_append, Text.markup_escapeValue]

/-- Heads have the same markup when both or none link a stylesheet. -/
theorem markup_documentHead (title title' : String) {stylesheet stylesheet' : Option String}
    (h : stylesheet.map masked = stylesheet'.map masked) :
    markup (documentHead title stylesheet) = markup (documentHead title' stylesheet') := by
  unfold documentHead
  simp only [Text.markup_append, Text.markup_escapeValue, -String.reduceAppend]
  rw [markup_stylesheetLink stylesheet, markup_stylesheetLink stylesheet', h]

/-- The fragments of articles of one outline are alike. -/
theorem alike_of_outline_eq {a b : Article} (h : a.outline = b.outline) :
    Alike (a.body.template.render a.toJson) (b.body.template.render b.toJson) := by
  have htemplate : a.body.template = b.body.template := by
    rw [← a.body.template_outline, ← b.body.template_outline]
    exact congrArg (fun x => x.body.template) h
  have ha := a.alike_outline
  rw [h, htemplate] at ha
  rw [htemplate]
  exact ha.trans b.alike_outline.symm

/-- Plain texts make no markup: articles of one outline, in styles of one
outline, have pages with the same angle brackets and double quotes in the
same order. -/
theorem markup_render_eq {a b : Article} {style style' : PageStyle} (hab : a.outline = b.outline)
    (hstyle : style.outline = style'.outline) :
    ∃ page page', a.render style = .ok page ∧ b.render style' = .ok page'
      ∧ markup page = markup page' := by
  obtain ⟨fragment, fragment', hfragment, hfragment', hmarkup⟩ := alike_of_outline_eq hab
  refine ⟨_, _, render_eq hfragment style, render_eq hfragment' style', ?_⟩
  obtain ⟨hstandalone, hstylesheet⟩ : style.standalone = style'.standalone
      ∧ style.stylesheet.map masked = style'.stylesheet.map masked := by
    simpa only [PageStyle.outline, PageStyle.mk.injEq] using hstyle
  rw [hstandalone]
  cases style'.standalone with
  | false => exact hmarkup
  | true =>
    show markup (_ ++ _ ++ documentTail) = markup (_ ++ _ ++ documentTail)
    rw [Text.markup_append, Text.markup_append, Text.markup_append, Text.markup_append, hmarkup,
      markup_documentHead a.title b.title hstylesheet]

/-- A class whose plain texts are given. -/
def classOf (name selector badge : String) : Article where
  name := name
  tag := "class"
  category := "Class"
  moduleName := none
  description := "<p>Holds <b>one</b> thing.</p>"
  usageNotes := none
  deprecation := ⟨false, none⟩
  badges := [badge]
  seeAlso := []
  examples := []
  source := none
  body := .classLike ⟨"class", some selector, [], none, none, []⟩

/-- A class whose name, texts and stylesheet try to break out of their places has
the markup of a plain one. -/
theorem markup_render_eq_script :
    (classOf "Box" "box" "Stable").outline
        = (classOf "<script>" "\" onload=\"go()" "</article>").outline
      ∧ PageStyle.outline ⟨true, some "docs.css"⟩ = PageStyle.outline ⟨true, some "\"><b>"⟩
      ∧ ∃ page page', (classOf "Box" "box" "Stable").render ⟨true, some "docs.css"⟩ = .ok page
        ∧ (classOf "<script>" "\" onload=\"go()" "</article>").render ⟨true, some "\"><b>"⟩
            = .ok page'
        ∧ markup page = markup page' :=
  ⟨rfl, rfl, markup_render_eq rfl rfl⟩

end ApiPages.Article
