import ApiPages.Proofs.Article.Rendering
import ApiPages.Proofs.Template.Listing

/-!
# Lists in pages

Members, overloads, parameters, callables, arguments and options are shown in
the order they are held in. Each item has a text of its own (`html`), which
is what its template gives for the item alone. A page is one text, the texts
of the items one after another, and another text, and neither of the two
depends on the items (`Shows`). So is the text of an item that holds a list
itself, down to the parameters of an overload.
-/

namespace ApiPages

open Template (Shape Similar Listing replace listing? lookup? renderNodes covers_of_fitsAll
  exists_renderNodes renderNodes_cons_eq_ok renderNode_escaped renderNode_each_eq_join)

/-- What a template gives for a value; nothing when it cannot be rendered. -/
def Template.fragment (t : Template) (data : Json) : Html :=
  match t.render data with
  | .ok text => text
  | .error _ => ""

namespace Article

/-! ## The text of an item -/

/-- A parameter in the page. -/
def ShownParameter.html (p : ShownParameter) : Html := Template.parameter.fragment p.toJson

/-- An overload in the page. -/
def Overload.html (o : Overload) : Html := Template.signature.fragment o.toJson

/-- A member in the page. -/
def ShownMember.html (m : ShownMember) : Html := Template.member.fragment m.toJson

/-- An option or argument in the page. -/
def ShownOption.html (o : ShownOption) : Html := Template.commandOption.fragment o.toJson

section Lists

variable {α ε : Type}

/-- The texts of some items, one after another. -/
def inOrder (html : α → Html) (items : List α) : Html := String.join (items.map html)

/-- The same in a section with a heading, and no section without items. -/
def inSection (kind heading : String) (html : α → Html) (items : List α) : Html :=
  if items.isEmpty then ""
  else
    "<section class=\"" ++ kind ++ "\">\n  <h2>" ++ heading ++ "</h2>\n" ++ inOrder html items
      ++ "\n</section>\n"

/-- A page always shows a list, between two texts that do not depend on it. -/
def Shows (list : List α → Html) (page : List α → Except ε Html) : Prop :=
  ∃ before after, ∀ items, page items = .ok (before ++ list items ++ after)

end Lists

/-- A callable below an initializer API's own. -/
def ShownCallable.html (c : ShownCallable) : Html :=
  "<section class=\"docs-reference-signatures\" id=\"" ++ Text.escapeValue c.anchor ++ "\">\n  <h2>"
    ++ Text.escapeValue c.name ++ "</h2>\n" ++ inOrder Overload.html c.overloads
    ++ "\n</section>\n"

/-- A template that fits the shape of a value is always rendered, to its fragment. -/
theorem render_fragment {s : Shape} {t : Template} {v w : Json} (hfits : s.fitsAll t.nodes = true)
    (h : Similar s v w) : t.render v = .ok (t.fragment v) := by
  obtain ⟨text, htext⟩ := exists_renderNodes t.name false t.nodes (covers_of_fitsAll _ hfits h)
  rw [Template.fragment, Template.render, htext]

/-- The template of a parameter gives its text, whatever the parameter. -/
theorem ShownParameter.render_html (p : ShownParameter) :
    Template.parameter.render p.toJson = .ok p.html :=
  render_fragment (by decide) p.similar_outline

/-- The template of a signature gives the text of every overload. -/
theorem Overload.render_html (o : Overload) : Template.signature.render o.toJson = .ok o.html :=
  render_fragment (by decide) o.similar_outline

/-- The template of a member gives its text. -/
theorem ShownMember.render_html (m : ShownMember) : Template.member.render m.toJson = .ok m.html :=
  render_fragment (by decide) m.similar_outline

/-- The template of an option gives its text. -/
theorem ShownOption.render_html (o : ShownOption) :
    Template.commandOption.render o.toJson = .ok o.html :=
  render_fragment (by decide) o.similar_outline

/-! ## Lists in templates -/

section Lists

variable {α ε : Type} {t : Template} {kind heading : String} {v old : Json} {l : Listing}
  {value : α → Json} {html : α → Html}

theorem Shows.congr {list list' : List α → Html} {page : List α → Except ε Html}
    (h : Shows list page) (hlist : ∀ items, list items = list' items) : Shows list' page := by
  rwa [← funext hlist]

/-- A listing with nothing around its items is their texts in order. -/
theorem text_eq_inOrder {body : List Template.Node} (items : List α) :
    (Listing.mk body "" "").text (items.map html) = inOrder html items := by
  rw [Listing.text, inOrder]
  cases items with
  | nil => rfl
  | cons => simp

/-- A listing between the tags of a section is the section of its items, which is
left out without them. -/
theorem text_eq_inSection
    (hopening : l.opening = "<section class=\"" ++ kind ++ "\">\n  <h2>" ++ heading ++ "</h2>\n")
    (hclosing : l.closing = "\n</section>\n") (items : List α) :
    l.text (items.map html) = inSection kind heading html items := by
  rw [Listing.text, inSection, hopening, hclosing, List.isEmpty_map]
  rfl

/-- The template shows a list of values when it is given one in the place of
any other. -/
theorem shows_listing (key : String) (path : Template.Path) {out : Html}
    (hl : listing? (key :: path) t.nodes = some l)
    (hat : lookup? (key :: path) v = .ok (some old)) (hout : t.render v = .ok out)
    (hitem : ∀ x name isLast, renderNodes ⟨name, value x, isLast⟩ l.body = .ok (html x)) :
    Shows (fun items => l.text (items.map html)) fun items =>
      t.render (replace (.array (items.map value)) (key :: path) v) := by
  obtain ⟨before, after, hstands⟩ :=
    Template.stands_of_listing? t.name false t.nodes hl hat hout
  exact ⟨before, after, fun items => hstands _ _ (Listing.renders_map hitem items)⟩

/-- What a part gives for a value, it gives wherever it is inserted. -/
theorem renderNodes_node {text : Html} (hv : Template.partValue v = v) (h : t.render v = .ok text)
    (name : String) (isLast : Bool) : renderNodes ⟨name, v, isLast⟩ [t.node] = .ok text := by
  have hnode : Template.renderNode ⟨name, v, isLast⟩ t.node = .ok text := by
    rw [Template.node, Template.renderNode]
    show renderNodes ⟨t.name, Template.partValue v, false⟩ t.nodes = _
    rw [hv]
    exact h
  rw [renderNodes_cons_eq_ok hnode rfl, String.append_empty]

end Lists

/-- The nodes inside the list of callables give the text of one of them. -/
theorem ShownCallable.renderNodes_html (c : ShownCallable) (name : String) (isLast : Bool) :
    renderNodes ⟨name, c.toJson, isLast⟩ [
      .text "<section class=\"docs-reference-signatures\" id=\"",
      .value ⟨8, 75⟩ ["anchor"] .escaped,
      .text "\">\n  <h2>",
      .value ⟨9, 7⟩ ["name"] .escaped,
      .text "</h2>\n",
      .each ⟨10, 1⟩ ["overloads"] [
        Template.signature.node],
      .text "\n</section>\n"] = .ok c.html := by
  have hoverloads : Template.renderNode ⟨name, c.toJson, isLast⟩
      (.each ⟨10, 1⟩ ["overloads"] [Template.signature.node])
        = .ok (inOrder Overload.html c.overloads) :=
    renderNode_each_eq_join (l := ⟨[Template.signature.node], "", ""⟩) rfl
      (Listing.renders_map (fun o => renderNodes_node rfl o.render_html) c.overloads)
  refine Eq.trans (renderNodes_cons_eq_ok rfl <| renderNodes_cons_eq_ok (renderNode_escaped rfl) <|
    renderNodes_cons_eq_ok rfl <| renderNodes_cons_eq_ok (renderNode_escaped rfl) <|
    renderNodes_cons_eq_ok rfl <| renderNodes_cons_eq_ok hoverloads <|
    renderNodes_cons_eq_ok rfl rfl) ?_
  unfold ShownCallable.html
  simp only [Template.display, String.append_assoc, String.append_empty, -String.reduceAppend]

/-! ## Lists in pages -/

section Pages

variable {α : Type} {a : Article} (body : List α → Body) (key : String) (path : Template.Path)
  {t : Template} {old : Json} {l : Listing} {value : α → Json} {html : α → Html}

/-- Every article has a fragment. -/
theorem exists_fragment (a : Article) :
    ∃ fragment, a.body.template.render a.toJson = .ok fragment := by
  obtain ⟨fragment, _, hfragment, _⟩ := a.alike_outline
  exact ⟨fragment, hfragment⟩

/-- An article shows a list of its body when the body's template does and the
list's values stand at one place of the article's. A document's head and tail
do not depend on the body. -/
theorem shows_page (htemplate : ∀ items, (body items).template = t)
    (hl : listing? (key :: path) t.nodes = some l)
    (hat : lookup? (key :: path) ({ a with body := body [] }).toJson = .ok (some old))
    (hvalue : ∀ items, ({ a with body := body items }).toJson
      = replace (.array (items.map value)) (key :: path) ({ a with body := body [] }).toJson)
    (hitem : ∀ x name isLast, renderNodes ⟨name, value x, isLast⟩ l.body = .ok (html x))
    (style : PageStyle) :
    Shows (fun items => l.text (items.map html)) fun items =>
      ({ a with body := body items }).render style := by
  obtain ⟨fragment, hfragment⟩ := exists_fragment { a with body := body [] }
  rw [htemplate] at hfragment
  obtain ⟨before, after, hshows⟩ := shows_listing key path hl hat hfragment hitem
  have hpage (items : List α) : (body items).template.render ({ a with body := body items }).toJson
      = .ok (before ++ l.text (items.map html) ++ after) := by
    rw [htemplate, hvalue]
    exact hshows items
  cases hstandalone : style.standalone with
  | false =>
    refine ⟨before, after, fun items => ?_⟩
    show Article.render style _ = _
    rw [render_eq (hpage items) style, hstandalone]
    rfl
  | true =>
    refine ⟨documentHead a.title style.stylesheet ++ before, after ++ documentTail, fun items => ?_⟩
    show Article.render style _ = _
    rw [render_eq (hpage items) style, hstandalone, if_pos rfl]
    show Except.ok (documentHead a.title _ ++ _ ++ _) = _
    simp only [String.append_assoc]

end Pages

section Lists

variable {α : Type} {a : Article} (body : List α → Body) (key : String) (path : Template.Path)
  {t item : Template} {kind heading opening : String} {old : Json} {value : α → Json}
  {html : α → Html}

/-- A list with a template for its items. -/
theorem shows_inOrder (htemplate : ∀ items, (body items).template = t)
    (hl : listing? (key :: path) t.nodes = some ⟨[item.node], "", ""⟩)
    (hat : lookup? (key :: path) ({ a with body := body [] }).toJson = .ok (some old))
    (hvalue : ∀ items, ({ a with body := body items }).toJson
      = replace (.array (items.map value)) (key :: path) ({ a with body := body [] }).toJson)
    (hobject : ∀ x, Template.partValue (value x) = value x)
    (hitem : ∀ x, item.render (value x) = .ok (html x)) (style : PageStyle) :
    Shows (inOrder html) fun items => ({ a with body := body items }).render style :=
  (shows_page body key path htemplate hl hat hvalue
    (fun x => renderNodes_node (hobject x) (hitem x)) style).congr
    text_eq_inOrder

/-- The same of a list in a section of its own. -/
theorem shows_inSection (htemplate : ∀ items, (body items).template = t)
    (hl : listing? (key :: path) t.nodes = some ⟨[item.node], opening, "\n</section>\n"⟩)
    (hopening : opening = "<section class=\"" ++ kind ++ "\">\n  <h2>" ++ heading ++ "</h2>\n")
    (hat : lookup? (key :: path) ({ a with body := body [] }).toJson = .ok (some old))
    (hvalue : ∀ items, ({ a with body := body items }).toJson
      = replace (.array (items.map value)) (key :: path) ({ a with body := body [] }).toJson)
    (hobject : ∀ x, Template.partValue (value x) = value x)
    (hitem : ∀ x, item.render (value x) = .ok (html x)) (style : PageStyle) :
    Shows (inSection kind heading html) fun items =>
      ({ a with body := body items }).render style :=
  (shows_page body key path htemplate hl hat hvalue
    (fun x => renderNodes_node (hobject x) (hitem x)) style).congr
    (text_eq_inSection hopening rfl)

end Lists

theorem listing?_arguments (c : CommandBody) :
    listing? ["body", "arguments"] (Body.command c).template.nodes
      = some ⟨[Template.commandOption.node],
          "<section class=\"docs-cli-arguments\">\n  <h2>Arguments</h2>\n", "\n</section>\n"⟩ := by
  rw [Body.template]
  cases c.isSubcommand with
  | true => rfl
  | false => rfl

theorem listing?_options (c : CommandBody) :
    listing? ["body", "options"] (Body.command c).template.nodes
      = some ⟨[Template.commandOption.node],
          "<section class=\"docs-cli-options\">\n  <h2>Options</h2>\n", "\n</section>\n"⟩ := by
  rw [Body.template]
  cases c.isSubcommand with
  | true => rfl
  | false => rfl

/-- The text of a member shows its overloads in order. -/
theorem ShownMember.shows_overloads (m : ShownMember) :
    Shows (inOrder Overload.html) fun overloads =>
      Template.member.render ({ m with overloads }).toJson :=
  (shows_listing "overloads" [] (v := m.toJson) rfl rfl m.render_html fun o =>
    renderNodes_node rfl o.render_html).congr text_eq_inOrder

/-- The text of a callable shows its overloads in order. -/
theorem ShownCallable.shows_overloads (c : ShownCallable) :
    Shows (inOrder Overload.html) fun overloads =>
      (.ok ({ c with overloads }).html : Except Failure Html) := by
  refine ⟨"<section class=\"docs-reference-signatures\" id=\"" ++ Text.escapeValue c.anchor
    ++ "\">\n  <h2>" ++ Text.escapeValue c.name ++ "</h2>\n", "\n</section>\n", fun _ => ?_⟩
  unfold html
  rfl

/-- The text of an overload shows its parameters in order. -/
theorem Overload.shows_params (o : Overload) :
    Shows (inOrder ShownParameter.html) fun params =>
      Template.signature.render ({ o with params }).toJson :=
  (shows_listing "params" [] (v := o.toJson) rfl rfl o.render_html fun p =>
    renderNodes_node rfl p.render_html).congr text_eq_inOrder

section Bodies

variable (a : Article) (style : PageStyle)

/-- The page of a class shows its members in order. -/
theorem shows_classLike (c : ClassBody) :
    Shows (inSection "docs-reference-members" "API" ShownMember.html) fun members =>
      ({ a with body := .classLike { c with members } }).render style :=
  shows_inSection (fun members => .classLike { c with members }) "body" ["members"]
    (fun _ => rfl) rfl rfl rfl (fun _ => rfl) (fun _ => rfl) ShownMember.render_html style

/-- So does that of an interface. -/
theorem shows_interface (c : ClassBody) :
    Shows (inSection "docs-reference-members" "API" ShownMember.html) fun members =>
      ({ a with body := .interface { c with members } }).render style :=
  shows_inSection (fun members => .interface { c with members }) "body" ["members"]
    (fun _ => rfl) rfl rfl rfl (fun _ => rfl) (fun _ => rfl) ShownMember.render_html style

/-- The page of an enum shows its items as members. -/
theorem shows_enumeration :
    Shows (inSection "docs-reference-members" "Members" ShownMember.html) fun members =>
      ({ a with body := .enumeration members }).render style :=
  shows_inSection .enumeration "body" ["members"]
    (fun _ => rfl) rfl rfl rfl (fun _ => rfl) (fun _ => rfl) ShownMember.render_html style

/-- The page of a decorator shows the options that it takes as members. -/
theorem shows_decorator (placement : String) :
    Shows (inSection "docs-reference-members" "Options" ShownMember.html) fun members =>
      ({ a with body := .decorator placement members }).render style :=
  shows_inSection (.decorator placement) "body" ["members"]
    (fun _ => rfl) rfl rfl rfl (fun _ => rfl) (fun _ => rfl) ShownMember.render_html style

/-- The page of a function shows its overloads in order. -/
theorem shows_function (isOverloaded : Bool) :
    Shows (inOrder Overload.html) fun overloads =>
      ({ a with body := .function isOverloaded overloads }).render style :=
  shows_inOrder (.function isOverloaded) "body" ["overloads"]
    (fun _ => rfl) rfl rfl (fun _ => rfl) (fun _ => rfl) Overload.render_html style

/-- The page of an initializer API shows the overloads of its own call in order. -/
theorem shows_call (call : ShownCallable) (subFunctions : List ShownCallable) :
    Shows (inOrder Overload.html) fun overloads =>
      ({ a with body := .initializerApi { call with overloads } subFunctions }).render style :=
  shows_inOrder (fun overloads => .initializerApi { call with overloads } subFunctions) "body"
    ["call", "overloads"]
    (fun _ => rfl) rfl rfl (fun _ => rfl) (fun _ => rfl) Overload.render_html style

/-- After its own call it shows the functions below it in order. -/
theorem shows_subFunctions (call : ShownCallable) :
    Shows (inOrder ShownCallable.html) fun subFunctions =>
      ({ a with body := .initializerApi call subFunctions }).render style :=
  (shows_page (.initializerApi call) "body" ["subFunctions"]
    (fun _ => rfl) rfl rfl (fun _ => rfl) ShownCallable.renderNodes_html
      style).congr text_eq_inOrder

/-- The page of a command shows its arguments in order. -/
theorem shows_arguments (c : CommandBody) :
    Shows (inSection "docs-cli-arguments" "Arguments" ShownOption.html) fun arguments =>
      ({ a with body := .command { c with arguments } }).render style :=
  shows_inSection (fun arguments => .command { c with arguments }) "body" ["arguments"]
    (fun _ => rfl) (listing?_arguments c) rfl rfl (fun _ => rfl) (fun _ => rfl)
    ShownOption.render_html style

/-- The options follow in a section of their own. -/
theorem shows_options (c : CommandBody) :
    Shows (inSection "docs-cli-options" "Options" ShownOption.html) fun options =>
      ({ a with body := .command { c with options } }).render style :=
  shows_inSection (fun options => .command { c with options }) "body" ["options"]
    (fun _ => rfl) (listing?_options c) rfl rfl (fun _ => rfl) (fun _ => rfl)
    ShownOption.render_html style

end Bodies

/-- Every list of a page is shown in its order, one text an item. The page of
a class, an interface, an enum or a decorator shows its members so, that of a
function its overloads, that of an initializer API its call's overloads and
its other callables, and that of a command its arguments and its options. A
member's text shows the member's overloads, a callable's the callable's, and
an overload's its parameters. The text of an item is what the template for
such items gives for it alone, and what stands before and after the list is
the same whatever the items are. -/
theorem lists_in_order (a : Article) (style : PageStyle) :
    (∀ c : ClassBody,
      Shows (inSection "docs-reference-members" "API" ShownMember.html) (fun members =>
          ({ a with body := .classLike { c with members } }).render style)
        ∧ Shows (inSection "docs-reference-members" "API" ShownMember.html) fun members =>
            ({ a with body := .interface { c with members } }).render style)
      ∧ Shows (inSection "docs-reference-members" "Members" ShownMember.html) (fun members =>
          ({ a with body := .enumeration members }).render style)
      ∧ (∀ placement,
          Shows (inSection "docs-reference-members" "Options" ShownMember.html) fun members =>
            ({ a with body := .decorator placement members }).render style)
      ∧ (∀ isOverloaded, Shows (inOrder Overload.html) fun overloads =>
          ({ a with body := .function isOverloaded overloads }).render style)
      ∧ (∀ (call : ShownCallable) (subFunctions : List ShownCallable),
          Shows (inOrder Overload.html) (fun overloads =>
            ({ a with body := .initializerApi { call with overloads } subFunctions }).render style)
          ∧ Shows (inOrder ShownCallable.html) fun subFunctions =>
              ({ a with body := .initializerApi call subFunctions }).render style)
      ∧ (∀ c : CommandBody,
          Shows (inSection "docs-cli-arguments" "Arguments" ShownOption.html) (fun arguments =>
              ({ a with body := .command { c with arguments } }).render style)
            ∧ Shows (inSection "docs-cli-options" "Options" ShownOption.html) fun options =>
                ({ a with body := .command { c with options } }).render style)
      ∧ (∀ m : ShownMember, Template.member.render m.toJson = .ok m.html
          ∧ Shows (inOrder Overload.html) fun overloads =>
              Template.member.render ({ m with overloads }).toJson)
      ∧ (∀ c : ShownCallable, Shows (inOrder Overload.html) fun overloads =>
          (.ok ({ c with overloads }).html : Except Failure Html))
      ∧ (∀ o : Overload, Template.signature.render o.toJson = .ok o.html
          ∧ Shows (inOrder ShownParameter.html) fun params =>
              Template.signature.render ({ o with params }).toJson)
      ∧ (∀ p : ShownParameter, Template.parameter.render p.toJson = .ok p.html)
      ∧ (∀ o : ShownOption, Template.commandOption.render o.toJson = .ok o.html) :=
  ⟨fun c => ⟨a.shows_classLike style c, a.shows_interface style c⟩, a.shows_enumeration style,
    a.shows_decorator style, a.shows_function style,
    fun call subFunctions =>
      ⟨a.shows_call style call subFunctions, a.shows_subFunctions style call⟩,
    fun c => ⟨a.shows_arguments style c, a.shows_options style c⟩,
    fun m => ⟨m.render_html, m.shows_overloads⟩, ShownCallable.shows_overloads,
    fun o => ⟨o.render_html, o.shows_params⟩, ShownParameter.render_html, ShownOption.render_html⟩

end Article

end ApiPages
