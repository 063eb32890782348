import ApiPages.Article.Html
import ApiPages.Proofs.Template.Shape

/-!
# The outline of an article

Some texts of an article are HTML and stand in its page as they are; the
others are plain and are escaped. The outline keeps the HTML and every flag
and number. Of a plain text it keeps whether it is there and whether it is
empty, and of a list of them how many there are. Two articles of one outline
are similar values, so a page can differ between them in escaped text only.

Beside each kind of value stand its outline, its shape, and the lemma that
the value and its outline are similar. The shape of an article depends on
the kind of its body and on nothing else.
-/

namespace ApiPages

open Template (Shape Similar SimilarItems SimilarFields)

namespace Article

/-- Of a text, whether it is empty. -/
def masked (s : String) : String := if s.isEmpty then "" else "x"

/-- Of texts, how many there are. -/
def blanked (texts : List String) : List String := texts.map fun _ => ""

/-! ## Texts, options and lists -/

theorem isEmpty_masked (s : String) : (masked s).isEmpty = s.isEmpty := by
  rw [masked]
  cases s.isEmpty with
  | true => rfl
  | false => rfl

/-- A plain text is similar to its mask, which is empty when it is. -/
theorem similar_masked (s : String) : Similar .plain (.string s) (.string (masked s)) :=
  .plain (isEmpty_masked s).symm

section Containers

variable {α : Type} {shape : Shape} {value : α → Json} {outline : α → α}

/-- An optional value is similar to its outline when the value is. -/
theorem similar_option (h : ∀ x, Similar shape (value x) (value (outline x))) (o : Option α) :
    Similar (.optional shape) (.ofOption value o) (.ofOption value (o.map outline)) := by
  cases o with
  | none => exact .absent
  | some x => exact .present (h x)

/-- A list is similar to the list of its outlines, item by item. -/
theorem similar_items (h : ∀ x, Similar shape (value x) (value (outline x))) (xs : List α) :
    Similar (.list shape) (.array (xs.map value)) (.array ((xs.map outline).map value)) := by
  refine .list ?_
  induction xs with
  | nil => exact .nil
  | cons x xs ih => exact .cons (h x) ih

end Containers

/-- A plain text that may be missing is similar to its mask. -/
theorem similar_optionalText (o : Option String) :
    Similar (.optional .plain) (.ofOption .string o) (.ofOption .string (o.map masked)) :=
  similar_option similar_masked o

/-- Texts that nothing depends on are similar to as many empty ones. -/
theorem similar_blanked (texts : List String) :
    Similar (.list .free) (.ofStrings texts) (.ofStrings (blanked texts)) :=
  similar_items (fun s => .free s "") texts

/-- Texts of HTML are similar to themselves alone, so an outline keeps them. -/
theorem similar_htmls (texts : List Html) :
    Similar (.list .fixed) (.ofStrings texts) (.ofStrings texts) := by
  have h := similar_items (fun s => .fixed (.string s)) texts
  rwa [List.map_id'] at h

end Article

namespace Deprecation.State

def shapes : List (String × Shape) := [("isDeprecated", .fixed), ("deprecationMessage", .fixed)]

/-- A state of deprecation holds a flag and HTML, and is its own outline. -/
theorem similar (s : State) : SimilarFields shapes s.toFields s.toFields :=
  .cons (.fixed _) (.cons (.fixed _) .nil)

end Deprecation.State

namespace SourceLocation

open Article

def outline (s : SourceLocation) : SourceLocation := { s with filePath := masked s.filePath }

def shape : Shape := .record [("filePath", .plain), ("startLine", .fixed), ("endLine", .fixed)]

/-- A place in the source is similar to its outline, which masks its path. -/
theorem similar_outline (s : SourceLocation) : Similar shape s.toJson s.outline.toJson :=
  .record <|
  .cons (similar_masked s.filePath) <|
  .cons (.fixed _) <|
  .cons (.fixed _) <|
  .nil

end SourceLocation

namespace Article

/-! ## Signatures -/

namespace ShownParameter

def outline (p : ShownParameter) : ShownParameter := { p with name := masked p.name }

def shape : Shape :=
  .record [("name", .plain), ("typeHtml", .fixed), ("htmlDescription", .fixed),
    ("isOptional", .fixed), ("isRestParam", .fixed)]

/-- A parameter is similar to its outline, which masks its name. -/
theorem similar_outline (p : ShownParameter) : Similar shape p.toJson p.outline.toJson :=
  .record <|
  .cons (similar_masked p.name) <|
  .cons (.fixed _) <|
  .cons (.fixed _) <|
  .cons (.fixed _) <|
  .cons (.fixed _) <|
  .nil

end ShownParameter

namespace Overload

def outline (o : Overload) : Overload := { o with params := o.params.map ShownParameter.outline }

def shape : Shape :=
  .record ([("code", .fixed), ("htmlDescription", .fixed), ("params", .list ShownParameter.shape),
    ("returnType", .fixed), ("returnsDescription", .fixed), ("htmlUsageNotes", .fixed)]
    ++ Deprecation.State.shapes)

/-- An overload is similar to its outline, the parameters included. -/
theorem similar_outline (o : Overload) : Similar shape o.toJson o.outline.toJson :=
  .record <|
  .cons (.fixed _) <|
  .cons (.fixed _) <|
  .cons (similar_items ShownParameter.similar_outline o.params) <|
  .cons (.fixed _) <|
  .cons (.fixed _) <|
  .cons (.fixed _) <|
  o.deprecation.similar

end Overload

namespace ShownCallable

def outline (c : ShownCallable) : ShownCallable :=
  ⟨masked c.name, masked c.anchor, c.overloads.map Overload.outline⟩

def shape : Shape :=
  .record [("name", .plain), ("anchor", .plain), ("overloads", .list Overload.shape)]

/-- A callable is similar to its outline, the overloads included. -/
theorem similar_outline (c : ShownCallable) : Similar shape c.toJson c.outline.toJson :=
  .record <|
  .cons (similar_masked c.name) <|
  .cons (similar_masked c.anchor) <|
  .cons (similar_items Overload.similar_outline c.overloads) <|
  .nil

end ShownCallable

/-! ## Members -/

namespace ShownMember

def outline (m : ShownMember) : ShownMember :=
  { m with
    name := masked m.name
    anchor := masked m.anchor
    tag := masked m.tag
    modifiers := blanked m.modifiers
    publicName := m.publicName.map masked
    value := m.value.map masked
    overloads := m.overloads.map Overload.outline }

def shape : Shape :=
  .record ([("name", .plain), ("anchor", .plain), ("memberType", .plain), ("tags", .list .free),
    ("typeHtml", .fixed), ("alias", .optional .plain), ("value", .optional .plain),
    ("htmlDescription", .fixed)] ++ Deprecation.State.shapes
    ++ [("isMethod", .fixed), ("isOverloaded", .fixed), ("overloads", .list Overload.shape)])

/-- A member is similar to its outline, the overloads included. -/
theorem similar_outline (m : ShownMember) : Similar shape m.toJson m.outline.toJson :=
  .record <|
  .cons (similar_masked m.name) <|
  .cons (similar_masked m.anchor) <|
  .cons (similar_masked m.tag) <|
  .cons (similar_blanked m.modifiers) <|
  .cons (.fixed _) <|
  .cons (similar_optionalText m.publicName) <|
  .cons (similar_optionalText m.value) <|
  .cons (.fixed _) <|
  .cons (.fixed _) <|
  .cons (.fixed _) <|
  .cons (.fixed _) <|
  .cons (.fixed _) <|
  .cons (similar_items Overload.similar_outline m.overloads) <|
  .nil

end ShownMember

namespace ClassBody

def outline (c : ClassBody) : ClassBody :=
  { c with
    selector := c.selector.map masked
    exportAs := blanked c.exportAs
    pipeName := c.pipeName.map masked
    members := c.members.map ShownMember.outline }

def shapes : List (String × Shape) :=
  [("declaration", .fixed), ("selector", .optional .plain), ("exportAs", .list .free),
    ("pipeName", .optional .plain), ("isStandalone", .fixed), ("members", .list ShownMember.shape)]

/-- The body of a class is similar to its outline, field by field. -/
theorem similar_outline (c : ClassBody) : SimilarFields shapes c.toFields c.outline.toFields :=
  .cons (.fixed _) <|
  .cons (similar_optionalText c.selector) <|
  .cons (similar_blanked c.exportAs) <|
  .cons (similar_optionalText c.pipeName) <|
  .cons (.fixed _) <|
  .cons (similar_items ShownMember.similar_outline c.members) <|
  .nil

end ClassBody

/-! ## Commands -/

namespace PageLink

def outline (l : PageLink) : PageLink :=
  { l with name := masked l.name, href := l.href.map masked }

def shape : Shape :=
  .record [("name", .plain), ("href", .optional .plain), ("htmlDescription", .fixed)]

/-- A link to a page is similar to its outline, which masks where it leads. -/
theorem similar_outline (l : PageLink) : Similar shape l.toJson l.outline.toJson :=
  .record <|
  .cons (similar_masked l.name) <|
  .cons (similar_optionalText l.href) <|
  .cons (.fixed _) <|
  .nil

end PageLink

namespace ShownOption

def outline (o : ShownOption) : ShownOption :=
  { o with
    name := masked o.name
    displayName := masked o.displayName
    aliases := blanked o.aliases
    type := masked o.type
    default := o.default.map masked
    allowedValues := blanked o.allowedValues }

def shape : Shape :=
  .record ([("name", .plain), ("displayName", .plain), ("aliases", .list .free),
    ("type", .plain), ("htmlDescription", .fixed), ("default", .optional .plain),
    ("allowedValues", .list .free)] ++ Deprecation.State.shapes)

/-- An option is similar to its outline. -/
theorem similar_outline (o : ShownOption) : Similar shape o.toJson o.outline.toJson :=
  .record <|
  .cons (similar_masked o.name) <|
  .cons (similar_masked o.displayName) <|
  .cons (similar_blanked o.aliases) <|
  .cons (similar_masked o.type) <|
  .cons (.fixed _) <|
  .cons (similar_optionalText o.default) <|
  .cons (similar_blanked o.allowedValues) <|
  o.deprecation.similar

end ShownOption

namespace CommandBody

def outline (c : CommandBody) : CommandBody :=
  { c with
    usage := masked c.usage
    label := masked c.label
    aliases := blanked c.aliases
    parent := c.parent.map PageLink.outline
    arguments := c.arguments.map ShownOption.outline
    options := c.options.map ShownOption.outline
    subcommands := c.subcommands.map PageLink.outline }

def shapes : List (String × Shape) :=
  [("command", .plain), ("isSubcommand", .fixed), ("label", .plain), ("aliases", .list .free),
    ("parent", .optional PageLink.shape), ("arguments", .list ShownOption.shape),
    ("options", .list ShownOption.shape), ("subcommands", .list PageLink.shape)]

/-- The body of a command is similar to its outline, field by field. -/
theorem similar_outline (c : CommandBody) : SimilarFields shapes c.toFields c.outline.toFields :=
  .cons (similar_masked c.usage) <|
  .cons (.fixed _) <|
  .cons (similar_masked c.label) <|
  .cons (similar_blanked c.aliases) <|
  .cons (similar_option PageLink.similar_outline c.parent) <|
  .cons (similar_items ShownOption.similar_outline c.arguments) <|
  .cons (similar_items ShownOption.similar_outline c.options) <|
  .cons (similar_items PageLink.similar_outline c.subcommands) <|
  .nil

end CommandBody

/-! ## Bodies and articles -/

namespace Body

def outline : Body → Body
  | classLike c => classLike c.outline
  | interface c => interface c.outline
  | function isOverloaded overloads => function isOverloaded (overloads.map Overload.outline)
  | initializerApi call subFunctions =>
    initializerApi call.outline (subFunctions.map ShownCallable.outline)
  | constant code => constant code
  | typeAlias code => typeAlias code
  | enumeration members => enumeration (members.map ShownMember.outline)
  | decorator placement members =>
    decorator (masked placement) (members.map ShownMember.outline)
  | block => block
  | command c => command c.outline

def shapes : Body → List (String × Shape)
  | classLike _ | interface _ => ClassBody.shapes
  | function .. => [("isOverloaded", .fixed), ("overloads", .list Overload.shape)]
  | initializerApi .. =>
    [("call", ShownCallable.shape), ("subFunctions", .list ShownCallable.shape)]
  | constant _ | typeAlias _ => [("code", .fixed)]
  | enumeration _ => [("members", .list ShownMember.shape)]
  | decorator .. => [("placement", .plain), ("members", .list ShownMember.shape)]
  | block => []
  | command _ => CommandBody.shapes

/-- A body is similar to its outline, whatever its kind. -/
theorem similar_outline : ∀ b : Body, SimilarFields b.shapes b.toFields b.outline.toFields
  | classLike c => c.similar_outline
  | interface c => c.similar_outline
  | function .. => .cons (.fixed _) (.cons (similar_items Overload.similar_outline _) .nil)
  | initializerApi call _ =>
    .cons call.similar_outline (.cons (similar_items ShownCallable.similar_outline _) .nil)
  | constant _ => .cons (.fixed _) .nil
  | typeAlias _ => .cons (.fixed _) .nil
  | enumeration _ => .cons (similar_items ShownMember.similar_outline _) .nil
  | decorator .. =>
    .cons (similar_masked _) (.cons (similar_items ShownMember.similar_outline _) .nil)
  | block => .nil
  | command c => c.similar_outline

/-- An outline is of the same kind. -/
theorem kind_outline : ∀ b : Body, b.outline.kind = b.kind
  | classLike _ | interface _ | function .. | initializerApi .. | constant _ | typeAlias _
  | enumeration _ | decorator .. | block | command _ => rfl

/-- The outline of a body has the same template. -/
theorem template_outline : ∀ b : Body, b.outline.template = b.template
  | classLike _ | interface _ | function .. | initializerApi .. | constant _ | typeAlias _
  | enumeration _ | decorator .. | block | command _ => rfl

end Body

def outline (a : Article) : Article :=
  { a with
    name := masked a.name
    tag := masked a.tag
    category := masked a.category
    moduleName := a.moduleName.map masked
    badges := blanked a.badges
    source := a.source.map SourceLocation.outline
    body := a.body.outline }

/-- The shape of an article with a body. -/
def shape (b : Body) : Shape :=
  .record ([("name", .plain), ("entryType", .plain), ("category", .plain),
    ("moduleName", .optional .plain), ("htmlDescription", .fixed), ("htmlUsageNotes", .fixed)]
    ++ Deprecation.State.shapes
    ++ [("badges", .list .free), ("seeAlso", .list .fixed), ("examples", .list .fixed),
      ("source", .optional SourceLocation.shape), ("body", .record (("kind", .fixed) :: b.shapes))])

/-- An article is similar to its outline, in the shape that its body has. -/
theorem similar_outline (a : Article) : Similar (shape a.body) a.toJson a.outline.toJson := by
  have hbody : Similar (.record (("kind", .fixed) :: a.body.shapes)) a.body.toJson
      a.body.outline.toJson := by
    rw [Body.toJson, Body.toJson, Body.kind_outline]
    exact .record (.cons (.fixed _) a.body.similar_outline)
  exact .record <|
    .cons (similar_masked a.name) <|
    .cons (similar_masked a.tag) <|
    .cons (similar_masked a.category) <|
    .cons (similar_optionalText a.moduleName) <|
    .cons (.fixed _) <|
    .cons (.fixed _) <|
    .cons (.fixed _) <|
    .cons (.fixed _) <|
    .cons (similar_blanked a.badges) <|
    .cons (similar_htmls a.seeAlso) <|
    .cons (similar_htmls a.examples) <|
    .cons (similar_option SourceLocation.similar_outline a.source) <|
    .cons hbody <|
    .nil

end Article

/-- The outline of a style: of a stylesheet that is named, that it is. -/
def PageStyle.outline (s : PageStyle) : PageStyle :=
  { s with stylesheet := s.stylesheet.map Article.masked }

end ApiPages
