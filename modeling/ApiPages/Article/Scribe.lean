import ApiPages.Article.Basic
import ApiPages.Entry.Declaration
import ApiPages.Link.Reference
import ApiPages.Link.TypeText
import ApiPages.Markdown.Render
import ApiPages.Failure

/-!
# The scribe — prose, signatures and members of an article

A scribe writes the texts of one entry as HTML: Markdown with its
references linked, types with their symbols linked, declarations. It
refuses a member or a parameter without a name, and says which entry has
it.

Methods of one name become one member: `groupOverloads` moves each
method's overloads to the first method of its name.
-/

namespace ApiPages.Article

/-- What the texts of one entry are written with. -/
structure Scribe where
  /-- What writes Markdown. -/
  markdown : Markdown.Engine
  /-- Where the links stand. -/
  site : Link.Site

namespace Scribe

/-! ## Texts -/

/-- Markdown as blocks. -/
def blocks (s : Scribe) (text : String) : Html :=
  Markdown.render s.markdown (Link.resolveReferences s.site text)

/-- Markdown that belongs into a line. -/
def inline (s : Scribe) (text : String) : Html :=
  Markdown.renderInline s.markdown (Link.resolveReferences s.site text)

/-- A type. -/
def type (s : Scribe) (text : String) : Html := Link.linkify s.site text

/-- What a marker and tags say about deprecation, with the message as
HTML. -/
def deprecation (s : Scribe) (field : Option Deprecation) (tags : List DocTag) :
    Deprecation.State :=
  let state := Deprecation.resolve field tags
  { state with message := state.message.map s.inline }

/-- Usage notes. -/
def usageNotes (s : Scribe) (field : Option String) (tags : List DocTag) : Option Html :=
  (DocTag.usageNotes field tags).map s.blocks

/-- The fence around code. -/
def fence : String := "\x60\x60\x60"

/-- An example: code without a fence of its own gets one. -/
def exampleOf (s : Scribe) (comment : String) : Html :=
  if Text.hasWord fence.toList comment.toList then s.blocks comment
  else s.blocks (fence ++ "typescript\n" ++ Text.trim comment ++ "\n" ++ fence)

/-- A failure of a part of the entry. -/
def malformed (s : Scribe) (part reason : String) : Failure :=
  .malformed s.site.current part reason

/-! ## Signatures -/

/-- The description that the `@param` tags have for a parameter: the rest
of the first comment whose first word is the name. -/
def paramDescription? (tags : List DocTag) (name : String) : Option String :=
  (DocTag.named tags "param").findSome? fun tag =>
    let comment := (Text.trim tag.comment).toList
    let word := comment.takeWhile fun c => !Text.isBlank c
    if String.ofList word == name then
      some (Text.trim (String.ofList (comment.drop word.length)))
    else none

/-- A parameter; its own description comes before that of its tag. -/
def parameter (s : Scribe) (tags : List DocTag) (p : Parameter) :
    Except Failure ShownParameter :=
  if Text.isBlankText p.name then .error (s.malformed "parameter" "parameter has no name")
  else
    let description :=
      if Text.isBlankText p.description then (paramDescription? tags p.name).getD ""
      else p.description
    .ok ⟨p.name, s.type p.type, s.inline description, p.isOptional, p.isRest⟩

/-- The declaration of a signature. -/
def code (s : Scribe) (name : String) (sig : Signature) : Html :=
  sig.declarationWith name Text.escapeText s.type

/-- What the first `@returns` tag says. -/
def returnsDescription (s : Scribe) (tags : List DocTag) : Option Html :=
  ((DocTag.find? tags "returns").map fun tag => s.inline (Text.trim tag.comment)).filter
    fun html => !html.isEmpty

/-- A signature under a name, with the marker of the member it belongs
to. -/
def overload (s : Scribe) (name : String) (marker : Option Deprecation) (sig : Signature) :
    Except Failure Overload := do
  let params ← sig.params.mapM (s.parameter sig.tags)
  .ok {
    code := s.code name sig
    description := s.blocks sig.description
    params
    returnType := s.type sig.returnTypeOrVoid
    returnsDescription := s.returnsDescription sig.tags
    usageNotes := s.usageNotes none sig.tags
    deprecation := s.deprecation marker sig.tags }

/-- A callable under its full name. -/
def callable (s : Scribe) (name : String) (c : Callable) : Except Failure ShownCallable := do
  let overloads ← c.signatures.mapM (s.overload name none)
  .ok ⟨name, Link.anchor name, overloads⟩

/-! ## Members -/

/-- What is shown of every member. -/
def plainMember (s : Scribe) (m : Member) : ShownMember where
  name := m.name
  anchor := Link.anchor m.name
  tag := m.typeTag
  modifiers := m.info.modifiers
  type := none
  publicName := none
  value := none
  description := s.blocks m.info.description
  deprecation := s.deprecation m.info.deprecated m.info.tags
  isMethod := false
  isOverloaded := false
  overloads := []

/-- A property or accessor. -/
def property (s : Scribe) (m : Member) (p : Property) : ShownMember :=
  let plain := s.plainMember m
  let isTagged := p.isRequiredInput == some true && !p.info.hasModifier "required"
  { plain with
    type := some (s.type p.type)
    publicName := p.publicName?
    modifiers := plain.modifiers ++ if isTagged then ["required"] else [] }

/-- A method with its own overload alone. -/
def method (s : Scribe) (m : Member) (own : Overload) : ShownMember :=
  let plain := s.plainMember m
  { plain with
    description := ""
    deprecation := { plain.deprecation with isDeprecated := own.deprecation.isDeprecated }
    isMethod := true
    overloads := [own] }

/-- One member. -/
def member (s : Scribe) (m : Member) : Except Failure ShownMember :=
  if Text.isBlankText m.name then
    .error (s.malformed "member" (m.typeTag ++ " member has no name"))
  else
    match m with
    | .method x => (s.overload x.info.name x.info.deprecated x.signature).map (s.method m)
    | .property p | .getter p | .setter p => .ok (s.property m p)
    | .enumItem e =>
      .ok { s.plainMember m with
        type := if e.type.isEmpty then none else some (s.type e.type)
        value := e.value }

end Scribe

/-- Whether a member is a method of a name. -/
def ShownMember.isMethodNamed (m : ShownMember) (name : String) : Bool :=
  m.isMethod && m.name == name

/-- A method with the overloads of a later one after its own. It is
deprecated when both are. -/
def ShownMember.withOverloads (m later : ShownMember) : ShownMember :=
  { m with
    deprecation := { m.deprecation with
      isDeprecated := m.deprecation.isDeprecated && later.deprecation.isDeprecated }
    isOverloaded := true
    overloads := m.overloads ++ later.overloads }

/-- The members with all methods of a name as one, in place of the
first. -/
def groupOverloads : List ShownMember → List ShownMember
  | [] => []
  | m :: more =>
    let rest := groupOverloads more
    if m.isMethod then
      match rest.find? (·.isMethodNamed m.name) with
      | some later => m.withOverloads later :: rest.filter fun x => !x.isMethodNamed m.name
      | none => m :: rest
    else m :: rest

/-- The members of an entry. -/
def Scribe.members (s : Scribe) (ms : List Member) : Except Failure (List ShownMember) :=
  (ms.mapM s.member).map groupOverloads

end ApiPages.Article
