import ApiPages.Article.OfCommand

/-!
# The article of an entry

API entries lie in the output directory itself, so their links start there.
Unknown and malformed entries have no article; the failure says why.
-/

namespace ApiPages.Article

/-- The module that a header shows. -/
def shownModule (moduleName : String) : Option String :=
  if moduleName == unknownModule || moduleName.isEmpty then none else some moduleName

namespace Scribe

/-- The body of a class or interface. -/
def classBody (s : Scribe) (keyword : String) (c : ClassEntry) : Except Failure ClassBody := do
  let members ← s.members c.members
  .ok ⟨s.type (c.declaration keyword), c.selector, c.exportAs, c.pipeName, c.isStandalone, members⟩

/-- The body of a function. -/
def functionBody (s : Scribe) (f : FunctionEntry) : Except Failure Body := do
  let overloads ← f.signatures.mapM (s.overload f.info.name none)
  .ok (.function (overloads.length > 1) overloads)

/-- The body of an initializer API. -/
def initializerApiBody (s : Scribe) (f : InitializerApiEntry) : Except Failure Body := do
  let call ← s.callable f.info.name f.call
  let subFunctions ← f.subFunctions.mapM fun c => s.callable (f.info.name ++ "." ++ c.name) c
  .ok (.initializerApi call subFunctions)

/-- What is shown of every API entry. -/
def article (s : Scribe) (moduleName : String) (info : EntryInfo) (body : Body) : Article where
  name := info.name
  tag := info.kind.tag
  category := info.kind.label
  moduleName := shownModule moduleName
  description := s.blocks info.description
  usageNotes := s.usageNotes info.usageNotes info.tags
  deprecation := s.deprecation info.deprecated info.tags
  badges := DocTag.badges info.tags
  seeAlso := ((DocTag.named info.tags "see").map fun tag => s.inline (Text.trim tag.comment)).filter
    fun html => !html.isEmpty
  examples := ((DocTag.named info.tags "example").filter fun tag =>
    !Text.isBlankText tag.comment).map fun tag => s.exampleOf tag.comment
  source := info.source
  body := body

end Scribe

namespace Context

/-- The article of an API entry, given how its body is written. -/
def ofApi (ctx : Context) (moduleName : String) (info : EntryInfo)
    (body : Scribe → Except Failure Body) : Except Failure Article :=
  let s := ctx.scribe info.name 0
  (body s).map (s.article moduleName info)

/-- The article of the entry at a place, in a module. -/
def article (ctx : Context) (place : Place) (moduleName : String) (e : Entry) :
    Except Failure Article :=
  match e with
  | .unknown name tag _ => .error (.unsupported name tag)
  | .malformed name tag reason => .error (.malformed name tag reason)
  | .command c => ctx.ofCommand place c
  | .classLike c =>
    ctx.ofApi moduleName c.info fun s => (s.classBody "class" c).map .classLike
  | .interface c =>
    ctx.ofApi moduleName c.info fun s => (s.classBody "interface" c).map .interface
  | .function f => ctx.ofApi moduleName f.info fun s => s.functionBody f
  | .initializerApi f => ctx.ofApi moduleName f.info fun s => s.initializerApiBody f
  | .constant c => ctx.ofApi moduleName c.info fun s => .ok (.constant (s.type c.declaration))
  | .typeAlias a => ctx.ofApi moduleName a.info fun s =>
      .ok (.typeAlias (s.type a.head ++ " = " ++ s.type a.type))
  | .enumeration e => ctx.ofApi moduleName e.info fun s => (s.members e.members).map .enumeration
  | .decorator d => ctx.ofApi moduleName d.info fun s =>
      (s.members d.members).map (.decorator d.placement.label)
  | .block info => ctx.ofApi moduleName info fun _ => .ok .block

end Context

end ApiPages.Article
