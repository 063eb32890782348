import ApiPages.Article.Basic

/-!
# Articles as values

Templates read an article as a JSON value. Every field is always there,
with `null` for what is absent, because a template may not name a field
that its data lacks.
-/

namespace ApiPages

/-- The two fields of a deprecation. -/
def Deprecation.State.toFields (s : State) : List (String × Json) :=
  [("isDeprecated", .bool s.isDeprecated), ("deprecationMessage", .ofOption .string s.message)]

namespace Article

/-- A parameter as a value. -/
def ShownParameter.toJson (p : ShownParameter) : Json :=
  .object [("name", .string p.name), ("typeHtml", .string p.type),
    ("htmlDescription", .string p.description), ("isOptional", .bool p.isOptional),
    ("isRestParam", .bool p.isRest)]

/-- An overload as a value. -/
def Overload.toJson (o : Overload) : Json :=
  .object ([("code", .string o.code), ("htmlDescription", .string o.description),
    ("params", .array (o.params.map ShownParameter.toJson)), ("returnType", .string o.returnType),
    ("returnsDescription", .ofOption .string o.returnsDescription),
    ("htmlUsageNotes", .ofOption .string o.usageNotes)] ++ o.deprecation.toFields)

/-- A member as a value. -/
def ShownMember.toJson (m : ShownMember) : Json :=
  .object ([("name", .string m.name), ("anchor", .string m.anchor),
    ("memberType", .string m.tag), ("tags", .ofStrings m.modifiers),
    ("typeHtml", .ofOption .string m.type), ("alias", .ofOption .string m.publicName),
    ("value", .ofOption .string m.value), ("htmlDescription", .string m.description)]
    ++ m.deprecation.toFields
    ++ [("isMethod", .bool m.isMethod), ("isOverloaded", .bool m.isOverloaded),
      ("overloads", .array (m.overloads.map Overload.toJson))])

/-- A callable as a value. -/
def ShownCallable.toJson (c : ShownCallable) : Json :=
  .object [("name", .string c.name), ("anchor", .string c.anchor),
    ("overloads", .array (c.overloads.map Overload.toJson))]

/-- The fields of a class's body. -/
def ClassBody.toFields (c : ClassBody) : List (String × Json) :=
  [("declaration", .string c.declaration), ("selector", .ofOption .string c.selector),
    ("exportAs", .ofStrings c.exportAs), ("pipeName", .ofOption .string c.pipeName),
    ("isStandalone", .ofOption .bool c.isStandalone),
    ("members", .array (c.members.map ShownMember.toJson))]

/-- A link as a value. -/
def PageLink.toJson (l : PageLink) : Json :=
  .object [("name", .string l.name), ("href", .ofOption .string l.href),
    ("htmlDescription", .string l.description)]

/-- An option as a value. -/
def ShownOption.toJson (o : ShownOption) : Json :=
  .object ([("name", .string o.name), ("displayName", .string o.displayName),
    ("aliases", .ofStrings o.aliases), ("type", .string o.type),
    ("htmlDescription", .string o.description), ("default", .ofOption .string o.default),
    ("allowedValues", .ofStrings o.allowedValues)] ++ o.deprecation.toFields)

/-- The fields of a command's body. -/
def CommandBody.toFields (c : CommandBody) : List (String × Json) :=
  [("command", .string c.usage), ("isSubcommand", .bool c.isSubcommand),
    ("label", .string c.label), ("aliases", .ofStrings c.aliases),
    ("parent", .ofOption PageLink.toJson c.parent),
    ("arguments", .array (c.arguments.map ShownOption.toJson)),
    ("options", .array (c.options.map ShownOption.toJson)),
    ("subcommands", .array (c.subcommands.map PageLink.toJson))]

namespace Body

/-- The tag of a body's kind. -/
def kind : Body → String
  | classLike _ => "class"
  | interface _ => "interface"
  | function .. => "function"
  | initializerApi .. => "initializer_api"
  | constant _ => "constant"
  | typeAlias _ => "type_alias"
  | enumeration _ => "enum"
  | decorator .. => "decorator"
  | block => "block"
  | command _ => "cli"

/-- The fields of a body beside its kind. -/
def toFields : Body → List (String × Json)
  | classLike c | interface c => c.toFields
  | function isOverloaded overloads =>
    [("isOverloaded", .bool isOverloaded), ("overloads", .array (overloads.map Overload.toJson))]
  | initializerApi call subFunctions =>
    [("call", call.toJson), ("subFunctions", .array (subFunctions.map ShownCallable.toJson))]
  | constant code | typeAlias code => [("code", .string code)]
  | enumeration members => [("members", .array (members.map ShownMember.toJson))]
  | decorator placement members =>
    [("placement", .string placement), ("members", .array (members.map ShownMember.toJson))]
  | block => []
  | command c => c.toFields

/-- A body as a value. -/
def toJson (b : Body) : Json := .object (("kind", .string b.kind) :: b.toFields)

end Body

/-- An article as a value. -/
def toJson (a : Article) : Json :=
  .object ([("name", .string a.name), ("entryType", .string a.tag),
    ("category", .string a.category), ("moduleName", .ofOption .string a.moduleName),
    ("htmlDescription", .string a.description),
    ("htmlUsageNotes", .ofOption .string a.usageNotes)] ++ a.deprecation.toFields
    ++ [("badges", .ofStrings a.badges), ("seeAlso", .ofStrings a.seeAlso),
      ("examples", .ofStrings a.examples), ("source", .ofOption SourceLocation.toJson a.source),
      ("body", a.body.toJson)])

end Article

end ApiPages
