import ApiPages.Entry.Info

/-!
# Articles — entries made ready for a page

An article holds what the page of one entry shows: Markdown and types are
HTML, overloads are grouped, deprecation and usage notes are settled. What
is still plain text is escaped where a template inserts it, and the two
never share a field.
-/

namespace ApiPages

/-- Text that is HTML already. -/
abbrev Html := String

namespace Article

/-- A parameter of an overload. -/
structure ShownParameter where
  name : String
  type : Html
  description : Html
  isOptional : Bool
  isRest : Bool
  deriving DecidableEq, Repr

/-- One way to call a function, method or callable. -/
structure Overload where
  /-- The declaration, with its types linked. -/
  code : Html
  description : Html
  params : List ShownParameter
  returnType : Html
  returnsDescription : Option Html
  usageNotes : Option Html
  deprecation : Deprecation.State
  deriving DecidableEq, Repr

/-- A member, or all methods of one name. -/
structure ShownMember where
  name : String
  anchor : String
  /-- The member's tag. -/
  tag : String
  /-- Modifiers such as `static` or `required`. -/
  modifiers : List String
  type : Option Html
  /-- The public name, when it is another. -/
  publicName : Option String
  /-- The value of an enum's item. -/
  value : Option String
  /-- Empty for methods, whose overloads carry their own. -/
  description : Html
  deprecation : Deprecation.State
  isMethod : Bool
  isOverloaded : Bool
  overloads : List Overload
  deriving DecidableEq, Repr

/-- A named callable of an initializer API. -/
structure ShownCallable where
  name : String
  anchor : String
  overloads : List Overload
  deriving DecidableEq, Repr

/-- What the page of a class or interface shows. -/
structure ClassBody where
  declaration : Html
  selector : Option String
  exportAs : List String
  pipeName : Option String
  isStandalone : Option Bool
  members : List ShownMember
  deriving DecidableEq, Repr

/-- The name of another page, with a link when the page exists. -/
structure PageLink where
  name : String
  href : Option String
  description : Html
  deriving DecidableEq, Repr

/-- An option or argument of a command. -/
structure ShownOption where
  name : String
  /-- The name with its dashes, or in angle brackets. -/
  displayName : String
  /-- The aliases with their dashes. -/
  aliases : List String
  type : String
  description : Html
  default : Option String
  allowedValues : List String
  deprecation : Deprecation.State
  deriving DecidableEq, Repr

/-- What the page of a command shows. -/
structure CommandBody where
  /-- The usage line. -/
  usage : String
  isSubcommand : Bool
  label : String
  aliases : List String
  /-- The way back to the root. -/
  parent : Option PageLink
  arguments : List ShownOption
  options : List ShownOption
  subcommands : List PageLink
  deriving DecidableEq, Repr

/-- What a page shows below its header, by the kind of its entry. -/
inductive Body where
  | classLike (c : ClassBody)
  | interface (c : ClassBody)
  | function (isOverloaded : Bool) (overloads : List Overload)
  | initializerApi (call : ShownCallable) (subFunctions : List ShownCallable)
  | constant (code : Html)
  | typeAlias (code : Html)
  | enumeration (members : List ShownMember)
  | decorator (placement : String) (members : List ShownMember)
  | block
  | command (c : CommandBody)
  deriving DecidableEq, Repr

end Article

/-- What the page of one entry shows. -/
structure Article where
  name : String
  /-- The tag of the entry's kind. -/
  tag : String
  /-- The label of the entry's kind. -/
  category : String
  /-- Absent for commands and for entries without a module. -/
  moduleName : Option String
  description : Html
  usageNotes : Option Html
  deprecation : Deprecation.State
  badges : List String
  seeAlso : List Html
  examples : List Html
  source : Option SourceLocation
  body : Article.Body
  deriving DecidableEq, Repr

end ApiPages
