import ApiPages.Json.Decoder

/-!
# The kinds of API entries

Fifteen kinds, each with the tag that documents use for it and the label
that pages show. `ofTag?` inverts `tag`.
-/

namespace ApiPages

/-- What an API entry documents. -/
inductive EntryKind where
  | block
  | component
  | constant
  | decorator
  | directive
  | element
  | enumeration
  | function
  | initializerApi
  | interface
  | ngModule
  | pipe
  | typeAlias
  | undecoratedClass
  | classKind
  deriving DecidableEq, Repr

namespace EntryKind

/-- The kinds in the order in which messages list them. -/
def all : List EntryKind :=
  [block, component, constant, decorator, directive, element, enumeration, function,
    initializerApi, interface, ngModule, pipe, typeAlias, undecoratedClass, classKind]

/-- The tag of a kind in documents and file names. -/
def tag : EntryKind → String
  | block => "block"
  | component => "component"
  | constant => "constant"
  | decorator => "decorator"
  | directive => "directive"
  | element => "element"
  | enumeration => "enum"
  | function => "function"
  | initializerApi => "initializer_api_function"
  | interface => "interface"
  | ngModule => "ng_module"
  | pipe => "pipe"
  | typeAlias => "type_alias"
  | undecoratedClass => "undecorated_class"
  | classKind => "class"

/-- The label of a kind on its pages. -/
def label : EntryKind → String
  | block => "Block"
  | component => "Component"
  | constant => "Const"
  | decorator => "Decorator"
  | directive => "Directive"
  | element => "Element"
  | enumeration => "Enum"
  | function => "Function"
  | initializerApi => "Initializer API"
  | interface => "Interface"
  | ngModule => "NgModule"
  | pipe => "Pipe"
  | typeAlias => "Type Alias"
  | undecoratedClass => "Class"
  | classKind => "Class"

/-- Whether entries of the kind have the shape of a class. -/
def isClassLike : EntryKind → Bool
  | classKind | undecoratedClass | component | directive | pipe | ngModule => true
  | _ => false

/-- The kind of a tag. -/
def ofTag? (t : String) : Option EntryKind := all.find? (·.tag == t)

/-- The list of kinds is complete. -/
theorem mem_all (k : EntryKind) : k ∈ all := by cases k <;> decide

/-- A kind is read back from its tag. -/
theorem ofTag?_tag (k : EntryKind) : ofTag? k.tag = some k := by cases k <;> decide

/-- Decodes a kind from its tag. -/
def decoder : Json.Decoder EntryKind := .constant (all.map fun k => (k.tag, k))

end EntryKind

end ApiPages
