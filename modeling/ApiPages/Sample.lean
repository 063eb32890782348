import ApiPages.Collection

/-!
# Sample entries

Small entries of most kinds, to try pages and links on.
-/

namespace ApiPages.Sample

/-- Shared fields with a description that names the kind. -/
def info (name : String) (kind : EntryKind) : EntryInfo :=
  .plain name kind ("Mock " ++ kind.tag ++ " " ++ name ++ ".")

/-- A class or interface with members. -/
def classEntry (name : String) (kind : EntryKind) (members : List Member) : ClassEntry :=
  ⟨info name kind, members, [], none, [], false, none, [], none, none⟩

/-- A class. -/
def classLike (name : String) (members : List Member) : Entry :=
  .classLike (classEntry name .classKind members)

/-- An interface. -/
def interface (name : String) (members : List Member) : Entry :=
  .interface (classEntry name .interface members)

/-- A function. -/
def function (name : String) (params : List Parameter) (returnType : Option String) : Entry :=
  .function ⟨info name .function, params, returnType, [], [], none⟩

/-- A constant. -/
def constant (name type : String) : Entry := .constant ⟨info name .constant, type⟩

/-- An enum whose items are numbered from zero. -/
def enumeration (name : String) (items : List String) : Entry :=
  .enumeration ⟨info name .enumeration, items.mapIdx fun i item =>
    .enumItem ⟨.plain item "", name ++ "." ++ item, some (toString i)⟩⟩

/-- A method that returns nothing. -/
def method (name : String) (params : List Parameter) : Member :=
  .method ⟨.plain name ("Mock method " ++ name ++ "."), params, some "void", []⟩

/-- A property. -/
def property (name type : String) : Member :=
  .property ⟨.plain name "", type, none, none, none⟩

/-- A parameter that is a string. -/
def stringParam (name : String) : Parameter := .plain name "string"

/-- A command with one flag. -/
def command (name : String) : Command :=
  { Command.plain name with
    usage := some (name ++ " [options]")
    shortDescription := "Mock command " ++ name ++ "."
    options := [{
      name := "verbose"
      type := "boolean"
      description := "Print more output."
      default := some (.bool false)
      allowedValues := []
      aliases := ["v"]
      positional := none
      deprecated := none }] }

/-- The collections of a tree of commands, read from its own text. -/
def commandTree (root : String) (subcommands : List String) : List Collection :=
  let tree := { command root with subcommands := subcommands.map command }
  match Collection.append [] "mock-cli.json" tree.toJson.text with
  | .ok collections => collections
  | .error _ => []

end ApiPages.Sample
