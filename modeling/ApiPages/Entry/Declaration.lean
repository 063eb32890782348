import ApiPages.Entry.Member

/-!
# The shapes of API entries

Classes and interfaces share one shape; functions come flat or with
overloads; an initializer API is a function with functions of its own.
Each shape is the shared part and its own fields beside it.
-/

namespace ApiPages

/-- A class of any kind, or an interface. -/
structure ClassEntry where
  info : EntryInfo
  members : List Member
  generics : List Generic
  superclass : Option String
  implemented : List String
  isAbstract : Bool
  /-- The selector of a directive or component. -/
  selector : Option String
  exportAs : List String
  /-- The name of a pipe in templates. -/
  pipeName : Option String
  isStandalone : Option Bool
  deriving DecidableEq, Repr

namespace ClassEntry

/-- The fields of a class beside the shared ones. -/
def ownFields : Json.Decoder.Fields (EntryInfo → ClassEntry) :=
  (fun members generics superclass implemented isAbstract selector exportAs pipeName standalone
      info => ClassEntry.mk info members generics superclass implemented isAbstract selector
        exportAs pipeName standalone)
    <$> .withDefault "members" (.list Member.decoder) []
    <*> .withDefault "generics" (.list Generic.decoder) [] <*> .optional "extends" .text
    <*> .withDefault "implements" (.list .text) [] <*> .withDefault "isAbstract" .flag false
    <*> .optional "selector" .text <*> .withDefault "exportAs" (.list .text) []
    <*> .optional "pipeName" .text <*> .optional "isStandalone" .flag

/-- Decodes a class or interface. -/
def decoder : Json.Decoder ClassEntry := .withShared "ClassEntry" ownFields EntryInfo.fields

/-- A class as a value. -/
def toJson (c : ClassEntry) : Json :=
  .object (c.info.toFields ++ [("members", .array (c.members.map Member.toJson)),
    ("generics", .array (c.generics.map Generic.toJson)),
    ("extends", .ofOption .string c.superclass), ("implements", .ofStrings c.implemented),
    ("isAbstract", .bool c.isAbstract), ("selector", .ofOption .string c.selector),
    ("exportAs", .ofStrings c.exportAs), ("pipeName", .ofOption .string c.pipeName),
    ("isStandalone", .ofOption .bool c.isStandalone)])

/-- The line that declares the class under a keyword. -/
def declaration (c : ClassEntry) (keyword : String) : String :=
  (if c.isAbstract then "abstract " else "") ++ keyword ++ " " ++ c.info.name
    ++ Generic.declarations c.generics
    ++ (match c.superclass with | some s => " extends " ++ s | none => "")
    ++ (if c.implemented.isEmpty then "" else " implements " ++ ", ".intercalate c.implemented)

end ClassEntry

/-- A function, flat or with overloads. -/
structure FunctionEntry where
  info : EntryInfo
  params : List Parameter
  returnType : Option String
  generics : List Generic
  overloads : List Signature
  /-- The signature that implements the overloads. -/
  implementation : Option Signature
  deriving DecidableEq, Repr

namespace FunctionEntry

/-- The fields of a function beside the shared ones. -/
def ownFields : Json.Decoder.Fields (EntryInfo → FunctionEntry) :=
  (fun params returnType generics overloads implementation info =>
      FunctionEntry.mk info params returnType generics overloads implementation)
    <$> .withDefault "params" (.list Parameter.decoder) [] <*> .optional "returnType" .text
    <*> .withDefault "generics" (.list Generic.decoder) []
    <*> .withDefault "signatures" (.list Signature.decoder) []
    <*> .optional "implementation" Signature.decoder

/-- Decodes a function. -/
def decoder : Json.Decoder FunctionEntry :=
  .withShared "FunctionEntry" ownFields EntryInfo.fields

/-- A function as a value. -/
def toJson (f : FunctionEntry) : Json :=
  .object (f.info.toFields ++ [("params", .array (f.params.map Parameter.toJson)),
    ("returnType", .ofOption .string f.returnType),
    ("generics", .array (f.generics.map Generic.toJson)),
    ("signatures", .array (f.overloads.map Signature.toJson)),
    ("implementation", .ofOption Signature.toJson f.implementation)])

/-- The signatures to document: the overloads, or else the implementation,
or else the flat fields, which carry no description and no tags. -/
def signatures (f : FunctionEntry) : List Signature :=
  if f.overloads.isEmpty then
    match f.implementation with
    | some s => [s]
    | none => [⟨"", [], f.params, f.returnType, f.generics⟩]
  else f.overloads

end FunctionEntry

/-- A named set of signatures. -/
structure Callable where
  name : String
  overloads : List Signature
  implementation : Option Signature
  deriving DecidableEq, Repr

namespace Callable

/-- The fields of a callable. -/
def fields : Json.Decoder.Fields Callable :=
  Callable.mk <$> .withDefault "name" .text ""
    <*> .withDefault "signatures" (.list Signature.decoder) []
    <*> .optional "implementation" Signature.decoder

/-- Decodes a callable. -/
def decoder : Json.Decoder Callable := .record "CallableSet" fields

/-- A callable as a value. -/
def toJson (c : Callable) : Json :=
  .object [("name", .string c.name), ("signatures", .array (c.overloads.map Signature.toJson)),
    ("implementation", .ofOption Signature.toJson c.implementation)]

/-- The signatures to document: the overloads, or else the
implementation. -/
def signatures (c : Callable) : List Signature :=
  if c.overloads.isEmpty then c.implementation.toList else c.overloads

/-- The callable that says nothing. -/
def empty : Callable := ⟨"", [], none⟩

end Callable

/-- A function with functions of its own. -/
structure InitializerApiEntry where
  info : EntryInfo
  call : Callable
  subFunctions : List Callable
  deriving DecidableEq, Repr

namespace InitializerApiEntry

/-- The fields of an initializer API beside the shared ones. -/
def ownFields : Json.Decoder.Fields (EntryInfo → InitializerApiEntry) :=
  (fun call subFunctions info => InitializerApiEntry.mk info call subFunctions)
    <$> .withDefault "callFunction" Callable.decoder Callable.empty
    <*> .withDefault "subFunctions" (.list Callable.decoder) []

/-- Decodes an initializer API. -/
def decoder : Json.Decoder InitializerApiEntry :=
  .withShared "InitializerApiEntry" ownFields EntryInfo.fields

/-- An initializer API as a value. -/
def toJson (f : InitializerApiEntry) : Json :=
  .object (f.info.toFields ++ [("callFunction", f.call.toJson),
    ("subFunctions", .array (f.subFunctions.map Callable.toJson))])

end InitializerApiEntry

/-- An exported constant. -/
structure ConstantEntry where
  info : EntryInfo
  type : String
  deriving DecidableEq, Repr

namespace ConstantEntry

/-- The fields of a constant beside the shared ones. -/
def ownFields : Json.Decoder.Fields (EntryInfo → ConstantEntry) :=
  (fun type info => ConstantEntry.mk info type) <$> .withDefault "type" .text ""

/-- Decodes a constant. -/
def decoder : Json.Decoder ConstantEntry :=
  .withShared "ConstantEntry" ownFields EntryInfo.fields

/-- A constant as a value. -/
def toJson (c : ConstantEntry) : Json :=
  .object (c.info.toFields ++ [("type", .string c.type)])

/-- The line that declares the constant. -/
def declaration (c : ConstantEntry) : String :=
  if c.type.isEmpty then "const " ++ c.info.name
  else "const " ++ c.info.name ++ ": " ++ c.type

end ConstantEntry

/-- A type alias. -/
structure TypeAliasEntry where
  info : EntryInfo
  type : String
  generics : List Generic
  deriving DecidableEq, Repr

namespace TypeAliasEntry

/-- The fields of a type alias beside the shared ones. -/
def ownFields : Json.Decoder.Fields (EntryInfo → TypeAliasEntry) :=
  (fun type generics info => TypeAliasEntry.mk info type generics)
    <$> .withDefault "type" .text "" <*> .withDefault "generics" (.list Generic.decoder) []

/-- Decodes a type alias. -/
def decoder : Json.Decoder TypeAliasEntry :=
  .withShared "TypeAliasEntry" ownFields EntryInfo.fields

/-- A type alias as a value. -/
def toJson (a : TypeAliasEntry) : Json :=
  .object (a.info.toFields ++ [("type", .string a.type),
    ("generics", .array (a.generics.map Generic.toJson))])

/-- The left-hand side of the alias. -/
def head (a : TypeAliasEntry) : String :=
  "type " ++ a.info.name ++ Generic.declarations a.generics

end TypeAliasEntry

/-- An enum. -/
structure EnumEntry where
  info : EntryInfo
  members : List Member
  deriving DecidableEq, Repr

namespace EnumEntry

/-- The fields of an enum beside the shared ones. -/
def ownFields : Json.Decoder.Fields (EntryInfo → EnumEntry) :=
  (fun members info => EnumEntry.mk info members)
    <$> .withDefault "members" (.list Member.decoder) []

/-- Decodes an enum. -/
def decoder : Json.Decoder EnumEntry := .withShared "EnumEntry" ownFields EntryInfo.fields

/-- An enum as a value. -/
def toJson (e : EnumEntry) : Json :=
  .object (e.info.toFields ++ [("members", .array (e.members.map Member.toJson))])

end EnumEntry

/-- What a decorator is put on. -/
inductive Placement where
  | onClass
  | onMember
  | onParameter
  deriving DecidableEq, Repr

namespace Placement

/-- The tag of a placement in documents. -/
def tag : Placement → String
  | onClass => "class"
  | onMember => "member"
  | onParameter => "parameter"

/-- The label of a placement on pages. -/
def label (p : Placement) : String := p.tag ++ " decorator"

/-- Decodes a placement from its tag. -/
def decoder : Json.Decoder Placement :=
  .constant ([onClass, onMember, onParameter].map fun p => (p.tag, p))

end Placement

/-- A decorator, documented through the options it takes. -/
structure DecoratorEntry where
  info : EntryInfo
  placement : Placement
  members : List Member
  deriving DecidableEq, Repr

namespace DecoratorEntry

/-- The fields of a decorator beside the shared ones. -/
def ownFields : Json.Decoder.Fields (EntryInfo → DecoratorEntry) :=
  (fun placement members info => DecoratorEntry.mk info placement members)
    <$> .withDefault "decoratorType" Placement.decoder .onClass
    <*> .withDefault "members" (.list Member.decoder) []

/-- Decodes a decorator. -/
def decoder : Json.Decoder DecoratorEntry :=
  .withShared "DecoratorEntry" ownFields EntryInfo.fields

/-- A decorator as a value. -/
def toJson (d : DecoratorEntry) : Json :=
  .object (d.info.toFields ++ [("decoratorType", .string d.placement.tag),
    ("members", .array (d.members.map Member.toJson))])

end DecoratorEntry

end ApiPages
