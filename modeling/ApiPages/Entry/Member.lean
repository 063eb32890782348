import ApiPages.Entry.Signature

/-!
# Members

The members of classes, interfaces, enums and decorators. They are told
apart by the tag `memberType`; overloads of a method are several methods
of one name.
-/

namespace ApiPages

/-- What all members share. -/
structure MemberInfo where
  name : String
  /-- Modifiers such as `static` or `readonly`. -/
  modifiers : List String
  /-- Description, in Markdown. -/
  description : String
  tags : List DocTag
  deprecated : Option Deprecation
  deriving DecidableEq, Repr

namespace MemberInfo

/-- The shared fields. -/
def fields : Json.Decoder.Fields MemberInfo :=
  MemberInfo.mk <$> .required "name" .text <*> .withDefault "memberTags" (.list .text) []
    <*> .withDefault "description" .text ""
    <*> .withDefault "jsdocTags" (.list DocTag.decoder) []
    <*> .optional "deprecated" Deprecation.decoder

/-- Decodes the shared part standing alone. -/
def decoder : Json.Decoder MemberInfo := .record "MemberInfo" fields

/-- The shared fields as an object's fields. -/
def toFields (i : MemberInfo) : List (String × Json) :=
  [("name", .string i.name), ("memberTags", .ofStrings i.modifiers),
    ("description", .string i.description), ("jsdocTags", .array (i.tags.map DocTag.toJson)),
    ("deprecated", .ofOption Deprecation.toJson i.deprecated)]

/-- Whether the member carries a modifier. -/
def hasModifier (i : MemberInfo) (modifier : String) : Bool := i.modifiers.contains modifier

/-- The shared part of a member with a name and a description and nothing
else. -/
def plain (name description : String) : MemberInfo := ⟨name, [], description, [], none⟩

end MemberInfo

/-- A property, or one of its accessors. -/
structure Property where
  info : MemberInfo
  type : String
  /-- The public name, when the property is an input under another name. -/
  inputAlias : Option String
  /-- The public name, when the property is an output under another name. -/
  outputAlias : Option String
  isRequiredInput : Option Bool
  deriving DecidableEq, Repr

namespace Property

/-- The fields of a property beside the shared ones. -/
def ownFields : Json.Decoder.Fields (MemberInfo → Property) :=
  (fun type input output required info => Property.mk info type input output required)
    <$> .withDefault "type" .text "" <*> .optional "inputAlias" .text
    <*> .optional "outputAlias" .text <*> .optional "isRequiredInput" .flag

/-- Decodes a property. -/
def decoder : Json.Decoder Property :=
  .withShared "PropertyMember" ownFields MemberInfo.fields

/-- A property as an object's fields. -/
def toFields (p : Property) : List (String × Json) :=
  p.info.toFields ++ [("type", .string p.type), ("inputAlias", .ofOption .string p.inputAlias),
    ("outputAlias", .ofOption .string p.outputAlias),
    ("isRequiredInput", .ofOption .bool p.isRequiredInput)]

/-- The public name of a property, when it is not its own: that of the
input before that of the output. -/
def publicName? (p : Property) : Option String :=
  (p.inputAlias.or p.outputAlias).filter (· != p.info.name)

end Property

/-- A method. -/
structure Method where
  info : MemberInfo
  params : List Parameter
  returnType : Option String
  generics : List Generic
  deriving DecidableEq, Repr

namespace Method

/-- The fields of a method beside the shared ones. -/
def ownFields : Json.Decoder.Fields (MemberInfo → Method) :=
  (fun params returnType generics info => Method.mk info params returnType generics)
    <$> .withDefault "params" (.list Parameter.decoder) [] <*> .optional "returnType" .text
    <*> .withDefault "generics" (.list Generic.decoder) []

/-- Decodes a method. -/
def decoder : Json.Decoder Method := .withShared "MethodMember" ownFields MemberInfo.fields

/-- A method as an object's fields. -/
def toFields (m : Method) : List (String × Json) :=
  m.info.toFields ++ [("params", .array (m.params.map Parameter.toJson)),
    ("returnType", .ofOption .string m.returnType),
    ("generics", .array (m.generics.map Generic.toJson))]

/-- The method as a signature, with its description and tags. -/
def signature (m : Method) : Signature :=
  ⟨m.info.description, m.info.tags, m.params, m.returnType, m.generics⟩

end Method

/-- An item of an enum. -/
structure EnumItem where
  info : MemberInfo
  type : String
  /-- The value as written. -/
  value : Option String
  deriving DecidableEq, Repr

namespace EnumItem

/-- The fields of an enum item beside the shared ones. -/
def ownFields : Json.Decoder.Fields (MemberInfo → EnumItem) :=
  (fun type value info => EnumItem.mk info type value)
    <$> .withDefault "type" .text "" <*> .optional "value" .text

/-- Decodes an enum item. -/
def decoder : Json.Decoder EnumItem :=
  .withShared "EnumMemberEntry" ownFields MemberInfo.fields

/-- An enum item as an object's fields. -/
def toFields (e : EnumItem) : List (String × Json) :=
  e.info.toFields ++ [("type", .string e.type), ("value", .ofOption .string e.value)]

end EnumItem

/-- A member of a class, interface, enum or decorator. -/
inductive Member where
  | property (p : Property)
  | method (m : Method)
  | getter (p : Property)
  | setter (p : Property)
  | enumItem (e : EnumItem)
  deriving DecidableEq, Repr

namespace Member

/-- Decodes a member by its tag. -/
def decoder : Json.Decoder Member :=
  .tagged "MemberEntry" "memberType" [
    ("property", fun r v => (Property.decoder r v).map property),
    ("method", fun r v => (Method.decoder r v).map method),
    ("getter", fun r v => (Property.decoder r v).map getter),
    ("setter", fun r v => (Property.decoder r v).map setter),
    ("enum_item", fun r v => (EnumItem.decoder r v).map enumItem)]

/-- The shared part. -/
def info : Member → MemberInfo
  | property p | getter p | setter p => p.info
  | method m => m.info
  | enumItem e => e.info

/-- The member's name. -/
def name (m : Member) : String := m.info.name

/-- The member's tag. -/
def typeTag : Member → String
  | property _ => "property"
  | method _ => "method"
  | getter _ => "getter"
  | setter _ => "setter"
  | enumItem _ => "enum_item"

/-- A member as a value, its tag first. -/
def toJson (m : Member) : Json :=
  .object (("memberType", .string m.typeTag) :: match m with
    | property p | getter p | setter p => p.toFields
    | method x => x.toFields
    | enumItem e => e.toFields)

end Member

end ApiPages
