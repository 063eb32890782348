import ApiPages.Entry.Info

/-!
# Parameters, type parameters and signatures

How something is called: its type parameters, its parameters and what it
returns. `declarationWith` writes the TypeScript of it; names go through
one function and types through another, so that a caller can escape the
former and link the latter.
-/

namespace ApiPages

/-- A parameter of a function or method. -/
structure Parameter where
  name : String
  /-- Description, in Markdown. -/
  description : String
  /-- The type as written. -/
  type : String
  isOptional : Bool
  isRest : Bool
  deriving DecidableEq, Repr

namespace Parameter

/-- The fields of a parameter. -/
def fields : Json.Decoder.Fields Parameter :=
  Parameter.mk <$> .required "name" .text <*> .withDefault "description" .text ""
    <*> .withDefault "type" .text "" <*> .withDefault "isOptional" .flag false
    <*> .withDefault "isRestParam" .flag false

/-- Decodes a parameter. -/
def decoder : Json.Decoder Parameter := .record "ParameterEntry" fields

/-- A parameter as a value. -/
def toJson (p : Parameter) : Json :=
  .object [("name", .string p.name), ("description", .string p.description),
    ("type", .string p.type), ("isOptional", .bool p.isOptional),
    ("isRestParam", .bool p.isRest)]

/-- The declaration of a parameter, such as `...args?: T[]`. -/
def declarationWith (p : Parameter) (text type : String → String) : String :=
  (if p.isRest then "..." else "") ++ text p.name ++ (if p.isOptional then "?" else "")
    ++ (if p.type.isEmpty then "" else ": " ++ type p.type)

/-- A parameter with a name and a type and nothing else. -/
def plain (name type : String) : Parameter := ⟨name, "", type, false, false⟩

end Parameter

/-- A type parameter, such as `T extends object = any`. -/
structure Generic where
  name : String
  constraint : Option String
  default : Option String
  deriving DecidableEq, Repr

namespace Generic

/-- The fields of a type parameter. -/
def fields : Json.Decoder.Fields Generic :=
  Generic.mk <$> .required "name" .text <*> .optional "constraint" .text
    <*> .optional "default" .text

/-- Decodes a type parameter. -/
def decoder : Json.Decoder Generic := .record "GenericEntry" fields

/-- A type parameter as a value. -/
def toJson (g : Generic) : Json :=
  .object [("name", .string g.name), ("constraint", .ofOption .string g.constraint),
    ("default", .ofOption .string g.default)]

/-- A type parameter as written. -/
def declaration (g : Generic) : String :=
  g.name ++ (match g.constraint with | some c => " extends " ++ c | none => "")
    ++ (match g.default with | some d => " = " ++ d | none => "")

/-- A list of type parameters in angle brackets; nothing when there are
none. -/
def declarations : List Generic → String
  | [] => ""
  | gs => "<" ++ ", ".intercalate (gs.map declaration) ++ ">"

end Generic

/-- One way to call something. -/
structure Signature where
  /-- Description, in Markdown. -/
  description : String
  tags : List DocTag
  params : List Parameter
  returnType : Option String
  generics : List Generic
  deriving DecidableEq, Repr

namespace Signature

/-- The fields of a signature. -/
def fields : Json.Decoder.Fields Signature :=
  Signature.mk <$> .withDefault "description" .text ""
    <*> .withDefault "jsdocTags" (.list DocTag.decoder) []
    <*> .withDefault "params" (.list Parameter.decoder) [] <*> .optional "returnType" .text
    <*> .withDefault "generics" (.list Generic.decoder) []

/-- Decodes a signature. -/
def decoder : Json.Decoder Signature := .record "FunctionSignature" fields

/-- A signature as a value. -/
def toJson (s : Signature) : Json :=
  .object [("description", .string s.description), ("jsdocTags", .array (s.tags.map DocTag.toJson)),
    ("params", .array (s.params.map Parameter.toJson)),
    ("returnType", .ofOption .string s.returnType),
    ("generics", .array (s.generics.map Generic.toJson))]

/-- The return type; `void` when there is none or an empty one. -/
def returnTypeOrVoid (s : Signature) : String :=
  match s.returnType with
  | some t => if t.isEmpty then "void" else t
  | none => "void"

/-- The TypeScript declaration of a signature under a name. -/
def declarationWith (s : Signature) (name : String) (text type : String → String) : String :=
  text name ++ type (Generic.declarations s.generics) ++ "("
    ++ ", ".intercalate (s.params.map fun p => p.declarationWith text type) ++ "): "
    ++ type s.returnTypeOrVoid

end Signature

end ApiPages
