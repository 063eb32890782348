import ApiPages.Json.Decoder
import ApiPages.Text.Blank

/-!
# Doc tags and deprecation

A doc comment ends in tags such as `@see` or `@deprecated`, each a name and
a comment. An entry, member or option may also carry an explicit
deprecation marker. This module answers what the two say together: whether
the thing is deprecated and with which message, its usage notes, and its
status badges.
-/

namespace ApiPages

/-- A doc tag: the name without `@`, and the comment as written. -/
structure DocTag where
  name : String
  comment : String
  deriving DecidableEq, Repr

namespace DocTag

/-- The fields of a tag. -/
def fields : Json.Decoder.Fields DocTag :=
  DocTag.mk <$> .required "name" .text <*> .withDefault "comment" .text ""

/-- Decodes a tag. -/
def decoder : Json.Decoder DocTag := .record "JsDocTag" fields

/-- A tag as a value. -/
def toJson (t : DocTag) : Json :=
  .object [("name", .string t.name), ("comment", .string t.comment)]

/-- The first tag of a name. -/
def find? (tags : List DocTag) (name : String) : Option DocTag :=
  tags.find? (·.name == name)

/-- All tags of a name, in order. -/
def named (tags : List DocTag) (name : String) : List DocTag :=
  tags.filter (·.name == name)

/-- The badges that tags give: a developer preview comes first. -/
def badges (tags : List DocTag) : List String :=
  (if (find? tags "developerPreview").isSome then ["Developer Preview"] else [])
    ++ (if (find? tags "experimental").isSome then ["Experimental"] else [])

/-- Usage notes: the field when it is not blank, else the first
`@usageNotes` tag when that is not blank. -/
def usageNotes (field : Option String) (tags : List DocTag) : Option String :=
  let written (s : String) : Bool := !Text.isBlankText s
  ((field.filter written).or ((find? tags "usageNotes").map DocTag.comment)).filter written

end DocTag

/-- An explicit deprecation marker. -/
inductive Deprecation where
  /-- Deprecated or not, without a word. -/
  | flag (on : Bool)
  /-- Deprecated, and what to do about it. -/
  | message (text : String)
  deriving DecidableEq, Repr

namespace Deprecation

/-- Decodes a marker: a boolean or a string. -/
def decoder : Json.Decoder Deprecation := fun _ v =>
  match v with
  | .bool b => .ok (.flag b)
  | .string s => .ok (.message s)
  | _ => .error (.noVariant "Deprecation")

/-- A marker as a value. -/
def toJson : Deprecation → Json
  | flag b => .bool b
  | message s => .string s

/-- Whether the marker deprecates. -/
def isOn : Deprecation → Bool
  | flag b => b
  | message _ => true

/-- The marker's message, trimmed, when there is one. -/
def message? : Deprecation → Option String
  | flag _ => none
  | message s => if Text.isBlankText s then none else some (Text.trim s)

/-- What a marker and the tags beside it say. -/
structure State where
  isDeprecated : Bool
  message : Option String
  deriving DecidableEq, Repr

/-- A thing is deprecated by its marker or by a `@deprecated` tag; the
message is the marker's, or else the tag's when that is not blank. -/
def resolve (field : Option Deprecation) (tags : List DocTag) : State :=
  let tag := DocTag.find? tags "deprecated"
  if field.any isOn || tag.isSome then
    let ofTag := (tag.map fun t => Text.trim t.comment).filter fun s => !s.isEmpty
    ⟨true, (field.bind message?).or ofTag⟩
  else ⟨false, none⟩

end Deprecation

/-- A value that may be absent, which is written as `null`. -/
def Json.ofOption (f : α → Json) : Option α → Json
  | none => .null
  | some a => f a

/-- A list of strings as a value. -/
def Json.ofStrings (texts : List String) : Json := .array (texts.map .string)

end ApiPages
