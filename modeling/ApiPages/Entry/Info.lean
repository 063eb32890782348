import ApiPages.Entry.Tag
import ApiPages.Entry.Kind

/-!
# What every API entry has

Name, kind, description, tags, and where the declaration stands. The part
is spread over the entry's own object, beside the fields of its kind.
-/

namespace ApiPages

/-- Where a declaration stands: a file and its first and last line. -/
structure SourceLocation where
  filePath : String
  startLine : Nat
  endLine : Nat
  deriving DecidableEq, Repr

namespace SourceLocation

/-- The fields of a location. -/
def fields : Json.Decoder.Fields SourceLocation :=
  SourceLocation.mk <$> .required "filePath" .text <*> .withDefault "startLine" .size 0
    <*> .withDefault "endLine" .size 0

/-- Decodes a location. -/
def decoder : Json.Decoder SourceLocation := .record "SourceLocation" fields

/-- A location as a value. -/
def toJson (s : SourceLocation) : Json :=
  .object [("filePath", .string s.filePath), ("startLine", .number (.whole s.startLine)),
    ("endLine", .number (.whole s.endLine))]

end SourceLocation

/-- The part that all API entries share. -/
structure EntryInfo where
  name : String
  kind : EntryKind
  /-- Description, in Markdown. -/
  description : String
  /-- The doc comment as it was written. -/
  rawComment : Option String
  tags : List DocTag
  source : Option SourceLocation
  /-- Usage notes, in Markdown. -/
  usageNotes : Option String
  deprecated : Option Deprecation
  deriving DecidableEq, Repr

namespace EntryInfo

/-- The shared fields. -/
def fields : Json.Decoder.Fields EntryInfo :=
  EntryInfo.mk <$> .required "name" .text <*> .required "entryType" EntryKind.decoder
    <*> .withDefault "description" .text "" <*> .optional "rawComment" .text
    <*> .withDefault "jsdocTags" (.list DocTag.decoder) []
    <*> .optional "source" SourceLocation.decoder <*> .optional "usageNotes" .text
    <*> .optional "deprecated" Deprecation.decoder

/-- Decodes the shared part standing alone. -/
def decoder : Json.Decoder EntryInfo := .record "EntryInfo" fields

/-- The shared fields as an object's fields. -/
def toFields (i : EntryInfo) : List (String × Json) :=
  [("name", .string i.name), ("entryType", .string i.kind.tag),
    ("description", .string i.description), ("rawComment", .ofOption .string i.rawComment),
    ("jsdocTags", .array (i.tags.map DocTag.toJson)),
    ("source", .ofOption SourceLocation.toJson i.source),
    ("usageNotes", .ofOption .string i.usageNotes),
    ("deprecated", .ofOption Deprecation.toJson i.deprecated)]

/-- The shared part of a thing with a name and a description and nothing
else. -/
def plain (name : String) (kind : EntryKind) (description : String) : EntryInfo :=
  ⟨name, kind, description, none, [], none, none, none⟩

end EntryInfo

end ApiPages
