import ApiPages.Entry.Tag

/-!
# Command-line commands

A command has options and, when it is a root, subcommands. A document holds
the whole tree; when it is taken apart, each subcommand keeps the number of
the collection that holds its root (`parent`), which no document can set.

Decoding recurses on how deep the value nests: `decodeWithin d` reads
commands of at most `d` levels.
-/

namespace ApiPages

/-- An option, or a positional argument. -/
structure CommandOption where
  name : String
  type : String
  /-- Description, in Markdown. -/
  description : String
  default : Option Json
  allowedValues : List Json
  aliases : List String
  /-- The place of a positional argument. -/
  positional : Option Nat
  deprecated : Option Deprecation
  deriving Repr

namespace CommandOption

/-- The fields of an option. -/
def fields : Json.Decoder.Fields CommandOption :=
  CommandOption.mk <$> .required "name" .text <*> .withDefault "type" .text ""
    <*> .withDefault "description" .text "" <*> .optional "default" .any
    <*> .withDefault "enum" (.list .any) [] <*> .withDefault "aliases" (.list .text) []
    <*> .optional "positional" .position <*> .optional "deprecated" Deprecation.decoder

/-- Decodes an option. -/
def decoder : Json.Decoder CommandOption := .record "CliOption" fields

/-- An option as a value. -/
def toJson (o : CommandOption) : Json :=
  .object [("name", .string o.name), ("type", .string o.type),
    ("description", .string o.description), ("default", .ofOption id o.default),
    ("enum", .array o.allowedValues), ("aliases", .ofStrings o.aliases),
    ("positional", .ofOption (fun n => .number (.whole n)) o.positional),
    ("deprecated", .ofOption Deprecation.toJson o.deprecated)]

/-- Whether this is a positional argument. -/
def isPositional (o : CommandOption) : Bool := o.positional.isSome

end CommandOption

/-- A value the way it is typed on a command line. -/
def Json.display : Json → String
  | .string s => s
  | v => v.text

/-- A command. -/
structure Command where
  name : String
  /-- The usage line. -/
  usage : Option String
  shortDescription : String
  /-- Long description, in Markdown. -/
  longDescription : String
  aliases : List String
  deprecated : Option Deprecation
  options : List CommandOption
  subcommands : List Command
  /-- The collection that holds the root of this subcommand. -/
  parent : Option Nat
  deriving Repr

namespace Command

/-- The fields of a command, given how its subcommands decode. -/
def fields (nested : Json.Decoder Command) : Json.Decoder.Fields Command :=
  (fun name usage short long aliases deprecated options subcommands =>
      Command.mk name usage short long aliases deprecated options subcommands none)
    <$> .required "name" .text <*> .optional "command" .text
    <*> .withDefault "shortDescription" .text "" <*> .withDefault "longDescription" .text ""
    <*> .withDefault "aliases" (.list .text) [] <*> .optional "deprecated" Deprecation.decoder
    <*> .withDefault "options" (.list CommandOption.decoder) []
    <*> .withDefault "subcommands" (.list nested) []

/-- Decodes commands of at most the given number of levels. -/
def decodeWithin : Nat → Json.Decoder Command
  | 0 => fun _ v => .error (.wrongType v.found "struct CliCommandEntry")
  | d + 1 => .record "CliCommandEntry" (fields (decodeWithin d))

/-- Decodes a command. -/
def decoder : Json.Decoder Command := fun r v => decodeWithin v.depth r v

mutual

/-- A command as a value; its parent is no part of it. -/
def toJson : Command → Json
  | ⟨name, usage, short, long, aliases, deprecated, options, subcommands, _⟩ =>
    .object [("name", .string name), ("command", .ofOption .string usage),
      ("shortDescription", .string short), ("longDescription", .string long),
      ("aliases", .ofStrings aliases), ("deprecated", .ofOption Deprecation.toJson deprecated),
      ("options", .array (options.map CommandOption.toJson)),
      ("subcommands", .array (listToJson subcommands))]

/-- Commands as values. -/
def listToJson : List Command → List Json
  | [] => []
  | c :: more => c.toJson :: listToJson more

end

/-- Whether this is a subcommand taken out of a tree. -/
def isSubcommand (c : Command) : Bool := c.parent.isSome

/-- The description to show: the long one unless it is blank. -/
def description (c : Command) : String :=
  if Text.isBlankText c.longDescription then c.shortDescription else c.longDescription

/-- A command with a name and nothing else. -/
def plain (name : String) : Command := ⟨name, none, "", "", [], none, [], [], none⟩

end Command

end ApiPages
