import ApiPages.Entry.Declaration
import ApiPages.Entry.Command

/-!
# Entries

An entry is one documented thing. Decoding never fails: a value whose kind
is not known stays as it came (`unknown`), and one whose kind is known but
whose shape is not that kind's becomes `malformed` with the reason. Both
keep their name, so that a report can name them.
-/

namespace ApiPages

/-- A documented thing. -/
inductive Entry where
  /-- Classes of all kinds. -/
  | classLike (c : ClassEntry)
  | interface (c : ClassEntry)
  | function (f : FunctionEntry)
  | initializerApi (f : InitializerApiEntry)
  | constant (c : ConstantEntry)
  | typeAlias (a : TypeAliasEntry)
  | enumeration (e : EnumEntry)
  | decorator (d : DecoratorEntry)
  /-- Blocks and elements of templates: the shared part alone. -/
  | block (info : EntryInfo)
  | command (c : Command)
  /-- A kind that is not known. -/
  | unknown (name tag : String) (raw : Json)
  /-- A known kind in a shape that is not its own. -/
  | malformed (name tag reason : String)
  deriving Repr

namespace Entry

/-- The part that API entries share. -/
def info? : Entry → Option EntryInfo
  | classLike c | interface c => some c.info
  | function f => some f.info
  | initializerApi f => some f.info
  | constant c => some c.info
  | typeAlias a => some a.info
  | enumeration e => some e.info
  | decorator d => some d.info
  | block i => some i
  | command _ | unknown .. | malformed .. => none

/-- The name of a symbol or command. -/
def name : Entry → String
  | classLike c | interface c => c.info.name
  | function f => f.info.name
  | initializerApi f => f.info.name
  | constant c => c.info.name
  | typeAlias a => a.info.name
  | enumeration e => e.info.name
  | decorator d => d.info.name
  | block i => i.name
  | command c => c.name
  | unknown name .. => name
  | malformed name .. => name

/-- The tag of the entry's kind, as it came; `cli` for commands. -/
def tag : Entry → String
  | classLike c | interface c => c.info.kind.tag
  | function f => f.info.kind.tag
  | initializerApi f => f.info.kind.tag
  | constant c => c.info.kind.tag
  | typeAlias a => a.info.kind.tag
  | enumeration e => e.info.kind.tag
  | decorator d => d.info.kind.tag
  | block i => i.kind.tag
  | command _ => "cli"
  | unknown _ tag _ => tag
  | malformed _ tag _ => tag

/-- The command of a command entry. -/
def command? : Entry → Option Command
  | command c => some c
  | _ => none

/-- Whether this is a command. -/
def isCommand (e : Entry) : Bool := e.command?.isSome

/-- Whether the entry can have a page: it is neither unknown nor
malformed. -/
def isRenderable : Entry → Bool
  | unknown .. | malformed .. => false
  | _ => true

/-- The shared part and the name agree. -/
theorem name_of_info? {e : Entry} {i : EntryInfo} (h : e.info? = some i) : e.name = i.name := by
  cases e <;> simp_all [info?, name]

/-- Decodes an API entry of a known kind. -/
def decodeApi (kind : EntryKind) (v : Json) : Except Json.DecodeError Entry :=
  match kind with
  | .interface => (ClassEntry.decoder .direct v).map interface
  | .function => (FunctionEntry.decoder .direct v).map function
  | .initializerApi => (InitializerApiEntry.decoder .direct v).map initializerApi
  | .constant => (ConstantEntry.decoder .direct v).map constant
  | .typeAlias => (TypeAliasEntry.decoder .direct v).map typeAlias
  | .enumeration => (EnumEntry.decoder .direct v).map enumeration
  | .decorator => (DecoratorEntry.decoder .direct v).map decorator
  | .block | .element => (EntryInfo.decoder .direct v).map block
  | .classKind | .undecoratedClass | .component | .directive | .pipe | .ngModule =>
    (ClassEntry.decoder .direct v).map classLike

/-- Decodes a command entry of the given name. -/
def decodeCommand (name : String) (v : Json) : Entry :=
  match Command.decoder .direct v with
  | .ok c => if c.name.isEmpty then malformed name "cli" "command has no name" else command c
  | .error e => malformed name "cli" e.message

/-- Decodes one entry. -/
def ofJson (v : Json) : Entry :=
  let name := ((v.get? "name").bind Json.asString?).getD ""
  match v.get? "entryType" with
  | some (.string tag) =>
    match EntryKind.ofTag? tag with
    | none => unknown name tag v
    | some kind =>
      if name.isEmpty then malformed name tag "entry has no name"
      else
        match decodeApi kind v with
        | .ok e => e
        | .error e => malformed name tag e.message
  | some other => malformed name other.text "entryType must be a string"
  | none =>
    if (v.get? "command").isSome || (v.get? "subcommands").isSome then decodeCommand name v
    else unknown name "" v

end Entry

end ApiPages
