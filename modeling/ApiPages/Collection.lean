import ApiPages.Entry.Basic
import ApiPages.Json.Reader
import ApiPages.Failure

/-!
# Collections

A document holds a module's entries, a tree of commands, or one entry on
its own. Reading it appends to the collections of the run: a module gives
one collection, a tree gives one for its root and one for each subcommand
after it, and a lone entry gives one of its own.

A subcommand points at its root by the number of the root's collection,
which is the number of collections there were before; so reading appends
and never answers a list of its own. When it fails the list is as before.
-/

namespace ApiPages

/-- The entries of one module, or of one page of commands. -/
structure Collection where
  moduleName : String
  entries : List Entry
  deriving Repr

/-- The module of entries that came without one. -/
def unknownModule : String := "unknown"

/-- What is wrong with a document that is JSON but no collection. -/
inductive CollectionFault where
  | notAnObject
  | entriesNotAList
  | noModuleName
  | badCommand (error : Json.DecodeError)
  | namelessCommand
  deriving DecidableEq, Repr

/-- The wording of a collection's fault. -/
def CollectionFault.message : CollectionFault → String
  | notAnObject => "expected a JSON object at the top level"
  | entriesNotAList => "`entries` must be an array"
  | noModuleName => "missing required string field `moduleName`"
  | badCommand e => "invalid CLI command: " ++ e.message
  | namelessCommand => "CLI command is missing its `name`"

namespace Collection

/-- A collection of one entry without module. -/
def single (e : Entry) : Collection := ⟨unknownModule, [e]⟩

/-- A module's collection from the fields of its document. -/
def ofModule (fields : List (String × Json)) (entries : Json) :
    Except CollectionFault Collection :=
  match entries with
  | .array items =>
    match (fields.lookup "moduleName").bind Json.asString? with
    | some name => .ok ⟨name, items.map Entry.ofJson⟩
    | none => .error .noModuleName
  | _ => .error .entriesNotAList

/-- The entry of a root's subcommand: nameless ones are malformed, counted
from one. -/
def subcommandEntry (root : String) (parent position : Nat) (c : Command) : Entry :=
  if Text.isBlankText c.name then
    .malformed "" "cli"
      ("subcommand #" ++ toString (position + 1) ++ " of `" ++ root ++ "` has no name")
  else .command { c with parent := some parent }

/-- The collections of a tree of commands whose root gets the number
`number`: the root, which keeps its named subcommands, and then all its
subcommands. -/
def ofTree (number : Nat) (root : Command) : List Collection :=
  let kept := root.subcommands.filter fun c => !Text.isBlankText c.name
  single (.command { root with subcommands := kept })
    :: root.subcommands.mapIdx fun i c => single (subcommandEntry root.name number i c)

/-- The collections of a document, when `number` collections came
before. -/
def ofDocument (number : Nat) (v : Json) : Except CollectionFault (List Collection) :=
  match v with
  | .object fields =>
    match fields.lookup "entries" with
    | some entries => (ofModule fields entries).map fun c => [c]
    | none =>
      if (fields.lookup "subcommands").isSome then
        match Command.decoder .direct v with
        | .error e => .error (.badCommand e)
        | .ok root =>
          if root.name.isEmpty then .error .namelessCommand else .ok (ofTree number root)
      else .ok [single (Entry.ofJson v)]
  | _ => .error .notAnObject

/-- The collections with those of one more document after them. -/
def append (collections : List Collection) (file content : String) :
    Except Failure (List Collection) :=
  match Json.read content with
  | .error fault => .error (.document file (fault.message content))
  | .ok v =>
    match ofDocument collections.length v with
    | .error fault => .error (.collection file fault.message)
    | .ok more => .ok (collections ++ more)

/-- The root command in the collection of a number. -/
def rootCommand? (collections : List Collection) (number : Nat) : Option Command := do
  let collection ← collections[number]?
  let entry ← collection.entries.head?
  entry.command?

end Collection

end ApiPages
