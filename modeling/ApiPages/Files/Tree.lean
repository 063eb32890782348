import ApiPages.Files.Path
import ApiPages.Files.Fault

/-!
# File trees

A file system as a value: what each place holds, where a place is the list
of names that lead to it from the root. A path is looked up the way a
system does it, name by name from the root or the working directory, and
the first step that fails gives the fault.

Of a file's bytes only the text matters, so a file holds a text, or none
when its bytes are no text.
-/

namespace ApiPages.Files

/-- What a place holds. -/
inductive Node where
  | directory
  /-- A file with its text; `none` when its bytes are no text. -/
  | file (text : Option String)
  deriving DecidableEq, Repr

/-- The names that lead to a place. -/
abbrev Place := List String

/-- A file system with a working directory. -/
structure Tree where
  /-- What the places hold; the root is no part of it. -/
  nodes : List (Place × Node)
  /-- The working directory. -/
  current : Place
  deriving DecidableEq, Repr

/-- Where an operation acts. -/
inductive Target where
  /-- A directory that has no name there: the root, or one reached by
  dots. -/
  | unnamed (place : Place)
  /-- A name in a directory, and whether slashes follow it. -/
  | named (directory : Place) (name : String) (slash : Bool)
  deriving DecidableEq, Repr

namespace Tree

/-- What a place holds, if anything. -/
def node? (t : Tree) (place : Place) : Option Node :=
  if place.isEmpty then some .directory else t.nodes.lookup place

/-- The nodes with one of them set. -/
def setNode (place : Place) (node : Node) : List (Place × Node) → List (Place × Node)
  | [] => [(place, node)]
  | (p, n) :: more =>
    if p = place then (place, node) :: more else (p, n) :: setNode place node more

/-- Puts a node at a place. -/
def put (t : Tree) (place : Place) (node : Node) : Tree :=
  { t with nodes := setNode place node t.nodes }

/-- The most bytes that a name may have. -/
def nameLimit : Nat := 255

/-- The most bytes that a path may have. -/
def pathLimit : Nat := 4095

/-- A name that is not too long. -/
def checkName (name : String) : Except Fault Unit :=
  if name.utf8ByteSize > nameLimit then .error .nameTooLong else .ok ()

/-- Walks from a directory, segment by segment; each has to lead to a
directory. -/
def walk (t : Tree) (place : Place) : List String → Except Fault Place
  | [] => .ok place
  | seg :: more =>
    if isIdle seg then t.walk place more
    else if seg == ".." then t.walk place.dropLast more
    else
      match checkName seg with
      | .error e => .error e
      | .ok () =>
        match t.node? (place ++ [seg]) with
        | none => .error .notFound
        | some (.file _) => .error .notDirectory
        | some .directory => t.walk (place ++ [seg]) more

/-- Where an operation on a path acts. -/
def target (t : Tree) (path : String) : Except Fault Target :=
  if path.toList.contains '\x00' then .error .nulInPath
  else if path.isEmpty then .error .notFound
  else if path.utf8ByteSize > pathLimit then .error .nameTooLong
  else
    let start := if isAbsolute path then [] else t.current
    let backward := (segments path).reverse
    match backward.dropWhile (· == "") with
    | [] => .ok (.unnamed start)
    | last :: before =>
      match t.walk start before.reverse with
      | .error e => .error e
      | .ok directory =>
        if last == "." then .ok (.unnamed directory)
        else if last == ".." then .ok (.unnamed directory.dropLast)
        else .ok (.named directory last (backward.head? == some ""))

/-- Whether a path leads to a directory. -/
def isDirectory (t : Tree) (path : String) : Bool :=
  match t.target path with
  | .ok (.unnamed _) => true
  | .ok (.named directory name _) => t.node? (directory ++ [name]) == some .directory
  | .error _ => false

/-- The text of a file. -/
def read (t : Tree) (path : String) : Except Fault String := do
  match ← t.target path with
  | .unnamed _ => .error .isDirectory
  | .named directory name slash =>
    checkName name
    match t.node? (directory ++ [name]) with
    | none => .error .notFound
    | some .directory => .error .isDirectory
    | some (.file text) =>
      if slash then .error .notDirectory
      else match text with
        | some text => .ok text
        | none => .error .notText

/-- Makes one directory; nothing may be there yet. -/
def makeDirectory (t : Tree) (path : String) : Except Fault Tree := do
  match ← t.target path with
  | .unnamed _ => .error .alreadyExists
  | .named directory name _ =>
    checkName name
    match t.node? (directory ++ [name]) with
    | some _ => .error .alreadyExists
    | none => .ok (t.put (directory ++ [name]) .directory)

/-- Writes a file, in place of the one that may be there. -/
def write (t : Tree) (path text : String) : Except Fault Tree := do
  match ← t.target path with
  | .unnamed _ => .error .isDirectory
  | .named directory name slash =>
    if slash then .error .isDirectory
    else
      checkName name
      match t.node? (directory ++ [name]) with
      | some .directory => .error .isDirectory
      | _ => .ok (t.put (directory ++ [name]) (.file (some text)))

end Tree

end ApiPages.Files
