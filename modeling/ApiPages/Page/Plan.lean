import ApiPages.Collection
import ApiPages.Page.Name

/-!
# The plan of a run — which page every entry gets

Pages are given out before anything is rendered, in run order, so that
links and written files agree. No two pages differ in case alone: the first
entry to ask for a name gets it, and a later one gets the name with the
least free number before its extension. Unknown and malformed entries get
no page.
-/

namespace ApiPages.Page

/-- A name cut at its last dot: what stands before it, and the dot with
what follows. -/
def cutExtension (name : List Char) : List Char × List Char :=
  let ending := name.reverse.takeWhile (· != '.')
  match name.reverse.dropWhile (· != '.') with
  | [] => (name, [])
  | _ :: stem => (stem.reverse, '.' :: ending.reverse)

/-- A name with a number before its extension. -/
def numbered (name : String) (k : Nat) : String :=
  let (stem, extension) := cutExtension name.toList
  String.ofList stem ++ "-" ++ toString k ++ String.ofList extension

/-- The first of the numbers from `k` on whose name is free; looked for as
often as `fuel` says. -/
def firstFree (claimed : List String) (name : String) (k : Nat) : Nat → String
  | 0 => numbered name k
  | fuel + 1 =>
    let candidate := numbered name k
    if claimed.contains (Text.lowercase candidate) then firstFree claimed name (k + 1) fuel
    else candidate

/-- The name that a claim of `name` gives, when the names in `claimed`, in
small letters, are taken. One of `claimed.length + 1` numbers is free. -/
def claim (claimed : List String) (name : String) : String :=
  if claimed.contains (Text.lowercase name) then
    firstFree claimed name 1 (claimed.length + 1)
  else name

/-- The name that an entry asks for. -/
def requestedName (moduleName : String) (e : Entry) (collections : List Collection) : String :=
  match e.command? with
  | some c =>
    commandName ((c.parent.bind (Collection.rootCommand? collections)).map Command.name) c.name
  | none => apiName moduleName e.name e.tag

/-- Pages for some requests in order, each of which may ask for none;
answers them with the names claimed. -/
def assignEach (claimed : List String) : List (Option String) → List (Option String) × List String
  | [] => ([], claimed)
  | none :: more =>
    let (pages, claimed) := assignEach claimed more
    (none :: pages, claimed)
  | some name :: more =>
    let page := claim claimed name
    let (pages, claimed) := assignEach (Text.lowercase page :: claimed) more
    (some page :: pages, claimed)

/-- The requests of a collection's entries. -/
def requests (collections : List Collection) (c : Collection) : List (Option String) :=
  c.entries.map fun e =>
    if e.isRenderable then some (requestedName c.moduleName e collections) else none

/-- Pages for lists of requests, collection by collection. -/
def assignAll (claimed : List String) : List (List (Option String)) → List (List (Option String))
  | [] => []
  | wanted :: more =>
    let (pages, claimed) := assignEach claimed wanted
    pages :: assignAll claimed more

/-- The page of every entry of a run, by collection and entry. -/
structure Plan where
  pages : List (List (Option String))
  deriving DecidableEq, Repr

namespace Plan

/-- Gives every entry that can have a page its own. -/
def assign (collections : List Collection) : Plan :=
  ⟨assignAll [] (collections.map (requests collections))⟩

/-- The page of the entry of a number in the collection of a number. -/
def page? (plan : Plan) (collection entry : Nat) : Option String :=
  ((plan.pages[collection]?).bind (·[entry]?)).join

end Plan

end ApiPages.Page
