import ApiPages.Page.Plan
import ApiPages.Link.Percent

/-!
# Symbols and links to them

The index knows the page of every API symbol of a run; when two modules
export one name, the first in run order has it. A `Site` is where links
stand: a page of some depth, about one entry. A link is relative to its
page, so it starts with one `../` for every directory the page lies in.
-/

namespace ApiPages.Link

/-- The page of each symbol, and the plan they come from. -/
structure Index where
  targets : List (String × String)
  plan : Page.Plan
  deriving Repr

namespace Index

/-- The symbols of some entries with their pages, where they have
both. -/
def symbols : List Entry → List (Option String) → List (String × String)
  | e :: es, page :: pages =>
    match e.info?, page with
    | some _, some page => (e.name, page) :: symbols es pages
    | _, _ => symbols es pages
  | _, _ => []

/-- Keeps the first page of each name. -/
def keepFirst : List (String × String) → List (String × String)
  | [] => []
  | t :: more => t :: (keepFirst more).filter fun u => u.1 != t.1

/-- Plans the pages of a run and indexes its API entries. -/
def build (collections : List Collection) : Index :=
  let plan := Page.Plan.assign collections
  let found := (collections.zip plan.pages).flatMap fun (c, pages) => symbols c.entries pages
  ⟨keepFirst found, plan⟩

/-- The page of a symbol, relative to the output directory. -/
def page? (index : Index) (name : String) : Option String := index.targets.lookup name

/-- How many symbols there are. -/
def size (index : Index) : Nat := index.targets.length

/-- Whether there are no symbols. -/
def isEmpty (index : Index) : Bool := index.targets.isEmpty

end Index

/-- The anchor of a name on its page: its letters and numbers, ASCII ones
in small letters, with one hyphen for each run of other characters between
them. -/
def anchor (name : String) : String :=
  let slug := name.toList.map fun c => if Text.isAlphanumeric c then Text.asciiLower c else '-'
  String.ofList (Text.joinWith ['-'] ((Text.splitOn '-' slug).filter fun part => !part.isEmpty))

/-- The steps out of the directories that a page lies in. -/
def steps (depth : Nat) : String := String.join (List.replicate depth "../")

/-- Where links stand: on a page of a depth, about an entry. -/
structure Site where
  index : Index
  depth : Nat
  /-- The entry that the page is about, which types do not link to. -/
  current : String

/-- The link from a site to a page. -/
def Site.pathTo (site : Site) (page : String) : String := steps site.depth ++ encodePath page

/-- The link from a site to a symbol, or to a member on the symbol's
page. -/
def Site.href? (site : Site) (symbol : String) (member : Option String) : Option String :=
  (site.index.page? symbol).map fun page =>
    site.pathTo page ++ (match member with | some m => "#" ++ anchor m | none => "")

end ApiPages.Link
