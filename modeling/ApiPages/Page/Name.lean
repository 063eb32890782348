import ApiPages.Text.Lowercase
import ApiPages.Text.List

/-!
# File names of pages

An API entry's page is named after its module, its name and its kind, a
command's after itself, and a subcommand's lies in a directory named after
its root. Names are relative to the output directory and use `/`.
-/

namespace ApiPages.Page

/-- A text without the first occurrence of a character. -/
def dropFirst (c : Char) : List Char → List Char
  | [] => []
  | d :: ds => if d = c then ds else d :: dropFirst c ds

/-- A module's name in file names: without its first `@`, and with `_` for
each `/`. -/
def moduleSlug (moduleName : String) : String :=
  String.ofList ((dropFirst '@' moduleName.toList).map fun c => if c = '/' then '_' else c)

/-- The page of an API entry. -/
def apiName (moduleName name tag : String) : String :=
  moduleSlug moduleName ++ "_" ++ name ++ "_" ++ Text.lowercase tag ++ ".html"

/-- The page of a command, in its root's directory when it has a root. -/
def commandName (root : Option String) (name : String) : String :=
  match root with
  | some root => root ++ "/" ++ name ++ ".html"
  | none => name ++ ".html"

/-- How many directories lie between the output directory and a page. -/
def depth (page : String) : Nat := page.toList.count '/'

end ApiPages.Page
