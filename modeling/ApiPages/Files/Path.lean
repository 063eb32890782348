import ApiPages.Text.List

/-!
# Paths as text

A path is text with `/` between its segments. Empty segments and `.` say
nothing, except for a `.` that stands first; all other segments name
something, and the path without its last name is its parent. Nothing here
looks at a file system.
-/

namespace ApiPages.Files

/-- The segments of a path, as its slashes separate them. -/
def segments (path : String) : List String :=
  (Text.splitOn '/' path.toList).map String.ofList

/-- Segments as a path. -/
def ofSegments (segs : List String) : String := "/".intercalate segs

/-- Whether a path starts at the root. -/
def isAbsolute (path : String) : Bool := path.toList.head? == some '/'

/-- A path below another one; an absolute path stands for itself. -/
def join (base path : String) : String :=
  if isAbsolute path || base.isEmpty then path
  else if base.toList.getLast? == some '/' then base ++ path
  else base ++ "/" ++ path

/-- Whether a segment says nothing. -/
def isIdle (seg : String) : Bool := seg == "" || seg == "."

/-- From a path's segments in reverse, those of the path itself and of what
lies around it, from the inside out, without the idle ones at their
ends. -/
def outward : List String → List (List String)
  | [] => [[]]
  | ["."] => [["."], []]
  | seg :: more => if isIdle seg then outward more else (seg :: more) :: outward more

/-- The parents of a path, from the inside out: the first is the path
without its last name. The root and the empty path have none. -/
def parents (path : String) : List String :=
  ((outward (segments path).reverse).drop 1).map fun segs =>
    if segs.isEmpty then (if isAbsolute path then "/" else "") else ofSegments segs.reverse

/-- The names of a path: the root is named by an empty text, and a leading
`.` counts as a name. -/
def names (path : String) : List String :=
  match segments path with
  | [] => []
  | first :: more =>
    let rest := more.filter fun seg => !isIdle seg
    if isAbsolute path || first == "." || !isIdle first then first :: rest else rest

/-- Some segments without the names they start with, and without what is
idle among those. -/
def dropNames : List String → List String → List String
  | name :: names, seg :: segs =>
    if seg == name then dropNames names segs else dropNames (name :: names) segs
  | _, segs => segs

/-- The path without the directory it starts with, when it starts with
that directory; the idle segments around the rest are dropped. -/
def relativeTo? (base path : String) : Option String :=
  if isAbsolute base == isAbsolute path && (names base).isPrefixOf (names path) then
    let rest := dropNames (names base) (segments path)
    some (ofSegments (Text.dropEndWhile isIdle
      (if (names base).isEmpty then rest else rest.dropWhile isIdle)))
  else none

/-- The path relative to a directory, and the path itself when it lies
elsewhere, with `/` for every backslash. -/
def relative (base path : String) : String :=
  String.ofList (((relativeTo? base path).getD path).toList.map fun c =>
    if c == '\\' then '/' else c)

end ApiPages.Files
