import ApiPages.Link.Index
import ApiPages.Text.Markup

/-!
# Links in types

A type as written, with a link around every identifier that names a known
symbol other than the page's own, and everything else escaped.
-/

namespace ApiPages.Link

/-- Whether an identifier may start with the character. -/
def isIdentifierStart (c : Char) : Bool := Text.isAsciiLetter c || c == '_' || c == '$'

/-- Whether an identifier may go on with the character. -/
def isIdentifierPart (c : Char) : Bool := isIdentifierStart c || c.isDigit

/-- An identifier, in a link when it names a symbol other than the page's
own. -/
def linkIdentifier (site : Site) (name : String) : String :=
  match if name == site.current then none else site.href? name none with
  | some href => "<a href=\"" ++ href ++ "\">" ++ name ++ "</a>"
  | none => name

/-- The type as HTML, identifier by identifier. -/
def linkifyChars (site : Site) : List Char → List Char
  | [] => []
  | c :: cs =>
    if isIdentifierStart c then
      (linkIdentifier site (String.ofList (c :: cs.takeWhile isIdentifierPart))).toList
        ++ linkifyChars site (cs.dropWhile isIdentifierPart)
    else Text.textChar c ++ linkifyChars site cs
termination_by cs => cs.length
decreasing_by
  · have := (List.dropWhile_suffix (p := isIdentifierPart) (l := cs)).length_le
    simp; omega
  · simp

/-- A type as HTML. -/
def linkify (site : Site) (type : String) : String :=
  String.ofList (linkifyChars site type.toList)

end ApiPages.Link
