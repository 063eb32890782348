/-!
# Characters that mean something to HTML

Three places of a page escape text, and each escapes its own characters:
text between tags (`escapeText`), Markdown's text (`markdownChar`), and
the values that templates insert (`escapeValue`).
-/

namespace ApiPages.Text

/-- Each character through a table of replacements. -/
def replaceChars (f : Char → List Char) (s : String) : String :=
  String.ofList (s.toList.flatMap f)

/-- A character of text between tags. -/
def textChar (c : Char) : List Char :=
  if c == '&' then "&amp;".toList
  else if c == '<' then "&lt;".toList
  else if c == '>' then "&gt;".toList
  else [c]

/-- Text between tags. -/
def escapeText (s : String) : String := replaceChars textChar s

/-- A character of Markdown's text: as between tags, and the double
quote. -/
def markdownChar (c : Char) : List Char :=
  if c == '"' then "&quot;".toList else textChar c

/-- A character of a value in a template: as in Markdown's text, and the
characters that may end an attribute without double quotes. -/
def valueChar (c : Char) : List Char :=
  if c == '\'' then "&#x27;".toList
  else if c == '\x60' then "&#x60;".toList
  else if c == '=' then "&#x3D;".toList
  else markdownChar c

/-- A value in a template. -/
def escapeValue (s : String) : String := replaceChars valueChar s

end ApiPages.Text
