import ApiPages.Text.Markup
import ApiPages.Markdown.Document
import ApiPages.Markdown.Language

/-!
# Documents as HTML

Blocks are written as pieces; most start on a line of their own
(`Piece.freshLine`). Text is escaped, HTML of the text is left out, and a
link never leads to an address that could run code.
-/

namespace ApiPages.Markdown

/-- What writes the text of code in colours, from the language that a fence
names and the text. -/
structure Highlighter where
  write : (language literal : List Char) → List Char

/-- A piece of written HTML. -/
inductive Piece where
  | raw (chars : List Char)
  /-- The end of the line, unless nothing stands on it. -/
  | freshLine

namespace Html

/-- Pieces as one text; `atStart` tells whether they begin at the start of a
line. -/
def joinPieces (atStart : Bool) : List Piece → List Char
  | [] => []
  | .freshLine :: more => if atStart then joinPieces true more else '\n' :: joinPieces true more
  | .raw chars :: more =>
    let atStart := match chars.getLast? with
      | some c => c == '\n'
      | none => atStart
    chars ++ joinPieces atStart more

/-- A constant text. -/
def lit (s : String) : Piece := .raw s.toList

/-! ## Addresses -/

/-- Whether an address may hold the character as it is. -/
def isAddressChar (c : Char) : Bool :=
  Text.isAsciiAlphanumeric c || "-_.+!*(),%#@?=;:/$~".toList.contains c

/-- The two digits of a byte. -/
def hexByte (b : UInt8) : List Char :=
  let digit (n : Nat) : Char := ("0123456789ABCDEF".toList[n]?).getD '0'
  [digit (b.toNat / 16), digit (b.toNat % 16)]

/-- A character of an address. -/
def addressChar (c : Char) : List Char :=
  if isAddressChar c then [c]
  else if c == '&' then "&amp;".toList
  else if c == '\'' then "&#x27;".toList
  else (String.singleton c).toUTF8.toList.flatMap fun b => '%' :: hexByte b

/-- The schemes of addresses that could run code or reveal files. -/
def dangerousSchemes : List (List Char) :=
  ["javascript:".toList, "vbscript:".toList, "file:".toList, "data:".toList]

/-- The kinds of image that an address may hold itself. -/
def imageData : List (List Char) :=
  ["data:image/png".toList, "data:image/gif".toList, "data:image/jpeg".toList,
    "data:image/webp".toList]

/-- Whether no link may lead to an address. -/
def isDangerous (address : List Char) : Bool :=
  let starts (word : List Char) : Bool := (Scan.wordAnyCase? word address).isSome
  dangerousSchemes.any starts && !imageData.any starts

/-- An address within an attribute. -/
def address (chars : List Char) : List Char :=
  if isDangerous chars then [] else chars.flatMap addressChar

/-! ## Inline content -/

/-- Escaped text. -/
def escaped (chars : List Char) : List Char := chars.flatMap Text.markdownChar

/-- A title as an attribute, when there is one. -/
def titleAttribute (title : List Char) : List Char :=
  if title.isEmpty then [] else " title=\"".toList ++ escaped title ++ ['"']

/-- What stands for HTML of the text. -/
def omitted : String := "<!-- raw HTML omitted -->"

mutual

/-- Inline content without marks, as the description of an image. -/
def description : Inline → List Char
  | .text chars | .code chars | .html chars => escaped chars
  | .softBreak | .lineBreak => [' ']
  | .emphasis body | .strong body | .strikethrough body => descriptions body
  | .link _ _ body | .image _ _ body => descriptions body

/-- Pieces of inline content without marks. -/
def descriptions : List Inline → List Char
  | [] => []
  | piece :: more => description piece ++ descriptions more

end

mutual

/-- Inline content. -/
def inline : Inline → List Char
  | .text chars => escaped chars
  | .code chars => "<code>".toList ++ escaped chars ++ "</code>".toList
  | .html _ => omitted.toList
  | .softBreak => ['\n']
  | .lineBreak => "<br />\n".toList
  | .emphasis body => "<em>".toList ++ inlines body ++ "</em>".toList
  | .strong body => "<strong>".toList ++ inlines body ++ "</strong>".toList
  | .strikethrough body => "<del>".toList ++ inlines body ++ "</del>".toList
  | .link destination title body =>
    "<a href=\"".toList ++ address destination ++ ['"'] ++ titleAttribute title ++ ['>']
      ++ inlines body ++ "</a>".toList
  | .image destination title body =>
    "<img src=\"".toList ++ address destination ++ "\" alt=\"".toList ++ descriptions body
      ++ ['"'] ++ titleAttribute title ++ " />".toList

/-- Pieces of inline content. -/
def inlines : List Inline → List Char
  | [] => []
  | piece :: more => inline piece ++ inlines more

end

/-! ## Code -/

/-- The attribute for the language of code. -/
def languageClass (language : List Char) : List Char :=
  if language.isEmpty then [] else " class=\"language-".toList ++ escaped language ++ ['"']

/-- A block of code, with its text as a highlighter writes it when there is
one. Mathematics is never highlighted. -/
def code (highlighter : Option Highlighter) (info literal : List Char) : List Char :=
  let info :=
    if highlighter.isSome then (retarget standIns info).toOption.join.getD info else info
  let language := info.takeWhile fun c => !Text.isSpace c
  let ends := "</code></pre>\n".toList
  if info == "math".toList then
    "<pre><code class=\"language-math\" data-math-style=\"display\">".toList ++ escaped literal
      ++ ends
  else match highlighter with
    | some h =>
      "<pre class=\"syntax-highlighting\"><code".toList ++ languageClass language ++ ['>']
        ++ h.write language literal ++ ends
    | none => "<pre><code".toList ++ languageClass language ++ ['>'] ++ escaped literal ++ ends

/-! ## Tables -/

/-- The attribute for how a cell stands. -/
def alignAttribute : Alignment → String
  | .unset => ""
  | .left => " align=\"left\""
  | .center => " align=\"center\""
  | .right => " align=\"right\""

/-- A cell. -/
def cell (tag : String) (column : Alignment) (content : List Inline) : List Piece :=
  [.freshLine, lit ("<" ++ tag ++ alignAttribute column ++ ">"), .raw (inlines content),
    lit ("</" ++ tag ++ ">")]

/-- A row. -/
def row (tag : String) (columns : List Alignment) (cells : List (List Inline)) : List Piece :=
  [.freshLine, lit "<tr>"]
    ++ (columns.zip cells).flatMap (fun (column, content) => cell tag column content)
    ++ [.freshLine, lit "</tr>"]

/-- A table. -/
def table (columns : List Alignment) (header : List (List Inline))
    (rows : List (List (List Inline))) : List Piece :=
  let body := if rows.isEmpty then []
    else [.freshLine, lit "<tbody>\n"] ++ rows.flatMap (row "td" columns)
      ++ [.freshLine, lit "</tbody>\n"]
  [.freshLine, lit "<table>\n", lit "<thead>\n"] ++ row "th" columns header
    ++ [.freshLine, lit "</thead>"] ++ body ++ [.freshLine, lit "</table>\n"]

/-! ## Blocks -/

/-- The tags of a list. -/
def listTags : Marker → String × String
  | .bullet _ => ("<ul>\n", "</ul>\n")
  | .ordered start _ =>
    (if start == 1 then "<ol>\n" else "<ol start=\"" ++ toString start ++ "\">\n", "</ol>\n")

/-- The box of a task. -/
def box : Option Bool → String
  | none => ""
  | some true => "<input type=\"checkbox\" checked=\"\" disabled=\"\" /> "
  | some false => "<input type=\"checkbox\" disabled=\"\" /> "

mutual

/-- A block; its paragraphs have no tags when it is an item of a tight
list. -/
def block (highlighter : Option Highlighter) (tight : Bool) : Content → List Piece
  | .quote inner =>
    [.freshLine, lit "<blockquote>\n"] ++ blocks highlighter false inner
      ++ [.freshLine, lit "</blockquote>\n"]
  | .list marker tight items =>
    [.freshLine, lit (listTags marker).1] ++ blocks highlighter tight items
      ++ [lit (listTags marker).2]
  | .item task inner =>
    [.freshLine, lit ("<li>" ++ box task)] ++ blocks highlighter tight inner ++ [lit "</li>\n"]
  | .paragraph content =>
    if tight then [.raw (inlines content)]
    else [.freshLine, lit "<p>", .raw (inlines content), lit "</p>\n"]
  | .heading level content =>
    let tag := "h" ++ toString level ++ ">"
    [.freshLine, lit ("<" ++ tag), .raw (inlines content), lit ("</" ++ tag ++ "\n")]
  | .code info literal => [.freshLine, .raw (code highlighter info literal)]
  | .html => [.freshLine, lit omitted, .freshLine]
  | .rule => [.freshLine, lit "<hr />\n"]
  | .table columns header rows => table columns header rows

/-- Blocks one after the other. -/
def blocks (highlighter : Option Highlighter) (tight : Bool) : List Content → List Piece
  | [] => []
  | first :: more => block highlighter tight first ++ blocks highlighter tight more

end

/-- A document. -/
def document (highlighter : Option Highlighter) (content : List Content) : List Char :=
  joinPieces true (blocks highlighter false content)

end Html

end ApiPages.Markdown
