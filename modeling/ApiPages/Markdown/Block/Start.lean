import ApiPages.Text.Alphanumeric
import ApiPages.Text.Blank
import ApiPages.Markdown.Block.Basic
import ApiPages.Markdown.Inline.Scan

/-!
# How blocks start and end

Each function looks at a line after its indentation and tells whether a
block of its kind starts there, or ends.
-/

namespace ApiPages.Markdown.Start

/-- Whether a line holds only spaces and tabs. -/
def isBlankLine (cs : List Char) : Bool := cs.all Text.isIndent

/-! ## Headings and rules -/

/-- The level of a heading that starts with hashes; a blank or nothing
follows them. -/
def heading? (cs : List Char) : Option Nat :=
  let level := (cs.takeWhile (· == '#')).length
  if 1 ≤ level && level ≤ 6 && (cs.drop level).head?.all Text.isIndent then some level else none

/-- The text of a heading without the hashes that close it. -/
def headingText (cs : List Char) : List Char :=
  let line := Text.dropEndWhile Text.isSpace cs
  let kept := Text.dropEndWhile (· == '#') line
  if kept.length < line.length && kept.getLast?.all Text.isIndent then
    Text.dropEndWhile Text.isSpace kept
  else line

/-- The level of a heading that the line underlines. -/
def underline? (cs : List Char) : Option Nat :=
  match cs with
  | '=' :: _ => if isBlankLine (cs.dropWhile (· == '=')) then some 1 else none
  | '-' :: _ => if isBlankLine (cs.dropWhile (· == '-')) then some 2 else none
  | _ => none

/-- Whether the line is a rule: three or more stars, hyphens or underscores
with any blanks between them. -/
def isRule (cs : List Char) : Bool :=
  match cs.head? with
  | some mark =>
    (mark == '*' || mark == '-' || mark == '_') && 3 ≤ cs.count mark
      && cs.all fun c => c == mark || Text.isIndent c
  | none => false

/-! ## Fences -/

/-- A fence that opens code: its mark, and how many there are. After
backticks no other backtick may follow. -/
def fence? (cs : List Char) : Option (Char × Nat) :=
  match cs with
  | mark :: _ =>
    let length := (cs.takeWhile (· == mark)).length
    let isMark := mark == '~' || (mark == '\x60' && (cs.drop length).all (· != mark))
    if isMark && 3 ≤ length then some (mark, length) else none
  | [] => none

/-- Whether the line is a fence of at least `length` marks. -/
def closesFence (mark : Char) (length : Nat) (cs : List Char) : Bool :=
  length ≤ (cs.takeWhile (· == mark)).length && isBlankLine (cs.dropWhile (· == mark))

/-! ## Lists -/

/-- Whether text stands after a marker. -/
def hasText (cs : List Char) : Bool := !isBlankLine cs

/-- The most digits of a number before an item. -/
def digitLimit : Nat := 9

/-- A marker and its length. One that interrupts a paragraph needs text
after it, and a number must be one. -/
def marker? (interrupts : Bool) (cs : List Char) : Option (Marker × Nat) :=
  let ends (after : List Char) : Bool :=
    (after.isEmpty || after.head?.any Text.isSpace) && (!interrupts || hasText after)
  match cs with
  | '*' :: after | '-' :: after | '+' :: after =>
    if ends after then some (.bullet (cs.headD '*'), 1) else none
  | _ =>
    let digits := (cs.take digitLimit).takeWhile Char.isDigit
    let start := numberOf 10 digits
    match cs.drop digits.length with
    | mark :: after =>
      if !digits.isEmpty && (mark == '.' || mark == ')') && (!interrupts || start == 1)
          && ends after then
        some (.ordered start mark, digits.length + 1)
      else none
    | [] => none

/-! ## HTML -/

/-- What a block of HTML starts with, which tells where it ends. -/
inductive HtmlStart where
  /-- A tag whose contents are no text. -/
  | verbatim
  | comment
  | instruction
  | declaration
  | characterData
  /-- A tag of a block. -/
  | blockTag
  /-- Any other tag alone on its line. -/
  | loneTag
  deriving DecidableEq, Repr

/-- The tags whose contents are no text. -/
def verbatimTags : List (List Char) :=
  ["script".toList, "pre".toList, "textarea".toList, "style".toList]

/-- The tags of blocks. -/
def blockTags : List (List Char) :=
  ["address article aside base basefont blockquote body caption center col colgroup dd",
    "details dialog dir div dl dt fieldset figcaption figure footer form frame frameset h1",
    "h2 h3 h4 h5 h6 head header hr html iframe legend li link main menu menuitem nav",
    "noframes ol optgroup option p param search section summary table tbody td tfoot th",
    "thead title tr track ul"].flatMap fun line => Text.words line.toList

/-- Whether a tag's name may end here. -/
def endsName (cs : List Char) : Bool :=
  match cs with
  | [] => true
  | c :: _ => Text.isSpace c || c == '>'

/-- The name at the start of a text, in small letters, and what follows
it. -/
def tagWord (cs : List Char) : List Char × List Char :=
  let name := cs.takeWhile Text.isAsciiAlphanumeric
  (name.map Text.asciiLower, cs.drop name.length)

/-- Whether a tag of a block starts a text, after its angle bracket. -/
def isBlockTag (cs : List Char) : Bool :=
  let (name, rest) := tagWord (if cs.head? == some '/' then cs.drop 1 else cs)
  blockTags.contains name
    && (endsName rest || (rest.head? == some '/' && rest[1]? == some '>'))

/-- Whether a tag stands alone on its line, after its angle bracket. -/
def isLoneTag (cs : List Char) : Bool :=
  match Scan.tag? cs with
  | some rest => rest.all fun c => c == ' ' || c == '\t' || c == '\x0c'
  | none => false

/-- The block of HTML that starts with a line. A lone tag does not interrupt
a paragraph. -/
def html? (interrupts : Bool) : List Char → Option HtmlStart
  | '<' :: cs =>
    let (name, rest) := tagWord cs
    if verbatimTags.contains name && endsName rest then some .verbatim
    else if cs.take 3 == ['!', '-', '-'] then some .comment
    else if cs.head? == some '?' then some .instruction
    else if cs.head? == some '!' && cs[1]?.any Text.isAsciiLetter then some .declaration
    else if (Scan.wordAnyCase? "![cdata[".toList cs).isSome then some .characterData
    else if isBlockTag cs then some .blockTag
    else if !interrupts && isLoneTag cs then some .loneTag
    else none
  | _ => none

/-- Whether a block of HTML ends with a line; the others end before a blank
line. -/
def HtmlStart.endsWith (start : HtmlStart) (cs : List Char) : Bool :=
  match start with
  | .verbatim =>
    let line := cs.map Text.asciiLower
    verbatimTags.any fun name => Text.hasWord ("</".toList ++ name ++ ['>']) line
  | .comment => Text.hasWord "-->".toList cs
  | .instruction => Text.hasWord "?>".toList cs
  | .declaration => cs.contains '>'
  | .characterData => Text.hasWord "]]>".toList cs
  | .blockTag | .loneTag => false

/-- Whether a block of HTML ends before a blank line. -/
def HtmlStart.endsAtBlank : HtmlStart → Bool
  | .blockTag | .loneTag => true
  | _ => false

end ApiPages.Markdown.Start
