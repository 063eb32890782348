import ApiPages.Markdown.Block.Basic
import ApiPages.Markdown.Block.Start
import ApiPages.Markdown.Definition

/-!
# Open blocks

While lines are read, the blocks that may still grow form a chain from the
whole text to the innermost one; each is a `Frame`. A frame closes into the
frame around it. A list becomes loose when a blank line parts two of its
items or two blocks of an item, so frames and closed blocks remember
whether a blank line came last.
-/

namespace ApiPages.Markdown

/-- A block with its text as written. -/
abbrev Written := Block (List Char)

/-- A table that may still get rows. -/
structure OpenTable where
  columns : List Alignment
  header : List (List Char)
  /-- The rows in reverse order. -/
  rows : List (List (List Char))
  /-- The cells that rows left out. -/
  missing : Nat

/-- What a frame is. Text is a list of lines in reverse order. -/
inductive Frame.Kind where
  | document
  | quote
  | list (marker : Marker)
  /-- The columns that the lines of an item are indented by, and the number
  of the line on which it starts. -/
  | item (margin line : Nat)
  /-- Whether the paragraph was found to be no header of a table. -/
  | paragraph (lines : List (List Char)) (noTable : Bool)
  | heading (level : Nat) (lines : List (List Char))
  /-- The columns before the fence may go from the lines after it. -/
  | fenced (mark : Char) (length margin : Nat) (lines : List (List Char))
  | indented (lines : List (List Char))
  | html (start : Start.HtmlStart)
  | rule
  | table (table : OpenTable)

/-- A closed block, and what the lists around it ask about. -/
structure Closed where
  block : Written
  /-- Whether a blank line ends it. -/
  endsBlank : Bool
  /-- Whether it is an item in which blocks are parted by a blank line. -/
  isLoose : Bool

/-- An open block. -/
structure Frame where
  kind : Frame.Kind
  /-- The closed blocks in it in reverse order. -/
  closed : List Closed
  /-- Whether the last line was a blank one in it. -/
  blank : Bool

namespace Frame

/-- A frame with nothing in it. -/
def new (kind : Kind) : Frame := ⟨kind, [], false⟩

/-- Whether the frame is a paragraph. -/
def isParagraph (f : Frame) : Bool :=
  match f.kind with
  | .paragraph .. => true
  | _ => false

/-- Whether a block of a kind may stand in the frame: items in lists, and
all else in quotes, in items and in the text itself. -/
def holds (f : Frame) (inner : Kind) : Bool :=
  match f.kind, inner with
  | .list _, .item .. => true
  | .document, .item .. | .quote, .item .. | .item .., .item .. => false
  | .document, _ | .quote, _ | .item .., _ => true
  | _, _ => false

/-- Whether the text of the frame is code or HTML, in which no block
starts. -/
def isVerbatim (f : Frame) : Bool :=
  match f.kind with
  | .fenced .. | .indented _ | .html _ => true
  | _ => false

/-- The lines as one text. -/
def joinLines (lines : List (List Char)) : List Char := lines.reverse.flatten

/-- The frame with a line added to its text. -/
def addLine (f : Frame) (line : List Char) : Frame :=
  match f.kind with
  | .paragraph lines noTable => { f with kind := .paragraph (line :: lines) noTable }
  | .heading level lines => { f with kind := .heading level (line :: lines) }
  | .fenced mark length margin lines =>
    { f with kind := .fenced mark length margin (line :: lines) }
  | .indented lines => { f with kind := .indented (line :: lines) }
  | _ => f

/-- The frame after a blank line in or behind its last closed block. -/
def noteBlank (f : Frame) : Frame :=
  match f.closed with
  | last :: more => { f with closed := { last with endsBlank := true } :: more }
  | [] => f

/-! ## Lists -/

/-- Whether one of the closed blocks of an item ends in a blank line,
apart from the one that comes last in it. -/
def partsBlocks (f : Frame) (lastIsOpen : Bool) : Bool :=
  (if lastIsOpen then f.closed else f.closed.drop 1).any (·.endsBlank)

/-- Whether a list is tight, whose items are all closed; they are in
reverse order. -/
def isTight (items : List Closed) : Bool :=
  !(items.any (·.isLoose) || (items.drop 1).any (·.endsBlank))

/-- Whether a list is tight in which blocks are still open; `inner` is the
chain of them. -/
def isTightWith (f : Frame) (inner : List Frame) : Bool :=
  match inner with
  | item :: deeper =>
    !(f.closed.any (fun c => c.isLoose || c.endsBlank) || item.partsBlocks !deeper.isEmpty)
  | [] => isTight f.closed

/-! ## Closing -/

/-- The block of code that a fence opened. The rest of the line after the
fence is its information. -/
def fencedBlock (lines : List (List Char)) : Written :=
  match lines.reverse with
  | first :: more =>
    .code (dropBackslashes (Text.trimWhile Text.isSpace (decodeReferences first.dropLast)))
      more.flatten
  | [] => .code [] []

/-- The text of indented code: without the blank lines at its end. -/
def indentedText (lines : List (List Char)) : List Char :=
  joinLines (lines.dropWhile (·.all fun c => Text.isIndent c || c == '\n'))

/-- The closed block of a frame, which may be nothing, and the definitions
with those at the start of a paragraph. `tight?` is known when the
frame is a list that closed before the blocks in it. -/
def close (f : Frame) (known : Definitions) (tight? : Option Bool) : Option Closed × Definitions :=
  let blocks := f.closed.reverse.map (·.block)
  let lastBlank := f.blank || f.closed.head?.any (·.endsBlank)
  match f.kind with
  | .document | .quote => (some ⟨.quote blocks, f.blank, false⟩, known)
  | .list marker =>
    (some ⟨.list marker (tight?.getD (isTight f.closed)) blocks, lastBlank, false⟩, known)
  | .item .. => (some ⟨.item none blocks, lastBlank, f.partsBlocks false⟩, known)
  | .paragraph lines _ =>
    let (known, rest) := Definition.take known (joinLines lines)
    if Definition.isBlankStart rest then (none, known)
    else (some ⟨.paragraph rest, f.blank, false⟩, known)
  | .heading level lines => (some ⟨.heading level (joinLines lines), f.blank, false⟩, known)
  | .fenced _ _ _ lines => (some ⟨fencedBlock lines, f.blank, false⟩, known)
  | .indented lines => (some ⟨.code [] (indentedText lines), f.blank, false⟩, known)
  | .html _ => (some ⟨.html, f.blank, false⟩, known)
  | .rule => (some ⟨.rule, f.blank, false⟩, known)
  | .table t => (some ⟨.table t.columns t.header t.rows.reverse, f.blank, false⟩, known)

/-- The frame with a block in it that was closed. -/
def attach (f : Frame) (block? : Option Closed) : Frame :=
  { f with closed := block?.toList ++ f.closed }

/-- Closes a chain of frames, the innermost first. -/
def closeAll (known : Definitions) : List Frame → Option Closed × Definitions
  | [] => (none, known)
  | f :: inner =>
    let (block?, known) := closeAll known inner
    (f.attach block?).close known none

end Frame

end ApiPages.Markdown
