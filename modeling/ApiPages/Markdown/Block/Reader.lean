import ApiPages.Markdown.Block.Cursor
import ApiPages.Markdown.Block.Frame
import ApiPages.Markdown.Block.Row

/-!
# Reading blocks

A text is read line by line. For each line, the open blocks that it
continues are found, from the outermost on; then the blocks that start on
it are opened; what is left of it is text of the innermost open block. A
line of text may also continue a paragraph whose quotes and items it does
not continue.
-/

namespace ApiPages.Markdown

/-! ## Lines -/

/-- Splits a text at its line ends, with the current line in reverse
order. -/
def linesFrom (line : List Char) : List Char → List (List Char)
  | [] => if line.isEmpty then [] else [line.reverse]
  | '\r' :: '\n' :: cs => line.reverse :: linesFrom [] cs
  | c :: cs =>
    if Text.isLineEnd c then line.reverse :: linesFrom [] cs else linesFrom (c :: line) cs

/-- The lines of a text. A mark of byte order before the first one does not
count, and a replacement stands for the character zero. -/
def lines (text : List Char) : List (List Char) :=
  let text := text.map fun c => if c == '\x00' then '\uFFFD' else c
  linesFrom [] (if text.head? == some '\uFEFF' then text.drop 1 else text)

/-! ## Continuing blocks -/

/-- What a line does to an open block. -/
inductive Continuation where
  /-- The block goes on, and its contents start at the place. -/
  | goesOn (place : Cursor)
  | stops
  /-- The line is the end of the block. -/
  | ends

/-- What a line does to a frame; `hasInner` tells whether other frames are
open in it. -/
def Frame.continuation (f : Frame) (hasInner : Bool) (c : Cursor) : Continuation :=
  let shallow := !c.isIndented
  match f.kind with
  | .document | .list _ | .rule => .goesOn c
  | .quote =>
    if shallow && c.skip.rest.head? == some '>' then .goesOn (c.skip.drop 1).advanceBlank
    else .stops
  | .item margin _ =>
    if margin ≤ c.indent then .goesOn (c.advance margin)
    else if c.isBlank && (hasInner || !f.closed.isEmpty) then .goesOn c.skip
    else .stops
  | .paragraph .. => if c.isBlank then .stops else .goesOn c
  | .heading .. => .stops
  | .fenced mark length margin _ =>
    if shallow && Start.closesFence mark length c.skip.rest then .ends
    else .goesOn (c.advanceBlanks margin)
  | .indented _ =>
    if c.isIndented then .goesOn (c.advance Cursor.codeIndent)
    else if c.isBlank then .goesOn c.skip
    else .stops
  | .html start => if start.endsAtBlank && c.isBlank then .stops else .goesOn c
  | .table _ => if (Row.read? c.skip.rest).isSome then .goesOn c else .stops

/-- A line among open blocks. -/
structure Opening where
  /-- The open blocks that the line continues or opens, the innermost
  first. -/
  chain : List Frame
  /-- The open blocks that the line does not continue, the outermost
  first. -/
  inner : List Frame
  known : Definitions
  place : Cursor
  /-- Whether the line opened a block. -/
  opened : Bool

/-- Finds the blocks that a line continues: the frames of `chain` do, the
innermost first, and the others are looked at. A line that ends a block
has no other meaning: the answer then holds that block as the only one
that is not continued. -/
def continueFrom (known : Definitions) (chain : List Frame) (place : Cursor) :
    List Frame → Opening × Bool
  | [] => (⟨chain, [], known, place, false⟩, false)
  | f :: more =>
    match f.continuation (!more.isEmpty) place with
    | .goesOn place => continueFrom known (f :: chain) place more
    | .stops => (⟨chain, f :: more, known, place, false⟩, false)
    | .ends => (⟨chain, f :: more, known, place, false⟩, true)

/-! ## Opening blocks -/

namespace Opening

/-- Closes frames until one is there that may hold a block of a kind.
`last?` was closed before and belongs to the first frame of the chain. A
list that closes here tells how its blocks stand while those in it are
still open. -/
def makeRoom (kind : Frame.Kind) (known : Definitions) (inner : List Frame)
    (last? : Option Closed) : List Frame → List Frame × Definitions
  | [] => ([], known)
  | f :: outer =>
    let tight? := if inner.isEmpty then none else some (f.isTightWith inner)
    let (block?, known) := Frame.closeAll known inner
    let f := (f.attach block?).attach last?
    if f.holds kind then (f :: outer, known)
    else
      let (block?, known) := f.close known tight?
      makeRoom kind known [] block? outer

/-- Opens a block, with its contents from the place on. -/
def push (o : Opening) (kind : Frame.Kind) (place : Cursor) : Opening :=
  let (chain, known) := makeRoom kind o.known o.inner none o.chain
  ⟨Frame.new kind :: chain, [], known, place, true⟩

/-- The frame in which a block would open. -/
def container (o : Opening) : Frame := o.chain.headD (Frame.new .document)

/-- The innermost open frame. -/
def tip (o : Opening) : Frame := (o.inner.getLast?).getD o.container

/-- Puts another frame in the place of the container. -/
def replace (o : Opening) (f : Frame) (place : Cursor) : Opening :=
  { o with chain := f :: o.chain.drop 1, place }

/-- What happens to a line once a block was looked for. -/
inductive Next where
  /-- Other blocks may open in what is left. -/
  | again (o : Opening)
  /-- What is left is text. -/
  | text (o : Opening)

/-- Makes the paragraph above a line a heading. Definitions do not count,
and where nothing else is left, the line is text. -/
def underline (o : Opening) (level : Nat) (lines : List (List Char)) (noTable : Bool) : Opening :=
  let (known, rest) := Definition.take o.known (Frame.joinLines lines)
  let o := { o with known }
  let f := o.container
  if Definition.isBlankStart rest then
    o.replace { f with kind := .paragraph [rest] noTable } o.place
  else o.replace { f with kind := .heading level [rest] } o.place.toEnd

/-- Opens an item, in a new list unless the container is one of its
kind. -/
def openItem (o : Opening) (line : Nat) (marker : Marker) (length : Nat) : Opening :=
  let after := o.place.skip.drop length
  let content := after.advanceBlanks 6
  let blanks := content.column - after.column
  let near := 1 ≤ blanks && blanks ≤ 4 && !content.rest.isEmpty
  let place := if near then content else if 0 < blanks then after.advance 1 else after
  let margin := o.place.indent + length + if near then blanks else 1
  let inList := match o.container.kind with
    | .list other => other.continues marker
    | _ => false
  let o := if inList then o else o.push (.list marker) place
  o.push (.item margin line) place

/-- Makes the paragraph above a line the header of a table, when the line
has a delimiter for each of its cells; nothing when the line is none of
delimiters. Lines before the header stay a paragraph. -/
def openTable? (o : Opening) (lines : List (List Char)) : Option Next :=
  let below := o.place.skip.rest
  let f := o.container
  if !Row.isDelimiterRow below then none
  else
    match Row.read? below, Row.read? (Frame.joinLines lines) with
    | some (_, delimiters), some (before, header) =>
      if delimiters.length == header.length then
        let table := .table ⟨delimiters.map Row.alignment, header, [], 0⟩
        let above? := if before.isEmpty then none
          else some ⟨.paragraph (Row.cellText before), false, false⟩
        let outer := match o.chain.drop 1 with
          | [] => []
          | parent :: more => parent.attach above? :: more
        some (.again { o with
          chain := { f with kind := table } :: outer
          place := o.place.toEnd })
      else some (.text (o.replace { f with kind := .paragraph lines true } o.place))
    | _, _ => some (.text (o.replace { f with kind := .paragraph lines true } o.place))

/-- The most cells that the rows of a table may leave out. -/
def missingLimit : Nat := 500000

/-- Reads a line as a row of a table. -/
def openRow? (o : Opening) (t : OpenTable) : Option Next :=
  let f := o.container
  match Row.read? o.place.skip.rest with
  | some (_, cells) =>
    if o.place.isBlank || missingLimit < t.missing then none
    else
      let cells := cells.take t.columns.length
      let missing := t.columns.length - cells.length
      let row := cells ++ List.replicate missing []
      let table := { t with rows := row :: t.rows, missing := t.missing + missing }
      some (.again (o.replace { f with kind := .table table } o.place.toEnd))
  | none => none

/-- The most blocks that may open on one line when a list is the last of
them. -/
def depthLimit : Nat := 100

/-- Opens the block that starts at the place, if any. `depth` counts the
blocks that were looked for on this line, which has number `line`; `lazy`
tells whether the line may go on with a paragraph. -/
def next? (o : Opening) (line depth : Nat) (lazy : Bool) : Option Next :=
  let start := o.place.skip
  let cs := start.rest
  let inParagraph := o.container.isParagraph
  if o.place.isIndented then
    if lazy || cs.isEmpty then none
    else some (.text (o.push (.indented []) (o.place.advance Cursor.codeIndent)))
  else if cs.head? == some '>' then some (.again (o.push .quote (start.drop 1).advanceBlank))
  else if let some level := Start.heading? cs then
    some (.text (o.push (.heading level []) (start.drop level)))
  else if let some (mark, length) := Start.fence? cs then
    let margin := o.place.rest.length - cs.length
    some (.text (o.push (.fenced mark length margin []) (start.drop length)))
  else if let some html := Start.html? inParagraph cs then
    some (.text (o.push (.html html) o.place))
  else
    match o.container.kind, Start.underline? cs with
    | .paragraph lines noTable, some level => some (.text (o.underline level lines noTable))
    | kind, _ =>
      if Start.isRule cs then some (.again (o.push .rule start.toEnd))
      else
        match if depth < depthLimit then Start.marker? inParagraph cs else none with
        | some (marker, length) => some (.again (o.openItem line marker length))
        | none =>
          match kind with
          | .paragraph lines false => o.openTable? lines
          | .table t => o.openRow? t
          | _ => none

/-- Opens the blocks that start on a line. -/
def openAll (o : Opening) (line depth : Nat) (lazy : Bool) : Opening :=
  if o.container.isVerbatim then o
  else
    match o.next? line (depth + 1) lazy with
    | some (.again further) =>
      if further.place.rest.length < o.place.rest.length then
        openAll further line (depth + 1) false
      else further
    | some (.text o) => o
    | none => o
termination_by o.place.rest.length

/-! ## Text -/

/-- Whether a blank line counts as blank in a frame; `hasInner` tells whether
other frames are open in it. -/
def countsBlank (line : Nat) (hasInner : Bool) (f : Frame) : Bool :=
  match f.kind with
  | .quote | .heading .. | .rule | .fenced .. => false
  | .item _ first => hasInner || !f.closed.isEmpty || first != line
  | .table t => t.rows.isEmpty
  | _ => true

/-- Notes for the lists around whether the line is blank. -/
def noteBlanks (o : Opening) (line : Nat) : Opening :=
  let blank := o.place.isBlank
  let inner := match o.inner with
    | f :: more => { f with blank := f.blank || blank } :: more
    | [] => []
  let chain := match o.chain with
    | f :: outer =>
      let counts := countsBlank line (!o.inner.isEmpty) f
      let f := if blank && o.inner.isEmpty then f.noteBlank else f
      { f with blank := blank && counts } :: outer.map fun g => { g with blank := false }
    | [] => []
  { o with inner, chain }

/-- Closes the blocks that the line does not continue. -/
def closeInner (o : Opening) : Opening :=
  let (block?, known) := Frame.closeAll o.known o.inner
  { o with known, inner := [], chain := match o.chain with
    | f :: outer => f.attach block? :: outer
    | [] => [] }

/-- The open blocks, the outermost first, and the definitions after what is
left of a line was added as text. -/
def addText (o : Opening) (line : Nat) : List Frame × Definitions :=
  let blank := o.place.isBlank
  let o := o.noteBlanks line
  if !o.opened && !blank && !o.inner.isEmpty && o.tip.isParagraph then
    (o.chain.reverse ++ o.inner.dropLast ++ [o.tip.addLine o.place.text], o.known)
  else
    let o := o.closeInner
    let f := o.container
    let start := o.place.skip
    match f.kind with
    | .fenced .. | .indented _ =>
      ((o.replace (f.addLine o.place.text) o.place).chain.reverse, o.known)
    | .html html =>
      if html.endsWith start.rest then
        let (block?, known) := f.close o.known none
        let outer := match o.chain.drop 1 with
          | parent :: more => parent.attach block? :: more
          | [] => []
        (outer.reverse, known)
      else (o.chain.reverse, o.known)
    | .paragraph .. =>
      if blank then (o.chain.reverse, o.known)
      else ((o.replace (f.addLine start.text) o.place).chain.reverse, o.known)
    | .heading .. =>
      if blank then (o.chain.reverse, o.known)
      else ((o.replace (f.addLine (Start.headingText start.rest)) o.place).chain.reverse, o.known)
    | _ =>
      if blank then (o.chain.reverse, o.known)
      else
        let o := o.push (.paragraph [start.text] false) start
        (o.chain.reverse, o.known)

end Opening

/-! ## The whole text -/

/-- The open blocks after a line, the outermost first, and the
definitions. -/
def readLine (frames : List Frame) (known : Definitions) (number : Nat) (line : List Char) :
    List Frame × Definitions :=
  let (o, ends) := continueFrom known [] (Cursor.start line) frames
  if ends then
    let o := o.closeInner
    (o.chain.reverse, o.known)
  else (o.openAll number 0 o.tip.isParagraph).addText number

/-- The open blocks after lines, of which the first has a number. -/
def readLines (frames : List Frame) (known : Definitions) (number : Nat) :
    List (List Char) → List Frame × Definitions
  | [] => (frames, known)
  | line :: more =>
    let (frames, known) := readLine frames known number line
    readLines frames known (number + 1) more

/-- The blocks of a text and its definitions. -/
def readBlocks (text : List Char) : List Written × Definitions :=
  let (frames, known) := readLines [Frame.new .document] [] 1 (lines text)
  match frames with
  | document :: inner =>
    let (block?, known) := Frame.closeAll known inner
    ((document.attach block?).closed.reverse.map (·.block), known)
  | [] => ([], known)

end ApiPages.Markdown
