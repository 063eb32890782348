import ApiPages.Text.Blank

/-!
# A place in a line

Blocks are told apart by indentation, which is counted in columns: a tab
reaches to the next column that four divides. A cursor may stand inside of
a tab.
-/

namespace ApiPages.Markdown

/-- A place in a line. -/
structure Cursor where
  /-- The line from the place on, with the tab in which the place may
  be. -/
  rest : List Char
  column : Nat
  /-- Whether the place is inside of the tab with which `rest` starts. -/
  inTab : Bool
  deriving Repr

namespace Cursor

/-- The start of a line. -/
def start (line : List Char) : Cursor := ⟨line, 0, false⟩

/-- The columns from a column to the end of a tab there. -/
def tabWidth (column : Nat) : Nat := 4 - column % 4

/-- The columns of indentation from which text is code. -/
def codeIndent : Nat := 4

/-- The text after its indentation, and the column where it starts. -/
def afterBlanks (column : Nat) : List Char → List Char × Nat
  | ' ' :: cs => afterBlanks (column + 1) cs
  | '\t' :: cs => afterBlanks (column + tabWidth column) cs
  | cs => (cs, column)

/-- The place after the indentation. -/
def skip (c : Cursor) : Cursor :=
  let (rest, column) := afterBlanks c.column c.rest
  ⟨rest, column, false⟩

/-- The columns of indentation at the place. -/
def indent (c : Cursor) : Nat := c.skip.column - c.column

/-- Whether text at the place is indented as code. -/
def isIndented (c : Cursor) : Bool := codeIndent ≤ c.indent

/-- Whether nothing but blanks follows. -/
def isBlank (c : Cursor) : Bool := c.skip.rest.isEmpty

/-- The place `count` columns further on. -/
def advance (c : Cursor) : Nat → Cursor
  | 0 => c
  | count + 1 =>
    match c.rest with
    | [] => c
    | '\t' :: cs =>
      if tabWidth c.column == 1 then advance ⟨cs, c.column + 1, false⟩ count
      else advance ⟨c.rest, c.column + 1, true⟩ count
    | _ :: cs => advance ⟨cs, c.column + 1, false⟩ count

/-- The place `count` characters further on, none of them a tab. -/
def drop (c : Cursor) (count : Nat) : Cursor :=
  if count == 0 then c else ⟨c.rest.drop count, c.column + count, false⟩

/-- The end of the line. -/
def toEnd (c : Cursor) : Cursor := ⟨[], c.column + c.rest.length, false⟩

/-- The place one column further on, when a blank stands there. -/
def advanceBlank (c : Cursor) : Cursor :=
  if c.rest.head?.any Text.isIndent then c.advance 1 else c

/-- The place behind as many blanks as stand there, but no more than
`count`. -/
def advanceBlanks (c : Cursor) : Nat → Cursor
  | 0 => c
  | count + 1 => if c.rest.head?.any Text.isIndent then (c.advance 1).advanceBlanks count else c

/-- What a block takes of the line from the place on. What is left of a tab
counts as spaces. -/
def text (c : Cursor) : List Char :=
  if c.inTab then List.replicate (tabWidth c.column) ' ' ++ c.rest.drop 1 ++ ['\n']
  else c.rest ++ ['\n']

end Cursor

end ApiPages.Markdown
