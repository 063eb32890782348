import ApiPages.Text.Blank
import ApiPages.Text.List
import ApiPages.Markdown.Block.Basic

/-!
# Rows of tables

A row's cells are parted by pipes; a backslash before a pipe keeps it in
its cell. A row that stands after other lines of its paragraph tells where
it starts.
-/

namespace ApiPages.Markdown.Row

/-- A blank within a row. -/
def isRowBlank (c : Char) : Bool := c == ' ' || c == '\t' || c == '\x0b' || c == '\x0c'

/-- The characters of the cell that starts a text. `escaped` tells whether a
backslash stands just before. -/
def cellLength (escaped : Bool) : List Char → Nat
  | [] => 0
  | c :: cs =>
    if c == '\n' || (c == '|' && !escaped) then 0 else cellLength (c == '\\') cs + 1

/-- What follows a pipe and the blanks after it. -/
def pipe? : List Char → Option (List Char)
  | '|' :: cs => some (cs.dropWhile isRowBlank)
  | _ => none

/-- What follows the end of a line. -/
def lineEnd? (cs : List Char) : Option (List Char) :=
  match cs.dropWhile isRowBlank with
  | '\n' :: rest => some rest
  | _ => none

/-- Pipes without the backslashes before them. -/
def unescapePipes : List Char → List Char
  | [] => []
  | [c] => [c]
  | c :: d :: cs =>
    if c == '\\' && d == '|' then d :: unescapePipes cs else c :: unescapePipes (d :: cs)

/-- The text of a cell. -/
def cellText (written : List Char) : List Char :=
  Text.trimWhile Text.isSpace (unescapePipes written)

/-- Reads the cells of the last line of a text, with those read so far of
its line in reverse order and the start of that line. Answers the cells and
the text from their line on; nothing when the line breaks off. -/
def cellsFrom (line : List Char) (cells : List (List Char)) (cs : List Char) :
    Nat → Option (List Char × List (List Char))
  | 0 => none
  | fuel + 1 =>
    if cs.isEmpty then some (line, cells.reverse)
    else
      let length := cellLength false cs
      let after := cs.drop length
      let cells' := cellText (cs.take length) :: cells
      match pipe? after with
      | some rest => cellsFrom line cells' rest fuel
      | none =>
        let cells := if 0 < length then cells' else cells
        match lineEnd? after with
        | some [] => some (line, cells.reverse)
        | some rest => cellsFrom rest [] ((pipe? rest).getD rest) fuel
        | none => if after.isEmpty then some (line, cells.reverse) else none

/-- The most cells of a row. -/
def cellLimit : Nat := 65535

/-- The cells of the last line of a text, and what stands before that
line. -/
def read? (cs : List Char) : Option (List Char × List (List Char)) :=
  match cellsFrom cs [] ((pipe? cs).getD cs) (cs.length + 1) with
  | some (line, cells) =>
    if cells.isEmpty || cellLimit < cells.length then none
    else some (cs.take (cs.length - line.length), cells)
  | none => none

/-- Whether a text is a delimiter of a column: hyphens, and a colon on
either side. -/
def isDelimiter (cs : List Char) : Bool :=
  let inner := Text.trimWhile isRowBlank cs
  let inner := if inner.head? == some ':' then inner.drop 1 else inner
  let inner := if inner.getLast? == some ':' then inner.dropLast else inner
  !inner.isEmpty && inner.all (· == '-')

/-- Whether a line may stand below the header of a table. -/
def isDelimiterRow (line : List Char) : Bool :=
  let cells := Text.splitOn '|' line
  let cells := if cells.head? == some [] then cells.drop 1 else cells
  let cells :=
    if 1 < cells.length && cells.getLast?.any (·.all isRowBlank) then cells.dropLast else cells
  !cells.isEmpty && cells.all isDelimiter

/-- How a column stands, as its delimiter tells. -/
def alignment (delimiter : List Char) : Alignment :=
  match delimiter.head? == some ':', delimiter.getLast? == some ':' with
  | true, true => .center
  | true, false => .left
  | false, true => .right
  | false, false => .unset

end ApiPages.Markdown.Row
