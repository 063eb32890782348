import ApiPages.Text.List

/-!
# Code in a line

Code stands between two runs of backticks of one length. A search for the
closing run notes where it saw runs of which length; once a search has
gone to the end of the text, these notes tell where no search is worth it.
-/

namespace ApiPages.Markdown.Code

/-- The most backticks that may open code. -/
def runLimit : Nat := 80

/-- What searches for closing runs have seen. -/
structure Notes where
  /-- Whether a search has reached the end of the text. -/
  complete : Bool
  /-- Lengths of runs with the places where they start, the latest note
  first. -/
  places : List (Nat × Nat)

/-- Whether there is no use in a search behind `position` for a run of
`count` backticks. -/
def Notes.excludes (notes : Notes) (count position : Nat) : Bool :=
  notes.complete && (notes.places.lookup count).getD 0 ≤ position

/-- Searches a text that starts at `position` for a run of `count`
backticks, and answers the text before the run; `passed` is the start of
that text in reverse order. -/
def search (notes : Notes) (count position : Nat) (passed : List Char) (cs : List Char) :
    Option (List Char) × Notes :=
  match cs with
  | [] => (none, { notes with complete := true })
  | c :: rest =>
    if c != '\x60' then search notes count (position + 1) (c :: passed) rest
    else
      let more := rest.takeWhile (· == '\x60')
      let after := rest.drop more.length
      let notes :=
        if more.length < runLimit then
          { notes with places := (more.length + 1, position) :: notes.places }
        else notes
      if more.length + 1 == count then (some passed.reverse, notes)
      else search notes count (position + more.length + 1) (more ++ c :: passed) after
termination_by cs.length
decreasing_by all_goals grind

/-- Code as written stands for this: line ends are spaces, and one space on
both ends goes, unless there are only spaces. -/
def normalize (written : List Char) : List Char :=
  let line := written.map fun c => if c == '\n' then ' ' else c
  if written.any (· != ' ') && line.head? == some ' ' && line.getLast? == some ' ' then
    (line.drop 1).dropLast
  else line

end ApiPages.Markdown.Code
