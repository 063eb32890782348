import ApiPages.Files.Disk
import ApiPages.Failure
import ApiPages.Text.Blank

/-!
# Parameter files

Two lines: the input files with commas between them, and the output
directory. Further lines do not matter.
-/

namespace ApiPages

/-- What a parameter file says. -/
structure Parameters where
  sources : List String
  out : String
  deriving DecidableEq, Repr

namespace Parameters

/-- The lines of a text; what follows the last line feed is one more line
when it is not empty. -/
def lines (cs : List Char) : List (List Char) :=
  let pieces := Text.splitOn '\n' cs
  let pieces := if pieces.getLast?.any List.isEmpty then pieces.dropLast else pieces
  pieces.map (Text.dropEndWhile (· == '\r'))

/-- The items of a line between its commas, trimmed, without the blank
ones. -/
def itemsOf (line : List Char) : List String :=
  (((Text.splitOn ',' line).map (Text.trimWhile Text.isBlank)).filter
    fun item => !item.isEmpty).map String.ofList

/-- Reads the text of a parameter file. -/
def parse (text : String) : Except Failure Parameters :=
  match lines text.toList with
  | [] => .error (.parameters "file is empty")
  | [_] => .error (.parameters "missing output directory on line 2")
  | first :: second :: _ =>
    let sources := itemsOf first
    let out := Text.trimWhile Text.isBlank second
    if sources.isEmpty then .error (.parameters "no input files on line 1")
    else if out.isEmpty then .error (.parameters "output directory on line 2 is empty")
    else .ok ⟨sources, String.ofList out⟩

/-- Reads a parameter file. -/
def read {m : Type → Type} [Monad m] (disk : Files.Disk m) (path : String) :
    m (Except Failure Parameters) := do
  match ← disk.read path with
  | .error e => pure (.error (.parameters ("failed to read " ++ path ++ ": " ++ e.message)))
  | .ok text => pure (parse text)

end Parameters

end ApiPages
