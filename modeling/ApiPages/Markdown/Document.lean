import ApiPages.Markdown.Block.Reader
import ApiPages.Markdown.Inline.Reader

/-!
# Documents

A document is the blocks of a text with their inline content. It is made in
three steps: the blocks and the definitions of links are read, then the
contents of the blocks, and then items that start with a box become tasks
and mail addresses become links.
-/

namespace ApiPages.Markdown

/-- A block with its inline content. -/
abbrev Content := Block (List Inline)

namespace Document

/-- The bytes that links may always take from definitions; a longer text
allows as many as it has. -/
def referenceLimit : Nat := 100000

/-- Whether a text starts with a box that is ticked or not, and what
follows the box. -/
def box? (chars : List Char) : Option (Bool × List Char) :=
  match chars.dropWhile Text.isSpace with
  | '[' :: mark :: ']' :: rest =>
    let ends := rest.isEmpty || rest.head?.any Text.isSpace
    if ends && (mark == ' ' || mark == 'x' || mark == 'X') then
      some (mark != ' ', rest.dropWhile Text.isSpace)
    else none
  | _ => none

/-- An item, which is a task when its text starts with a box. -/
def itemOf (blocks : List Content) : Content :=
  match blocks with
  | .paragraph (.text chars :: more) :: rest =>
    match box? chars with
    | some (done, chars) => .item (some done) (.paragraph (.text chars :: more) :: rest)
    | none => .item none blocks
  | _ => .item none blocks

mutual

/-- A block with its tasks. -/
def withTasks : Content → Content
  | .quote blocks => .quote (allWithTasks blocks)
  | .list marker tight items => .list marker tight (allWithTasks items)
  | .item _ blocks => itemOf (allWithTasks blocks)
  | block => block

/-- Blocks with their tasks. -/
def allWithTasks : List Content → List Content
  | [] => []
  | block :: more => withTasks block :: allWithTasks more

end

/-- The document of a text. -/
def read (text : List Char) : List Content :=
  let (blocks, known) := readBlocks text
  let refs : References := ⟨known, max referenceLimit (Text.byteLength text)⟩
  let readContent (written : List Char) : StateM Nat (List Inline) :=
    fun spent => Inline.read refs spent written
  let (blocks, _) := (Block.mapAllM readContent blocks).run 0
  Id.run (Block.mapAllM (fun content => pure (Autolink.linkAllMail content)) (allWithTasks blocks))

end Document

end ApiPages.Markdown
