/-!
# Blocks

The structure of a text: what its lines are. A block holds its contents as
some type, which is first the written text and then inline content;
`Block.mapM` turns the one into the other.
-/

namespace ApiPages.Markdown

/-- What stands before the items of a list. -/
inductive Marker where
  /-- A star, plus or hyphen. -/
  | bullet (mark : Char)
  /-- A number, of which the first one counts, and a point or
  parenthesis. -/
  | ordered (start : Nat) (mark : Char)
  deriving DecidableEq, Repr

/-- Whether two markers belong to one list. -/
def Marker.continues : Marker → Marker → Bool
  | bullet a, bullet b => a == b
  | ordered _ a, ordered _ b => a == b
  | _, _ => false

/-- How the cells of a column stand. -/
inductive Alignment where
  | unset | left | center | right
  deriving DecidableEq, Repr

/-- A block whose contents are of a type. -/
inductive Block (α : Type) where
  | quote (blocks : List (Block α))
  /-- The items of a tight list have no space between their paragraphs. -/
  | list (marker : Marker) (tight : Bool) (items : List (Block α))
  /-- An item; a task is done or not. -/
  | item (task : Option Bool) (blocks : List (Block α))
  | paragraph (content : α)
  | heading (level : Nat) (content : α)
  | code (info literal : List Char)
  /-- HTML, which is never shown. -/
  | html
  | rule
  | table (columns : List Alignment) (header : List α) (rows : List (List α))
  deriving Repr

namespace Block

variable {α β : Type} {m : Type → Type} [Monad m]

mutual

/-- The block with `f` run on its contents, in their order. -/
def mapM (f : α → m β) : Block α → m (Block β)
  | quote blocks => return quote (← mapAllM f blocks)
  | list marker tight items => return list marker tight (← mapAllM f items)
  | item task blocks => return item task (← mapAllM f blocks)
  | paragraph content => return paragraph (← f content)
  | heading level content => return heading level (← f content)
  | code info literal => return code info literal
  | html => return html
  | rule => return rule
  | table columns header rows => do
    let header ← header.mapM f
    let rows ← rows.mapM (·.mapM f)
    return table columns header rows

/-- The blocks with `f` run on their contents, in their order. -/
def mapAllM (f : α → m β) : List (Block α) → m (List (Block β))
  | [] => return []
  | block :: more => do
    let block ← mapM f block
    return block :: (← mapAllM f more)

end

end Block

end ApiPages.Markdown
