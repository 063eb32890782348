import ApiPages.Text.Blank

/-!
# Inline content

What stands inside a paragraph, a heading or a cell of a table. `plain` is
the text of it alone, which is what an image shows when it cannot be seen.
-/

namespace ApiPages.Markdown

/-- A piece of inline content. -/
inductive Inline where
  | text (chars : List Char)
  | code (chars : List Char)
  /-- A tag or comment of HTML, as written. -/
  | html (chars : List Char)
  | softBreak
  | lineBreak
  | emphasis (body : List Inline)
  | strong (body : List Inline)
  | strikethrough (body : List Inline)
  | link (destination title : List Char) (body : List Inline)
  | image (destination title : List Char) (body : List Inline)
  deriving Repr

namespace Inline

/-- Inline content with its neighbouring texts joined, and without empty
ones. -/
def joinTexts : List Inline → List Inline
  | [] => []
  | text chars :: more =>
    match joinTexts more with
    | text next :: rest => text (chars ++ next) :: rest
    | rest => if chars.isEmpty then rest else text chars :: rest
  | piece :: more => piece :: joinTexts more

end Inline

end ApiPages.Markdown
