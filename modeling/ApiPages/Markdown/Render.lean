import ApiPages.Text.Blank
import ApiPages.Text.List

/-!
# Markdown as HTML

Markdown is written by an engine, whichever it is. Text that is meant for a
line is written without the tags of its paragraph, when it is one paragraph
and nothing else.
-/

namespace ApiPages.Markdown

/-- What writes Markdown as HTML, with its code highlighted or plain. -/
structure Engine where
  /-- The HTML of a text that is not blank. -/
  html : String → String

/-- A text as HTML; blank text is empty. -/
def render (engine : Engine) (text : String) : String :=
  if Text.isBlankText text then "" else engine.html text

/-- The tags around a paragraph. -/
def paragraphTags : List Char × List Char := ("<p>".toList, "</p>".toList)

/-- What stands in a paragraph, when a text is one paragraph and no other
starts in it. Blanks after it do not count. -/
def soleParagraph? (html : List Char) : Option (List Char) := do
  let (opening, closing) := paragraphTags
  let inner ← Text.dropWord? opening (Text.dropEndWhile Text.isBlank html)
  let reversed ← Text.dropWord? closing.reverse inner.reverse
  let inner := reversed.reverse
  if Text.hasWord opening inner then none else some inner

/-- HTML without the tags of its only paragraph. -/
def unwrapParagraph (html : String) : String :=
  match soleParagraph? html.toList with
  | some inner => String.ofList inner
  | none => html

/-- A text as HTML that belongs into a line. -/
def renderInline (engine : Engine) (text : String) : String :=
  unwrapParagraph (render engine text)

end ApiPages.Markdown
