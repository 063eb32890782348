import ApiPages.Markdown.Html
import ApiPages.Markdown.Render

/-!
# The standard engine

Markdown is read as a document and written as HTML, and code is coloured by
its grammar alone. This is what the program runs with; nothing that uses
Markdown depends on it.
-/

namespace ApiPages.Markdown

namespace Highlighter

/-- A character of highlighted code. -/
def codeChar (c : Char) : List Char :=
  if c == '\'' then "&#39;".toList else Text.markdownChar c

/-- The classes of a scope. -/
def scopeClasses (scope : String) : List Char :=
  scope.toList.map fun c => if c == '.' then ' ' else c

/-- Code as one span with the scope of its grammar. Its words get no spans of
their own: which scopes a grammar gives to keywords, names and comments is left
out, so this colours the whole text alike. -/
def grammarSpan : Highlighter where
  write language literal :=
    if literal.isEmpty then []
    else
      let grammar := (Grammar.find? language).getD Grammar.plainText
      "<span class=\"".toList ++ scopeClasses grammar.scope ++ "\">".toList
        ++ literal.flatMap codeChar ++ "</span>".toList

end Highlighter

namespace Engine

/-- Documents as HTML, with the code in them as a highlighter writes it when
there is one. -/
def ofHighlighter (highlighter : Option Highlighter) : Engine where
  html text := String.ofList (Html.document highlighter (Document.read text.toList))

/-- The engine of the program, which highlights code or leaves it plain. -/
def standard (highlight : Bool) : Engine :=
  ofHighlighter (if highlight then some .grammarSpan else none)

end Engine

/-- Whether code is highlighted tells which engine is meant. -/
instance : Coe Bool Engine := ⟨Engine.standard⟩

end ApiPages.Markdown
