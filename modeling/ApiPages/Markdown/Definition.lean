import ApiPages.Text.Lowercase
import ApiPages.Markdown.Inline.Scan

/-!
# Definitions of links

A paragraph may start with definitions such as `[label]: destination
"title"`. They write nothing; links of the whole text refer to them by
their labels, whatever the case and the blanks of the label. The first
definition of a label counts.
-/

namespace ApiPages.Markdown

/-- Where a link leads. -/
structure Target where
  destination : List Char
  title : List Char
  deriving Repr

/-- The definitions of a text, the first one last. -/
abbrev Definitions := List (List Char × Target)

namespace Definition

/-- Blanks as single spaces. -/
def collapse : List Char → List Char
  | [] => []
  | [c] => if Text.isBlank c then [' '] else [c]
  | c :: d :: cs =>
    if Text.isBlank c then
      if Text.isBlank d then collapse (d :: cs) else ' ' :: collapse (d :: cs)
    else c :: collapse (d :: cs)

/-- The form of a label by which definitions are found. -/
def key (label : List Char) : List Char :=
  Text.foldCase (collapse (Text.trimWhile Text.isSpace label))

/-- What follows a line end, with spaces and tabs on either side of it. -/
def skipLineEnd (cs : List Char) : List Char :=
  match cs.dropWhile Text.isIndent with
  | '\n' :: rest => rest.dropWhile Text.isIndent
  | rest => rest

/-- What follows the rest of a line, when only spaces and tabs are on
it. -/
def lineRest? (cs : List Char) : Option (List Char) :=
  match cs.dropWhile Text.isIndent with
  | '\n' :: rest => some rest
  | [] => some []
  | _ => none

/-- The written title after a destination, and what follows it. -/
def titleAfter? (cs : List Char) : Option (List Char × List Char) :=
  let start := skipLineEnd cs
  if start.length == cs.length then none
  else (Scan.title? start).map fun rest => (Scan.upTo start rest, rest)

/-- The definition at the start of a text: its label, its target, and what
follows its last line. A title that other text follows on its line is also
the start of the next paragraph. -/
def first? (cs : List Char) : Option (List Char × Target × List Char) := do
  let (label, rest) ← Scan.label? cs
  guard !label.isEmpty
  let rest ← Scan.one? (· == ':') rest
  let (destination, afterDestination) ← Scan.destination? (skipLineEnd rest)
  let (title, afterTitle) := (titleAfter? afterDestination).getD ([], afterDestination)
  let rest ← (lineRest? afterTitle).or
    (if title.isEmpty then none else lineRest? afterDestination)
  let target := ⟨Scan.cleanDestination destination, Scan.cleanTitle title⟩
  return (key label, target, rest)

/-- Reads the definitions at the start of a paragraph, as many as `fuel`
allows, and answers what is left of it. -/
def readAll (known : Definitions) (cs : List Char) : Nat → Definitions × List Char
  | 0 => (known, cs)
  | fuel + 1 =>
    match first? cs with
    | some (label, target, rest) =>
      let isNew := !label.isEmpty && (known.lookup label).isNone
      readAll (if isNew then (label, target) :: known else known) rest fuel
    | none => (known, cs)

/-- The definitions at the start of a paragraph added to the known ones,
and what is left of the paragraph. -/
def take (known : Definitions) (paragraph : List Char) : Definitions × List Char :=
  readAll known paragraph paragraph.length

/-- Whether nothing stands on the first line of a text. -/
def isBlankStart (cs : List Char) : Bool := (lineRest? cs).isSome

end Definition

end ApiPages.Markdown
