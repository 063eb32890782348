import ApiPages.Markdown.Definition
import ApiPages.Markdown.Inline.Autolink
import ApiPages.Markdown.Inline.Code
import ApiPages.Markdown.Inline.Emphasis
import ApiPages.Markdown.Inline.Scan

/-!
# Reading inline content

`Inline.read` reads a text from its start to its end. Each step reads one
thing — code, a tag, an address, a run of marks, a bracket, plain text —
and answers how many characters belong to it after its first one. A
closing bracket makes a link or an image of what stands after its opening
bracket, when a target follows. Emphasis is settled within each link, and
at the end for the whole text.
-/

namespace ApiPages.Markdown

/-- The definitions that links refer to, and how many bytes all links of a
text together may take from them. -/
structure References where
  known : Definitions
  limit : Nat

/-- A text that is being read. -/
structure Reading where
  /-- The text so far in reverse order. -/
  before : List Char
  /-- How many characters that are. -/
  position : Nat
  /-- What was read in reverse order. -/
  items : List Item
  /-- Whether a bracket stood later than any closing one. -/
  inBrackets : Bool
  /-- Whether a link was made since the last opening bracket of a link. -/
  linkMade : Bool
  /-- The kinds of markup that were not closed. -/
  unclosed : List Scan.Markup
  /-- Where backticks were seen. -/
  ticks : Code.Notes
  /-- The bytes that links took from definitions. -/
  spent : Nat

namespace Reading

/-- The reading of a text that has not begun. -/
def start (spent : Nat) : Reading := ⟨[], 0, [], false, true, [], ⟨false, []⟩, spent⟩

/-- Adds inline content. -/
def push (r : Reading) (piece : Inline) : Reading := { r with items := .node piece :: r.items }

/-- Adds text. -/
def pushText (r : Reading) (chars : List Char) : Reading := r.push (.text chars)

/-! ## Text and line ends -/

/-- Whether a character ends a stretch of plain text. -/
def isSpecial (c : Char) : Bool := "\n_*\x60\\&<[]!:w~".toList.contains c

/-- Whether a line break was read last. -/
def afterBreak (r : Reading) : Bool :=
  match r.items with
  | .node .lineBreak :: _ => true
  | _ => false

/-- A stretch of plain text from `c` on. Blanks at the end of a line and
those after a line break do not count. -/
def plain (r : Reading) (c : Char) (cs : List Char) : Reading × Nat :=
  let more := cs.takeWhile fun d => !isSpecial d
  let written := c :: more
  let written :=
    if (cs.drop more.length).head? == some '\n' then Text.dropEndWhile Text.isSpace written
    else written
  let written := if r.afterBreak then written.dropWhile Text.isSpace else written
  (r.pushText written, more.length)

/-- A line end: a break when two spaces stand before it. -/
def lineEnd (r : Reading) (cs : List Char) : Reading × Nat :=
  let piece := if r.before.take 2 = [' ', ' '] then Inline.lineBreak else .softBreak
  (r.push piece, (cs.takeWhile Text.isIndent).length)

/-- A backslash: it makes punctuation plain and a line end a break. -/
def backslash (r : Reading) (cs : List Char) : Reading × Nat :=
  match cs with
  | '\n' :: _ => (r.push .lineBreak, 1)
  | c :: _ => if Text.isAsciiPunctuation c then (r.pushText [c], 1) else (r.pushText ['\\'], 0)
  | [] => (r.pushText ['\\'], 0)

/-- An ampersand. -/
def ampersand (r : Reading) (cs : List Char) : Reading × Nat :=
  match reference? cs with
  | some (chars, rest) => (r.pushText chars, cs.length - rest.length)
  | none => (r.pushText ['&'], 0)

/-! ## Code, tags and addresses -/

/-- A run of backticks. -/
def backticks (r : Reading) (cs : List Char) : Reading × Nat :=
  let more := (cs.takeWhile (· == '\x60')).length
  let count := more + 1
  let position := r.position + count
  let alone := r.pushText (List.replicate count '\x60')
  if Code.runLimit < count || r.ticks.excludes count position then (alone, more)
  else
    match Code.search r.ticks count position [] (cs.drop more) with
    | (some written, ticks) =>
      ({ r with ticks }.push (.code (Code.normalize written)), more + written.length + count)
    | (none, ticks) => ({ alone with ticks }, more)

/-- A link to an address in angle brackets. -/
def addressLink (scheme address : List Char) : Inline :=
  let shown := decodeReferences address
  .link (scheme ++ shown) [] [.text shown]

/-- An angle bracket: an address, a tag or other markup. -/
def angle (r : Reading) (cs : List Char) : Reading × Nat :=
  match Scan.uri? cs, Scan.mail? cs with
  | some address, _ => (r.push (addressLink [] address), address.length + 1)
  | none, some address =>
    (r.push (addressLink "mailto:".toList address), address.length + 1)
  | none, none =>
    let kind := Scan.markup cs
    if r.unclosed.any (·.blocks kind) then (r.pushText ['<'], 0)
    else
      match kind.rest? cs with
      | some rest => (r.push (.html ('<' :: Scan.upTo cs rest)), cs.length - rest.length)
      | none => ({ r with unclosed := kind :: r.unclosed }.pushText ['<'], 0)

/-- Parts without the last `n` characters of their text, which stands last
in them; the parts are in reverse order. -/
def dropText (n : Nat) : List Item → List Item
  | .node (.text chars) :: more =>
    if n < chars.length then .node (.text (chars.take (chars.length - n))) :: more
    else dropText (n - chars.length) more
  | items => items

/-- A link to an address as it stands. -/
def bareLink (destination shown : List Char) : Inline := .link destination [] [.text shown]

/-- A colon: the scheme before it may start an address. -/
def colon (r : Reading) (cs : List Char) : Reading × Nat :=
  match if r.inBrackets then none else Autolink.url? r.before cs with
  | some (scheme, reached) =>
    let address := scheme ++ reached
    ({ r with items := dropText scheme.length r.items }.push (bareLink address address),
      reached.length - 1)
  | none => (r.pushText [':'], 0)

/-- The letter with which an address may start. -/
def letterW (r : Reading) (cs : List Char) : Reading × Nat :=
  match if r.inBrackets then none else Autolink.web? r.before.head? ('w' :: cs) with
  | some address =>
    (r.push (bareLink ("http://".toList ++ address) address), address.length - 1)
  | none => (r.pushText ['w'], 0)

/-! ## Emphasis -/

/-- The neighbour of a run among the characters on its side; tildes are
looked through, and the end of the text counts as a line end. -/
def neighbour (side : List Char) : Char := ((side.dropWhile (· == '~')).head?).getD '\n'

/-- A run of marks that stands between two characters. -/
def runBetween (mark : Char) (count position : Nat) (before after : Char) : Run :=
  let punctuated := Text.isPunctuation
  let opensLeft := !Text.isBlank after
    && (!punctuated after || Text.isBlank before || punctuated before)
  let closesRight := !Text.isBlank before
    && (!punctuated before || Text.isBlank after || punctuated after)
  if mark == '_' then
    ⟨mark, count, count, opensLeft && (!closesRight || punctuated before),
      closesRight && (!opensLeft || punctuated after), position⟩
  else ⟨mark, count, count, opensLeft, closesRight, position⟩

/-- A run of marks. -/
def marks (r : Reading) (mark : Char) (cs : List Char) : Reading × Nat :=
  let more := (cs.takeWhile (· == mark)).length
  let count := more + 1
  let after := neighbour (cs.drop more)
  let run := runBetween mark count (r.position + count) (neighbour r.before) after
  if run.canOpen || run.canClose then ({ r with items := .run run :: r.items }, more)
  else (r.push run.text, more)

/-! ## Links and images -/

/-- The parts with a note at their latest bracket that another one
follows. -/
def noteFollower : List Item → List Item
  | [] => []
  | .bracket b :: more => .bracket { b with followed := true } :: more
  | item :: more => item :: noteFollower more

/-- An opening bracket with the text after it. -/
def openBracket (r : Reading) (image : Bool) (after : List Char) : Reading :=
  let items := .bracket ⟨image, after, false⟩ :: noteFollower r.items
  { r with items, inBrackets := true, linkMade := r.linkMade && image }

/-- An exclamation mark, which may stand before the bracket of an image. -/
def exclamation (r : Reading) (cs : List Char) : Reading × Nat :=
  match cs with
  | '[' :: '^' :: _ => (r.pushText ['!'], 0)
  | '[' :: after => (r.openBracket true after, 1)
  | _ => (r.pushText ['!'], 0)

/-- The target in parentheses at the start of a text, and what follows
it. -/
def inlineTarget? : List Char → Option (Target × List Char)
  | '(' :: cs => do
    let (destination, afterDestination) ← Scan.destination? (Scan.blanks cs)
    let start := Scan.blanks afterDestination
    let (title, rest) :=
      match if start.length == afterDestination.length then none else Scan.title? start with
      | some rest => (Scan.upTo start rest, rest)
      | none => ([], start)
    let rest ← Scan.one? (· == ')') (Scan.blanks rest)
    return (⟨Scan.cleanDestination destination, Scan.cleanTitle title⟩, rest)
  | _ => none

/-- The label that a closing bracket refers to, and what follows it: the
label after the bracket, or else the text since the opening bracket when
no other one was opened in it. -/
def labelAt (bracket : Bracket) (cs : List Char) : Option (List Char) × List Char :=
  let written := Scan.label? cs
  let rest := (written.map (·.2)).getD cs
  if (written.map (·.1)).getD [] = [] && !bracket.followed then
    (some (Scan.upTo bracket.after (']' :: cs)), rest)
  else (written.map (·.1), rest)

/-- The bytes that a target has. -/
def targetSize (target : Target) : Nat :=
  Text.byteLength target.destination + Text.byteLength target.title

/-- The defined target of a closing bracket, what follows its label, and
the bytes that links have taken after it. -/
def definedTarget? (refs : References) (spent : Nat) (bracket : Bracket) (cs : List Char) :
    Option (Target × List Char × Nat) := do
  let (label?, rest) := labelAt bracket cs
  let target ← refs.known.lookup (Definition.key (← label?))
  let spent := spent + targetSize target
  if spent ≤ refs.limit then some (target, rest, spent) else none

/-- What was read since the latest opening bracket, the bracket, and what
was read before it, all in reverse order. -/
def sinceBracket? : List Item → Option (List Item × Bracket × List Item)
  | [] => none
  | .bracket b :: before => some ([], b, before)
  | item :: more => (sinceBracket? more).map fun (inner, found) => (item :: inner, found)

/-- A closing bracket. -/
def closeBracket (refs : References) (r : Reading) (cs : List Char) : Reading × Nat :=
  let r := { r with inBrackets := false }
  match sinceBracket? r.items with
  | none => (r.pushText [']'], 0)
  | some (inner, bracket, before) =>
    let alone := inner ++ .node (Item.bracket bracket).plain :: before
    let unmatched := ({ r with items := alone }.pushText [']'], 0)
    if !bracket.image && r.linkMade then unmatched
    else
      let target? := ((inlineTarget? cs).map fun (target, rest) => (target, rest, r.spent)).or
        (definedTarget? refs r.spent bracket cs)
      match target? with
      | some (target, rest, spent) =>
        let body := Item.settle inner.reverse
        let piece := if bracket.image then Inline.image target.destination target.title body
          else .link target.destination target.title body
        let linkMade := r.linkMade || !bracket.image
        ({ r with items := .node piece :: before, linkMade, spent }, cs.length - rest.length)
      | none => unmatched

/-! ## The whole text -/

/-- Reads one thing, which starts with `c`, and answers how many characters
belong to it after `c`. -/
def step (refs : References) (r : Reading) (c : Char) (cs : List Char) : Reading × Nat :=
  match c with
  | '\n' => r.lineEnd cs
  | '\x60' => r.backticks cs
  | '\\' => r.backslash cs
  | '&' => r.ampersand cs
  | '<' => r.angle cs
  | ':' => r.colon cs
  | 'w' => r.letterW cs
  | '*' | '_' | '~' => r.marks c cs
  | '[' => (r.openBracket false cs, 0)
  | ']' => r.closeBracket refs cs
  | '!' => r.exclamation cs
  | _ => r.plain c cs

/-- Reads to the end of the text. -/
def run (refs : References) (r : Reading) (cs : List Char) : Reading :=
  match cs with
  | [] => r
  | c :: cs =>
    let (next, more) := r.step refs c cs
    let next := { next with
      before := (cs.take more).reverse ++ c :: r.before
      position := r.position + 1 + more }
    run refs next (cs.drop more)
termination_by cs.length
decreasing_by simp only [List.length_drop, List.length_cons]; omega

end Reading

/-- The inline content of a text, and the bytes that its links and those
before it have taken from definitions. -/
def Inline.read (refs : References) (spent : Nat) (written : List Char) : List Inline × Nat :=
  let r := (Reading.start spent).run refs (Text.dropEndWhile Text.isSpace written)
  (Item.settle r.items.reverse, r.spent)

end ApiPages.Markdown
