import ApiPages.Text.List
import ApiPages.Text.Blank
import ApiPages.Text.Punctuation
import ApiPages.Markdown.Entity

/-!
# Scanners

Each scanner looks at the start of a text and answers what follows there,
or nothing when the text starts otherwise. Where several readings are
possible the longest counts.
-/

namespace ApiPages.Markdown.Scan

/-- The start of a text up to a rest of it. -/
def upTo (cs rest : List Char) : List Char := cs.take (cs.length - rest.length)

/-- A character of a class. -/
def one? (p : Char → Bool) : List Char → Option (List Char)
  | c :: cs => if p c then some cs else none
  | [] => none

/-- A word, whatever the case of its letters; the word is in small
letters. -/
def wordAnyCase? (word cs : List Char) : Option (List Char) :=
  if (cs.take word.length).map Text.asciiLower = word then some (cs.drop word.length) else none

/-- What follows the blanks. -/
def blanks (cs : List Char) : List Char := cs.dropWhile Text.isSpace

/-- At least one blank. -/
def someBlanks? (cs : List Char) : Option (List Char) := (one? Text.isSpace cs).map blanks

/-! ## Destinations and titles -/

/-- The rest of a destination in angle brackets, up to the closing one. A
backslash takes the next character along. -/
def angleRest? : List Char → Option (List Char)
  | '>' :: cs => some cs
  | '\\' :: _ :: cs => angleRest? cs
  | c :: cs => if Text.isLineEnd c || c == '<' then none else angleRest? cs
  | [] => none

/-- The most parentheses that may be open in a destination. -/
def parenthesisLimit : Nat := 32

/-- A destination without angle brackets, with as many parentheses open as
`depth` says. It ends at a blank, a control character, or a parenthesis
that closes none; it may not run to the end of the text. -/
def bareRest? (depth : Nat) : List Char → Option (List Char)
  | [] => none
  | '\\' :: d :: cs =>
    if Text.isAsciiPunctuation d then bareRest? depth cs else bareRest? depth (d :: cs)
  | '(' :: cs => if depth < parenthesisLimit then bareRest? (depth + 1) cs else none
  | ')' :: cs => if depth == 0 then some (')' :: cs) else bareRest? (depth - 1) cs
  | c :: cs =>
    if Text.isSpace c || c.toNat < 0x20 || c.toNat == 0x7F then
      if depth == 0 then some (c :: cs) else none
    else bareRest? depth cs

/-- A destination, as written between its angle brackets or bare, and what
follows it. -/
def destination? : List Char → Option (List Char × List Char)
  | '<' :: cs =>
    match angleRest? cs with
    | some (d :: rest) => some ((upTo cs (d :: rest)).dropLast, d :: rest)
    | _ => none
  | cs =>
    match bareRest? 0 cs with
    | some rest =>
      let written := upTo cs rest
      if written.isEmpty && rest.head? != some ')' then none else some (written, rest)
    | none => none

/-- The rest of a title: the first closing mark that no backslash stands
before, or else the last one. `best` is what follows the last closing mark
so far, and `escaped` whether a backslash came just before. -/
def titleRest? (isOpen isClose : Char → Bool) (best : Option (List Char)) (escaped : Bool) :
    List Char → Option (List Char)
  | [] => best
  | c :: cs =>
    if isClose c then
      if escaped then titleRest? isOpen isClose (some cs) false cs else some cs
    else if isOpen c && !escaped then best
    else titleRest? isOpen isClose best (c == '\\') cs

/-- A title in quotes, apostrophes or parentheses. -/
def title? : List Char → Option (List Char)
  | '"' :: cs => titleRest? (fun _ => false) (· == '"') none false cs
  | '\'' :: cs => titleRest? (fun _ => false) (· == '\'') none false cs
  | '(' :: cs => titleRest? (· == '(') (· == ')') none false cs
  | _ => none

/-- What a written destination stands for. -/
def cleanDestination (written : List Char) : List Char :=
  plainText (Text.trimWhile Text.isSpace written)

/-- What a written title stands for. -/
def cleanTitle : List Char → List Char
  | [] => []
  | c :: cs =>
    match c, cs.getLast? with
    | '"', some '"' | '\'', some '\'' | '(', some ')' => plainText cs.dropLast
    | _, _ => plainText (c :: cs)

/-! ## Labels -/

/-- The most bytes that a label may have. -/
def labelLimit : Nat := 1000

/-- The rest of a label up to its closing bracket; `size` is how many bytes
came before. -/
def labelRest? (size : Nat) : List Char → Option (List Char)
  | [] => none
  | ']' :: cs => some cs
  | '[' :: _ => none
  | '\\' :: d :: cs =>
    if Text.isAsciiPunctuation d then
      if size + 2 > labelLimit then none else labelRest? (size + 2) cs
    else if size + 1 > labelLimit then none
    else labelRest? (size + 1) (d :: cs)
  | c :: cs =>
    if size + c.utf8Size > labelLimit then none else labelRest? (size + c.utf8Size) cs

/-- A label in brackets, without them and trimmed, and what follows it. -/
def label? : List Char → Option (List Char × List Char)
  | '[' :: cs =>
    (labelRest? 0 cs).map fun rest =>
      (Text.trimWhile Text.isSpace (upTo cs rest).dropLast, rest)
  | _ => none

/-! ## Tags -/

/-- A character of a tag's name. -/
def isTagChar (c : Char) : Bool := Text.isAsciiAlphanumeric c || c == '-'

/-- The name of a tag. -/
def tagName? (cs : List Char) : Option (List Char) :=
  (one? Text.isAsciiLetter cs).map (·.dropWhile isTagChar)

/-- The name of an attribute. -/
def attributeName? (cs : List Char) : Option (List Char) :=
  (one? (fun c => Text.isAsciiLetter c || c == '_' || c == ':') cs).map
    (·.dropWhile fun c =>
      Text.isAsciiAlphanumeric c || c == '_' || c == ':' || c == '.' || c == '-')

/-- Whether a value without quotes may hold the character. -/
def isBareValueChar (c : Char) : Bool :=
  !(Text.isSpace c || c == '"' || c == '\'' || c == '=' || c == '<' || c == '>' || c == '\x60')

/-- The value of an attribute. -/
def attributeValue? : List Char → Option (List Char)
  | '"' :: cs => one? (· == '"') (cs.dropWhile (· != '"'))
  | '\'' :: cs => one? (· == '\'') (cs.dropWhile (· != '\''))
  | cs => (one? isBareValueChar cs).map (·.dropWhile isBareValueChar)

/-- The equals sign and the value after it, when both are there. -/
def attributeTail (cs : List Char) : List Char :=
  match blanks cs with
  | '=' :: rest => (attributeValue? (blanks rest)).getD cs
  | _ => cs

/-- One attribute with the blanks before it. -/
def attribute? (cs : List Char) : Option (List Char) :=
  ((someBlanks? cs).bind attributeName?).map attributeTail

/-- What follows the attributes; looked for as often as `fuel` says. -/
def attributes (cs : List Char) : Nat → List Char
  | 0 => cs
  | fuel + 1 =>
    match attribute? cs with
    | some rest => attributes rest fuel
    | none => cs

/-- The rest of an opening tag. -/
def openTag? (cs : List Char) : Option (List Char) := do
  let rest ← tagName? cs
  let rest := blanks (attributes rest rest.length)
  match rest with
  | '/' :: '>' :: rest => some rest
  | '>' :: rest => some rest
  | _ => none

/-- The rest of a closing tag, from its slash on. -/
def closeTag? : List Char → Option (List Char)
  | '/' :: cs => do
    let rest ← tagName? cs
    one? (· == '>') (blanks rest)
  | _ => none

/-- The rest of a tag after its angle bracket. -/
def tag? (cs : List Char) : Option (List Char) := (openTag? cs).or (closeTag? cs)

/-! ## Comments and other markup of HTML -/

/-- The rest after a closing word of three characters, `mark` twice and
`>`. Three marks in a row are passed over. -/
def afterTwice? (mark : Char) : List Char → Option (List Char)
  | [] => none
  | c :: cs =>
    if c != mark then afterTwice? mark cs
    else
      match cs with
      | d :: e :: rest =>
        if d != mark then afterTwice? mark (e :: rest)
        else if e == '>' then some rest
        else afterTwice? mark rest
      | _ => none

/-- The rest of a comment after `!--`. -/
def commentRest? : List Char → Option (List Char)
  | '>' :: cs => some cs
  | '-' :: '>' :: cs => some cs
  | cs => afterTwice? '-' cs

/-- The rest of a processing instruction after its first question mark; of
two question marks in a row neither closes it. -/
def instructionRest? : List Char → Option (List Char)
  | '?' :: '>' :: cs => some cs
  | '?' :: _ :: cs => instructionRest? cs
  | _ :: cs => instructionRest? cs
  | [] => none

/-- The rest of a declaration after its exclamation mark. -/
def declarationRest? (cs : List Char) : Option (List Char) := do
  let rest ← one? Text.isAsciiLetter cs
  one? (· == '>') (rest.dropWhile (· != '>'))

/-- What an angle bracket may open. -/
inductive Markup where
  | comment | characterData | declaration | instruction | tag
  deriving DecidableEq, Repr

/-- What the angle bracket before a text opens, if anything. -/
def markup : List Char → Markup
  | '!' :: '-' :: '-' :: _ => .comment
  | '!' :: '[' :: cs => if (Text.dropWord? "CDATA[".toList cs).isSome then .characterData else .tag
  | '!' :: c :: _ => if Text.isAsciiLetter c then .declaration else .tag
  | '?' :: '?' :: '>' :: _ => .tag
  | '?' :: _ => .instruction
  | _ => .tag

/-- What follows the markup whose angle bracket stands before the text. -/
def Markup.rest? : Markup → List Char → Option (List Char)
  | .comment, cs => commentRest? (cs.drop 3)
  | .characterData, cs => afterTwice? ']' (cs.drop 8)
  | .declaration, cs => declarationRest? (cs.drop 1)
  | .instruction, cs => instructionRest? (cs.drop 1)
  | .tag, cs => tag? cs

/-- Whether markup that was not closed keeps other markup from being read:
that of its own kind, and after a comment all that starts with an
exclamation mark. -/
def Markup.blocks : Markup → Markup → Bool
  | .tag, _ => false
  | .comment, other => other == .comment || other == .characterData || other == .declaration
  | kind, other => kind == other

/-! ## Addresses in angle brackets -/

/-- Whether a scheme may hold the character after its first letter. -/
def isSchemeChar (c : Char) : Bool :=
  Text.isAsciiAlphanumeric c || c == '.' || c == '+' || c == '-'

/-- An address with a scheme, when a closing bracket follows it. -/
def uri? (cs : List Char) : Option (List Char) :=
  let scheme := cs.takeWhile isSchemeChar
  if (cs.head?.any Text.isAsciiLetter) && 2 ≤ scheme.length && scheme.length ≤ 32 then
    match cs.drop scheme.length with
    | ':' :: after =>
      let address := after.takeWhile fun c => c.toNat > 0x20 && c != '<' && c != '>'
      if (after.drop address.length).head? == some '>' then some (scheme ++ ':' :: address)
      else none
    | _ => none
  else none

/-- Whether the part before the `@` may hold the character. -/
def isMailChar (c : Char) : Bool :=
  Text.isAsciiAlphanumeric c || ".!#$%&'*+/=?^_\x60\x7b|\x7d~-".toList.contains c

/-- Whether a text is a label of a host: letters, digits and inner hyphens,
at most 63 of them. -/
def isHostLabel (cs : List Char) : Bool :=
  cs.all isTagChar && cs.head? != some '-' && cs.getLast? != some '-' && !cs.isEmpty
    && cs.length ≤ 63

/-- A mail address, when a closing bracket follows it. -/
def mail? (cs : List Char) : Option (List Char) :=
  let name := cs.takeWhile isMailChar
  match cs.drop name.length with
  | '@' :: after =>
    let host := after.takeWhile fun c => isTagChar c || c == '.'
    if (after.drop host.length).head? == some '>' && !name.isEmpty
        && (Text.splitOn '.' host).all isHostLabel then
      some (name ++ '@' :: host)
    else none
  | _ => none

end ApiPages.Markdown.Scan
