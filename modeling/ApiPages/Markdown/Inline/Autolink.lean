import ApiPages.Text.List
import ApiPages.Text.Blank
import ApiPages.Text.Punctuation
import ApiPages.Text.Alphanumeric
import ApiPages.Markdown.Inline.Basic

/-!
# Bare addresses

An address needs no brackets: `https://example.org`, `www.example.org` and
`me@example.org` are links as they stand. Each function here answers how
far the address reaches; punctuation at its end belongs to the sentence.
-/

namespace ApiPages.Markdown.Autolink

/-! ## Domains -/

/-- Whether a domain may hold the character. -/
def isHostChar (c : Char) : Bool :=
  c == '-' || !(Text.isBlank c || Text.isPunctuation c)

/-- The parts of a domain that may hold no underscore, unless the domain
has more points than `underscorePoints`: the last two. -/
structure Labels where
  points : Nat
  /-- The underscores before the last point, since the point before it. -/
  earlier : Nat
  /-- The underscores since the last point. -/
  latest : Nat

/-- Above so many points a domain at the end of the text may have
underscores anywhere. -/
def underscorePoints : Nat := 10

/-- Whether a text starts with a domain; without `short` it needs a
point. -/
def startsWithDomain (short : Bool) (seen : Labels) : List Char → Bool
  | [] =>
    !(0 < seen.earlier + seen.latest && seen.points ≤ underscorePoints)
      && (short || 0 < seen.points)
  | c :: cs =>
    if c == '_' then startsWithDomain short { seen with latest := seen.latest + 1 } cs
    else if c == '.' then startsWithDomain short ⟨seen.points + 1, seen.latest, 0⟩ cs
    else if isHostChar c then startsWithDomain short seen cs
    else seen.earlier + seen.latest == 0 && (short || 0 < seen.points)

/-- Whether a text starts with a domain. -/
def hasDomain (short : Bool) (cs : List Char) : Bool := startsWithDomain short ⟨0, 0, 0⟩ cs

/-! ## The end of an address -/

/-- Whether the character at the end of an address belongs to the
sentence. -/
def isTrailing (c : Char) : Bool := "?!.,:*_~'\"".toList.contains c

/-- An address, in reverse order, without what belongs to the sentence: a
trailing mark, a character reference, and a closing parenthesis that has
no opening one. -/
def trimReversed (cs : List Char) : List Char :=
  match cs with
  | [] => []
  | c :: rest =>
    if isTrailing c then trimReversed rest
    else if c == ';' then
      let name := rest.takeWhile Text.isAsciiLetter
      match _ended : rest.drop name.length with
      | '&' :: before => if name.isEmpty then trimReversed rest else trimReversed before
      | _ => trimReversed rest
    else if c == ')' then
      if cs.count '(' < cs.count ')' then trimReversed rest else cs
    else cs
termination_by cs.length
decreasing_by
  all_goals simp only [List.length_cons]
  all_goals try omega
  all_goals
    have := congrArg List.length _ended
    simp only [List.length_drop, List.length_cons] at this
    omega

/-- The address at the start of a text that runs up to a blank or an
angle bracket. -/
def reach (cs : List Char) : List Char :=
  let run := (cs.takeWhile fun c => !Text.isSpace c).takeWhile (· != '<')
  (trimReversed run.reverse).reverse

/-! ## Web addresses -/

/-- The schemes that make an address. -/
def schemes : List (List Char) := ["http".toList, "https".toList, "ftp".toList]

/-- The scheme before a colon and the address from the colon on. `before`
is the text before the colon in reverse order, and `after` that after
it. -/
def url? (before after : List Char) : Option (List Char × List Char) :=
  let scheme := (before.takeWhile Text.isAsciiLetter).reverse
  match after with
  | '/' :: '/' :: rest =>
    if !rest.isEmpty && schemes.contains scheme && hasDomain true rest then
      some (scheme, reach (':' :: after))
    else none
  | _ => none

/-- An address that starts with `www.`, when `text` does and the character
before it allows that. -/
def web? (before? : Option Char) (text : List Char) : Option (List Char) :=
  let free := before?.all fun c => Text.isSpace c || "*_~([".toList.contains c
  match text with
  | 'w' :: 'w' :: 'w' :: '.' :: _ =>
    if free && hasDomain false text then some (reach text) else none
  | _ => none

/-! ## Mail addresses -/

/-- Whether the part before the `@` may hold the character. -/
def isNameChar (c : Char) : Bool := Text.isAsciiAlphanumeric c || ".+-_".toList.contains c

/-- The scheme of a mail address that stands before a colon, among text in
reverse order. -/
def mailScheme? (before : List Char) : Option (List Char) :=
  let word := (before.takeWhile Text.isAsciiLetter).reverse
  if word = "mailto".toList || word = "xmpp".toList then some word else none

/-- The part before the `@` in reverse order, among text in reverse order,
and the schemes in it. -/
def mailName : List Char → List Char × List (List Char)
  | [] => ([], [])
  | c :: before =>
    if isNameChar c then
      let (name, schemes) := mailName before
      (c :: name, schemes)
    else if c == ':' then
      match mailScheme? before with
      | some scheme =>
        let (name, schemes) := mailName before
        (c :: name, scheme :: schemes)
      | none => ([], [])
    else ([], [])

/-- The part after the `@`, with whether it has a point; nothing when
another `@` follows. -/
def mailHost? (slashes : Bool) : List Char → Option (List Char × Bool)
  | [] => some ([], false)
  | c :: cs =>
    if c == '.' then
      if cs.head?.any Text.isAsciiAlphanumeric then
        (mailHost? slashes cs).map fun (host, _) => (c :: host, true)
      else some ([], false)
    else if c == '@' then none
    else if Text.isAsciiAlphanumeric c || c == '-' || c == '_' || (c == '/' && slashes) then
      (mailHost? slashes cs).map fun (host, hasPoint) => (c :: host, hasPoint)
    else some ([], false)

/-- The mail address around an `@`: the part before it, in reverse order,
the part after it, and whether it names its scheme. -/
def mail? (before after : List Char) : Option (List Char × List Char × Bool) :=
  let (name, schemes) := mailName before
  match mailHost? (schemes.contains "xmpp".toList) after with
  | some (host, hasPoint) =>
    if !name.isEmpty && hasPoint && host.getLast?.any Text.isAsciiLetter then
      some (name, host, !schemes.isEmpty)
    else none
  | none => none

/-- The first mail address of a text outside of square brackets: the text
before it, the address, whether it names its scheme, and the text after
it. `before` holds what was passed over, in reverse order, and `depth` the
brackets that are open. -/
def findMail? (before : List Char) (depth : Int) :
    List Char → Option (List Char × List Char × Bool × List Char)
  | [] => none
  | c :: cs =>
    let depth := if c == '[' then depth + 1 else if c == ']' then depth - 1 else depth
    if depth ≤ 0 && c == '@' then
      match mail? before cs with
      | some (name, host, hasScheme) =>
        some ((before.drop name.length).reverse, name.reverse ++ '@' :: host, hasScheme,
          cs.drop host.length)
      | none => findMail? (c :: before) depth cs
    else findMail? (c :: before) depth cs

/-- A text as pieces with its mail addresses as links; looked for as often
as `fuel` says. -/
def mailPieces (cs : List Char) : Nat → List Inline
  | 0 => [.text cs]
  | fuel + 1 =>
    match findMail? [] 0 cs with
    | some (before, address, hasScheme, after) =>
      let destination := if hasScheme then address else "mailto:".toList ++ address
      let link := Inline.link destination [] [.text address]
      .text before :: link :: (if after.isEmpty then [] else mailPieces after fuel)
    | none => [.text cs]

mutual

/-- A piece with the mail addresses of its texts as links. Links and images
keep their texts. -/
def linkMail : Inline → List Inline
  | .text chars => mailPieces chars chars.length
  | .emphasis body => [.emphasis (linkAllMail body)]
  | .strong body => [.strong (linkAllMail body)]
  | .strikethrough body => [.strikethrough (linkAllMail body)]
  | piece => [piece]

/-- Pieces with the mail addresses of their texts as links. -/
def linkAllMail : List Inline → List Inline
  | [] => []
  | piece :: more => linkMail piece ++ linkAllMail more

end

end ApiPages.Markdown.Autolink
