import ApiPages.Link.Index
import ApiPages.Text.Blank

/-!
# References in doc comments

A reference such as `@link` in braces names a symbol, perhaps a member of
it, and may carry a label. In Markdown it becomes a link when the symbol is
known, and otherwise the label alone: as code, or as plain text for
`@linkplain`. Everything else in a text stays as it is.
-/

namespace ApiPages.Link

/-- A reference as it stands in a text. -/
structure Reference where
  /-- Whether the label is shown as plain text, not as code. -/
  plain : Bool
  target : List Char
  label : List Char
  deriving DecidableEq, Repr

/-- The words that begin a reference, with whether each is the plain
one. -/
def referenceWords : List (List Char × Bool) :=
  [("\x7b@link".toList, false), ("\x7b@linkcode".toList, false), ("\x7b@linkplain".toList, true)]

/-- The first word with a blank after it; answers what follows the
word. -/
def openReference? (cs : List Char) : Option (Bool × List Char) :=
  referenceWords.findSome? fun (word, plain) =>
    match Text.dropWord? word cs with
    | some (c :: rest) => if Text.isBlank c then some (plain, c :: rest) else none
    | _ => none

/-- Whether a character may stand in a target. -/
def isTargetChar (c : Char) : Bool := c != '\x7d' && c != '|' && !Text.isBlank c

/-- What follows the separator after a target: blanks, or a bar with blanks
around it. -/
def dropSeparator (cs : List Char) : List Char :=
  match cs.dropWhile Text.isBlank with
  | '|' :: rest => rest.dropWhile Text.isBlank
  | rest => rest

/-- The reference that a text starts with, and what follows it. -/
def reference? (cs : List Char) : Option (Reference × List Char) := do
  let (plain, rest) ← openReference? cs
  let rest := rest.dropWhile Text.isBlank
  let target := rest.takeWhile isTargetChar
  if target.isEmpty then none
  else
    let rest := dropSeparator (rest.dropWhile isTargetChar)
    match rest.dropWhile (· != '\x7d') with
    | [] => none
    | _ :: after =>
      let label := Text.trimWhile Text.isBlank (rest.takeWhile (· != '\x7d'))
      some (⟨plain, target, if label.isEmpty then target else label⟩, after)

/-- The symbol and the member of a target: they are apart at the first dot
or hash. -/
def splitTarget (target : List Char) : String × Option String :=
  let isMark (c : Char) : Bool := c == '.' || c == '#'
  let symbol := String.ofList (target.takeWhile fun c => !isMark c)
  match target.dropWhile fun c => !isMark c with
  | _ :: c :: cs => (symbol, some (String.ofList (c :: cs)))
  | _ => (symbol, none)

/-- A label with its square brackets escaped. -/
def escapeBrackets (label : List Char) : List Char :=
  label.flatMap fun c => if c == '[' || c == ']' then ['\\', c] else [c]

/-- A label between backticks. -/
def asCode (label : List Char) : List Char := '\x60' :: label ++ ['\x60']

/-- The Markdown of a reference. -/
def Reference.markdown (site : Site) (r : Reference) : List Char :=
  let (symbol, member) := splitTarget r.target
  let label := if r.plain then escapeBrackets r.label else asCode r.label
  match site.href? symbol member with
  | some href => '[' :: label ++ [']', '('] ++ href.toList ++ [')']
  | none => if r.plain then label else asCode (Text.trimWhile (· == '\x60') label)

/-- A word that is dropped makes a text no longer, so that the reader of references ends. -/
theorem length_dropWord? {word cs rest : List Char} (h : Text.dropWord? word cs = some rest) :
    rest.length ≤ cs.length := by
  rw [Text.eq_append_of_dropWord? h]; simp

theorem length_dropWhile_le (p : Char → Bool) (cs : List Char) :
    (cs.dropWhile p).length ≤ cs.length := (List.dropWhile_suffix p).length_le

/-- After the opening of a reference there is no more text than before it. -/
theorem length_openReference? {cs : List Char} {plain : Bool} {rest : List Char}
    (h : openReference? cs = some (plain, rest)) : rest.length ≤ cs.length := by
  obtain ⟨⟨word, p⟩, _, hw⟩ := List.exists_of_findSome?_eq_some h
  dsimp only at hw
  split at hw
  · next c r hd =>
    split at hw
    · obtain ⟨_, rfl⟩ : p = plain ∧ c :: r = rest := by simpa using hw
      exact length_dropWord? hd
    · simp at hw
  · simp at hw

/-- After a separator there is no more text than before it. -/
theorem length_dropSeparator_le (cs : List Char) : (dropSeparator cs).length ≤ cs.length := by
  have h := length_dropWhile_le Text.isBlank cs
  unfold dropSeparator
  split
  · next rest hd =>
    have := length_dropWhile_le Text.isBlank rest
    rw [hd] at h
    simp at h
    omega
  · exact h

/-- A reference takes part of the text. -/
theorem length_reference? {cs : List Char} {r : Reference} {after : List Char}
    (h : reference? cs = some (r, after)) : after.length < cs.length := by
  unfold reference? at h
  obtain ⟨⟨plain, rest⟩, ho, h⟩ := Option.bind_eq_some_iff.1 h
  dsimp only at h
  split at h
  · simp at h
  · split at h
    · simp at h
    · next c a hd =>
      obtain ⟨_, rfl⟩ : _ ∧ a = after := by simpa using h
      have h1 := length_openReference? ho
      have h2 := length_dropWhile_le Text.isBlank rest
      have h3 := length_dropWhile_le isTargetChar (rest.dropWhile Text.isBlank)
      have h4 := length_dropSeparator_le ((rest.dropWhile Text.isBlank).dropWhile isTargetChar)
      have h5 := length_dropWhile_le (· != '\x7d')
        (dropSeparator ((rest.dropWhile Text.isBlank).dropWhile isTargetChar))
      rw [hd] at h5
      simp at h5
      omega

/-- The text with the Markdown of each reference in its place. -/
def resolveChars (site : Site) (cs : List Char) : List Char :=
  match _h : reference? cs with
  | some (r, after) => r.markdown site ++ resolveChars site after
  | none =>
    match cs with
    | [] => []
    | c :: cs => c :: resolveChars site cs
termination_by cs.length
decreasing_by
  · exact length_reference? _h
  · simp

/-- A doc comment with its references as Markdown. -/
def resolveReferences (site : Site) (text : String) : String :=
  String.ofList (resolveChars site text.toList)

end ApiPages.Link
