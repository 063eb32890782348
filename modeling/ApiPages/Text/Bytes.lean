import ApiPages.Text.List

/-!
# Places in bytes

A place in a text may be given by the bytes that UTF-8 takes for what stands
before it. A word is looked up as such a place (`byteIndex?`), and a text is
cut at one (`fromByte`), which only works between two characters.
-/

namespace ApiPages.Text

/-- A byte at which a text cannot be cut: it is inside a character or behind
the end. -/
structure BadCut where
  byte : Nat
  deriving DecidableEq, Repr

/-- The bytes before the first occurrence of a word, when it occurs. -/
def byteIndex? (word cs : List Char) : Option Nat :=
  (cutAt? word cs).map fun cut => byteLength cut.1

/-- What stands in a text from a byte on. -/
def fromByte (byte : Nat) (cs : List Char) : Except BadCut (List Char) :=
  go byte cs
where
  /-- Walks the text with the bytes that are left to pass. -/
  go : Nat → List Char → Except BadCut (List Char)
    | 0, cs => .ok cs
    | _ + 1, [] => .error ⟨byte⟩
    | left + 1, c :: cs =>
      if c.utf8Size ≤ left + 1 then go (left + 1 - c.utf8Size) cs else .error ⟨byte⟩

end ApiPages.Text
