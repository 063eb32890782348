import ApiPages.Text.Alphanumeric
import ApiPages.Text.List

/-!
# Percent-encoding of paths

A path's segments are encoded one by one: letters, digits, `-`, `_`, `.`
and `~` stand for themselves, and every other byte is written as `%` and two
capital hexadecimal digits.
-/

namespace ApiPages.Link

/-- A digit of a percent escape. -/
def hexDigit (n : Nat) : Char := Char.ofNat (if n < 10 then 0x30 + n else 0x37 + n)

/-- A byte as a percent escape. -/
def percentByte (b : UInt8) : List Char :=
  ['%', hexDigit (b.toNat / 16), hexDigit (b.toNat % 16)]

/-- The characters that a segment of a path keeps. -/
def isUnreserved (c : Char) : Bool :=
  Text.isAsciiAlphanumeric c || c == '-' || c == '_' || c == '.' || c == '~'

/-- One character of a segment. -/
def percentChar (c : Char) : List Char :=
  if isUnreserved c then [c] else (String.utf8EncodeChar c).flatMap percentByte

/-- A path with its segments encoded. -/
def encodePath (path : String) : String :=
  String.ofList (Text.joinWith ['/']
    ((Text.splitOn '/' path.toList).map fun segment => segment.flatMap percentChar))

end ApiPages.Link
