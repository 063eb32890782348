import ApiPages.Json.Basic
import ApiPages.Decimal.Shortest

/-!
# The compact text of a JSON value

No blanks, keys in their order, and of a string's characters only the quote,
the backslash and the control characters escaped.
-/

namespace ApiPages

/-- A number as it is written. -/
def Number.text : Number → String
  | .whole i => toString i
  | .double x => x.text

namespace Json

/-- The last two digits of a number in hexadecimal. -/
def hexPair (n : Nat) : List Char :=
  let digit (d : Nat) : Char := Char.ofNat (if d < 10 then 0x30 + d else 0x57 + d)
  [digit (n / 16 % 16), digit (n % 16)]

/-- One character inside a JSON string. -/
def escapeChar (c : Char) : List Char :=
  if c == '"' then ['\\', '"']
  else if c == '\\' then ['\\', '\\']
  else if c == '\n' then ['\\', 'n']
  else if c == '\r' then ['\\', 'r']
  else if c == '\t' then ['\\', 't']
  else if c.toNat == 8 then ['\\', 'b']
  else if c.toNat == 12 then ['\\', 'f']
  else if c.toNat < 0x20 then ['\\', 'u', '0', '0'] ++ hexPair c.toNat
  else [c]

/-- A string as a JSON string. -/
def stringText (s : String) : String :=
  String.ofList ('"' :: s.toList.flatMap escapeChar ++ ['"'])

mutual

/-- The compact text of a value. -/
def text : Json → String
  | null => "null"
  | bool true => "true"
  | bool false => "false"
  | number n => n.text
  | string s => stringText s
  | array items => "[" ++ itemsText items ++ "]"
  | object fields => "\x7b" ++ fieldsText fields ++ "\x7d"

/-- Items with commas between them. -/
def itemsText : List Json → String
  | [] => ""
  | [v] => v.text
  | v :: more => v.text ++ "," ++ itemsText more

/-- Fields with commas between them. -/
def fieldsText : List (String × Json) → String
  | [] => ""
  | [(k, v)] => stringText k ++ ":" ++ v.text
  | (k, v) :: more => stringText k ++ ":" ++ v.text ++ "," ++ fieldsText more

end

end Json

end ApiPages
