import ApiPages.Json.Basic
import ApiPages.Text.List

/-!
# Reading JSON text

A strict reader: one value, with blanks around it, and nothing else. The
first flaw ends the reading, and where it stands is given as line and byte
column. A `Flaw` is a cause; `Flaw.message` words it.

Nesting is bounded by `maxDepth`, which is also what the recursion runs on:
`value d` reads a value of at most `d` levels. Inside one level the readers
of lists and objects run on the number of characters left.
-/

namespace ApiPages.Json

/-- What is wrong with a text that is not JSON. -/
inductive Flaw where
  | endInValue
  | endInList
  | endInObject
  | endInString
  | noColon
  | noListEnd
  | noObjectEnd
  | badWord
  | noValue
  | badEscape
  | badNumber
  | hugeNumber
  | controlCharacter
  | keyNotString
  | loneSurrogate
  | trailingComma
  | trailingText
  | unpairedSurrogate
  | tooDeep
  deriving DecidableEq, Repr

/-- The wording of a flaw. -/
def Flaw.message : Flaw → String
  | endInValue => "EOF while parsing a value"
  | endInList => "EOF while parsing a list"
  | endInObject => "EOF while parsing an object"
  | endInString => "EOF while parsing a string"
  | noColon => "expected `:`"
  | noListEnd => "expected `,` or `]`"
  | noObjectEnd => "expected `,` or `\x7d`"
  | badWord => "expected ident"
  | noValue => "expected value"
  | badEscape => "invalid escape"
  | badNumber => "invalid number"
  | hugeNumber => "number out of range"
  | controlCharacter => "control character (\\u0000-\\u001F) found while parsing a string"
  | keyNotString => "key must be a string"
  | loneSurrogate => "lone leading surrogate in hex escape"
  | trailingComma => "trailing comma"
  | trailingText => "trailing characters"
  | unpairedSurrogate => "unexpected end of hex escape"
  | tooDeep => "recursion limit exceeded"

/-- A flaw and the number of bytes before it. -/
structure Fault where
  flaw : Flaw
  offset : Nat
  deriving DecidableEq, Repr

/-- Where a reader stands: the characters left and the bytes read. -/
structure Cursor where
  rest : List Char
  offset : Nat

namespace Cursor

/-- Moves past characters already known to be next. -/
def skip (cur : Cursor) (n : Nat) : Cursor :=
  ⟨cur.rest.drop n, cur.offset + Text.byteLength (cur.rest.take n)⟩

/-- A flaw just before the next character. -/
def fail (cur : Cursor) (flaw : Flaw) : Except Fault α := .error ⟨flaw, cur.offset⟩

/-- A flaw at the next character, or at the end of the text. -/
def failNext (cur : Cursor) (flaw : Flaw) : Except Fault α :=
  .error ⟨flaw, if cur.rest.isEmpty then cur.offset else cur.offset + 1⟩

/-- Moves past the blanks of JSON. -/
def skipBlanks (cur : Cursor) : Cursor :=
  cur.skip (cur.rest.takeWhile fun c => c == ' ' || c == '\n' || c == '\t' || c == '\r').length

end Cursor

/-- A reader answers a value and where it stopped. -/
abbrev Reader (α : Type) := Cursor → Except Fault (α × Cursor)

/-- Reads the letters of a word whose first letter has been seen. -/
def word (result : Json) : List Char → Reader Json
  | [], cur => .ok (result, cur)
  | w :: ws, cur =>
    match cur.rest with
    | [] => cur.fail .endInValue
    | c :: _ => if c = w then word result ws (cur.skip 1) else .error ⟨.badWord, cur.offset + 1⟩

/-! ## Numbers -/

/-- A digit's value. -/
def digitValue (c : Char) : Nat := c.toNat - 0x30

/-- Takes digits into a significand for as long as it fits 64 bits; answers
it and how many digits it took. -/
def gather (significand : Nat) (taken : Nat) : List Char → Nat × Nat
  | [] => (significand, taken)
  | c :: cs =>
    let next := significand * 10 + digitValue c
    if next < Nat.pow 2 64 then gather next (taken + 1) cs else (significand, taken)

/-- The double of the given parts, or the flaw that it is too large. -/
def doubleOf (negative : Bool) (significand : Nat) (exponent : Int) : Reader Json := fun cur =>
  match Decimal.Binary64.ofScientific significand exponent with
  | some x => .ok (number (.double { x with negative := negative }), cur)
  | none => cur.fail .hugeNumber

/-- Reads an exponent, with the cursor after its letter. -/
def exponentPart (negative : Bool) (significand : Nat) (start : Int) : Reader Json := fun cur =>
  let down := cur.rest.head? == some '-'
  let cur := if down || cur.rest.head? == some '+' then cur.skip 1 else cur
  match cur.rest with
  | [] => cur.fail .endInValue
  | c :: _ =>
    if !c.isDigit then .error ⟨.badNumber, cur.offset + 1⟩
    else
      let digits := cur.rest.takeWhile Char.isDigit
      let bound := Nat.pow 2 31
      let fits (n : Nat) : Bool :=
        (digits.take n).foldl (fun e c => min bound (e * 10 + digitValue c)) 0 < bound
      if fits digits.length then
        let e : Int := digits.foldl (fun e c => e * 10 + digitValue c) 0
        doubleOf negative significand (if down then start - e else start + e)
          (cur.skip digits.length)
      else if significand != 0 && !down then
        (cur.skip ((List.range digits.length).countP fits)).fail .hugeNumber
      else
        .ok (number (.double (Decimal.Binary64.zero negative)), cur.skip digits.length)

/-- Reads what follows the digits before and after the point. -/
def afterDigits (negative : Bool) (significand : Nat) (exponent : Int) : Reader Json := fun cur =>
  match cur.rest with
  | 'e' :: _ | 'E' :: _ => exponentPart negative significand exponent (cur.skip 1)
  | _ => doubleOf negative significand exponent cur

/-- Reads the digits after the point. -/
def fraction (negative : Bool) (significand : Nat) (exponent : Int) : Reader Json := fun cur =>
  let digits := cur.rest.takeWhile Char.isDigit
  if digits.isEmpty then
    if cur.rest.isEmpty then cur.failNext .endInValue else cur.failNext .badNumber
  else
    let (significand, taken) := gather significand 0 digits
    afterDigits negative significand (exponent - taken) (cur.skip digits.length)

/-- Reads a number, with the cursor after its sign. -/
def numberPart (negative : Bool) : Reader Json := fun cur =>
  match cur.rest with
  | [] => cur.fail .endInValue
  | c :: more =>
    if !c.isDigit then .error ⟨.badNumber, cur.offset + 1⟩
    else if c == '0' && (more.head?.any Char.isDigit) then (cur.skip 1).failNext .badNumber
    else
      let digits := cur.rest.takeWhile Char.isDigit
      let (significand, taken) := gather 0 0 digits
      let dropped := digits.length - taken
      let cur := cur.skip digits.length
      match cur.rest with
      | '.' :: _ => fraction negative significand dropped (cur.skip 1)
      | 'e' :: _ | 'E' :: _ => exponentPart negative significand dropped (cur.skip 1)
      | _ =>
        if dropped > 0 then doubleOf negative significand dropped cur
        else if !negative then .ok (number (.whole significand), cur)
        else if significand == 0 || significand > Nat.pow 2 63 then
          doubleOf true significand 0 cur
        else .ok (number (.whole (-(significand : Int))), cur)

/-! ## Strings -/

/-- The value of a hexadecimal digit. -/
def hexValue? (c : Char) : Option Nat :=
  let n := c.toNat
  if 0x30 ≤ n && n ≤ 0x39 then some (n - 0x30)
  else if 0x41 ≤ n && n ≤ 0x46 then some (n - 0x37)
  else if 0x61 ≤ n && n ≤ 0x66 then some (n - 0x57)
  else none

/-- Reads the four digits of an escape; a text that ends within four bytes
ends in the string. -/
def hexEscape : Reader Nat := fun cur =>
  let next := cur.rest.take 4
  let bytes := Text.byteLength next
  if bytes < 4 then .error ⟨.endInString, cur.offset + bytes⟩
  else
    match next.mapM hexValue? with
    | some [a, b, c, d] => .ok (((a * 16 + b) * 16 + c) * 16 + d, cur.skip 4)
    | _ => .error ⟨.badEscape, cur.offset + 4⟩

/-- Reads the character of an escape by number, with the cursor after
its letter; a character beyond the first plane takes two escapes. -/
def numberedChar : Reader Char := fun cur => do
  let (high, cur) ← hexEscape cur
  if 0xDC00 ≤ high && high ≤ 0xDFFF then cur.fail .loneSurrogate
  else if high < 0xD800 || high > 0xDBFF then .ok (Char.ofNat high, cur)
  else
    match cur.rest with
    | [] => cur.fail .endInString
    | c :: _ =>
      if c != '\\' then .error ⟨.unpairedSurrogate, cur.offset + 1⟩
      else
        let cur := cur.skip 1
        match cur.rest with
        | [] => cur.fail .endInString
        | c :: _ =>
          if c != 'u' then .error ⟨.unpairedSurrogate, cur.offset + 1⟩
          else
            let (low, cur) ← hexEscape (cur.skip 1)
            if low < 0xDC00 || low > 0xDFFF then cur.fail .loneSurrogate
            else .ok (Char.ofNat (0x10000 + (high - 0xD800) * 0x400 + (low - 0xDC00)), cur)

/-- Reads one escape, with the cursor after the backslash. -/
def escape : Reader Char := fun cur =>
  match cur.rest with
  | [] => cur.fail .endInString
  | c :: _ =>
    let next := cur.skip 1
    match c with
    | '"' => .ok ('"', next)
    | '\\' => .ok ('\\', next)
    | '/' => .ok ('/', next)
    | 'b' => .ok (Char.ofNat 8, next)
    | 'f' => .ok (Char.ofNat 12, next)
    | 'n' => .ok ('\n', next)
    | 'r' => .ok ('\r', next)
    | 't' => .ok ('\t', next)
    | 'u' => numberedChar next
    | _ => .error ⟨.badEscape, cur.offset + 1⟩

/-- Reads the rest of a string, with the characters read in reverse. -/
def stringRest (read : List Char) : Nat → Reader String
  | 0, cur => cur.fail .endInString
  | fuel + 1, cur =>
    match cur.rest with
    | [] => cur.fail .endInString
    | c :: _ =>
      if c == '"' then .ok (String.ofList read.reverse, cur.skip 1)
      else if c == '\\' then
        match escape (cur.skip 1) with
        | .ok (d, next) => stringRest (d :: read) fuel next
        | .error e => .error e
      else if c.toNat < 0x20 then .error ⟨.controlCharacter, cur.offset + 1⟩
      else stringRest (c :: read) fuel (cur.skip 1)

/-- Reads a string, with the cursor after its opening quote. -/
def stringPart : Reader String := fun cur => stringRest [] (cur.rest.length + 1) cur

/-! ## Lists, objects and values -/

/-- Reads the items of a list and its end. -/
def items (item : Reader Json) (read : List Json) : Nat → Reader Json
  | 0, cur => cur.fail .endInList
  | fuel + 1, cur =>
    let cur := cur.skipBlanks
    let next (cur : Cursor) : Except Fault (Json × Cursor) :=
      match item cur with
      | .ok (v, cur) => items item (v :: read) fuel cur
      | .error e => .error e
    match cur.rest with
    | [] => cur.failNext .endInList
    | ']' :: _ => .ok (array read.reverse, cur.skip 1)
    | c :: _ =>
      if read.isEmpty then next cur
      else if c == ',' then
        let cur := (cur.skip 1).skipBlanks
        match cur.rest with
        | [] => cur.failNext .endInValue
        | ']' :: _ => cur.failNext .trailingComma
        | _ => next cur
      else cur.failNext .noListEnd

/-- Reads a key, the colon after it and its value; a key that was read
before takes the new value in its old place. -/
def field (item : Reader Json) (read : List (String × Json)) : Reader (List (String × Json)) :=
  fun cur => do
    let (key, cur) ← stringPart cur
    let cur := cur.skipBlanks
    match cur.rest with
    | [] => cur.failNext .endInObject
    | ':' :: _ =>
      let (v, cur) ← item (cur.skip 1)
      .ok (setField key v read, cur)
    | _ => cur.failNext .noColon

/-- Reads the fields of an object and its end; `first` until one has been
read. -/
def fields (item : Reader Json) (first : Bool) (read : List (String × Json)) : Nat → Reader Json
  | 0, cur => cur.fail .endInObject
  | fuel + 1, cur =>
    let cur := cur.skipBlanks
    let next (cur : Cursor) : Except Fault (Json × Cursor) :=
      match field item read (cur.skip 1) with
      | .ok (read, cur) => fields item false read fuel cur
      | .error e => .error e
    match cur.rest with
    | [] => cur.failNext .endInObject
    | '\x7d' :: _ => .ok (object read, cur.skip 1)
    | c :: _ =>
      if first then
        if c == '"' then next cur else cur.failNext .keyNotString
      else if c == ',' then
        let cur := (cur.skip 1).skipBlanks
        match cur.rest with
        | [] => cur.failNext .endInValue
        | '"' :: _ => next cur
        | '\x7d' :: _ => cur.failNext .trailingComma
        | _ => cur.failNext .keyNotString
      else cur.failNext .noObjectEnd

/-- Reads a value of at most the given number of levels, with blanks before
it. -/
def value : Nat → Reader Json := fun depth cur =>
  let cur := cur.skipBlanks
  match cur.rest with
  | [] => cur.failNext .endInValue
  | c :: _ =>
    match c with
    | 'n' => word null ['u', 'l', 'l'] (cur.skip 1)
    | 't' => word (bool true) ['r', 'u', 'e'] (cur.skip 1)
    | 'f' => word (bool false) ['a', 'l', 's', 'e'] (cur.skip 1)
    | '-' => numberPart true (cur.skip 1)
    | '"' => (stringPart (cur.skip 1)).map fun r => (string r.1, r.2)
    | '[' =>
      match depth with
      | 0 => cur.failNext .tooDeep
      | d + 1 => items (value d) [] cur.rest.length (cur.skip 1)
    | '\x7b' =>
      match depth with
      | 0 => cur.failNext .tooDeep
      | d + 1 => fields (value d) true [] cur.rest.length (cur.skip 1)
    | _ => if c.isDigit then numberPart false cur else cur.failNext .noValue

/-- How many levels a document may have. -/
def maxDepth : Nat := 127

/-- Line and column of a place in a text: lines count from one, a column is
the number of bytes since the line began. -/
def place (line column : Nat) : Nat → List Char → Nat × Nat
  | _, [] => (line, column)
  | 0, _ => (line, column)
  | n + 1, c :: cs =>
    if c = '\n' then place (line + 1) 0 n cs
    else
      let size := c.utf8Size
      if size ≤ n + 1 then place line (column + size) (n + 1 - size) cs
      else (line, column + (n + 1))
termination_by _ cs => cs.length

/-- The whole wording of a fault: what and where. -/
def Fault.message (text : String) (fault : Fault) : String :=
  let (line, column) := place 1 0 fault.offset text.toList
  fault.flaw.message ++ " at line " ++ toString line ++ " column " ++ toString column

/-- Reads a text that holds one value. -/
def read (text : String) : Except Fault Json := do
  let (v, cur) ← value maxDepth ⟨text.toList, 0⟩
  let cur := cur.skipBlanks
  if cur.rest.isEmpty then .ok v else cur.failNext .trailingText

end ApiPages.Json
