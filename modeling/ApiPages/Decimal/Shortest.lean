import ApiPages.Decimal.Binary64

/-!
# The shortest decimal that reads back

A double is written with the fewest digits that no other double is nearer
to; of the candidates with so few digits the nearest is taken, and on a tie
the even one. `shortest` finds the digits, `text` sets the point.

For each count of digits only the two neighbours of the value on that
decimal grid are tried: if any point of the grid lies in the interval of
numbers that round to the value, one of the two neighbours does.
-/

namespace ApiPages.Decimal

/-- The value `num / den` in units of `10 ^ k`, as numerator and
denominator. -/
def inUnits (num den : Nat) (k : Int) : Nat × Nat :=
  if k ≥ 0 then (num, den * Nat.pow 10 k.toNat) else (num * Nat.pow 10 (-k).toNat, den)

/-- The greatest `k`, found downwards from `start`, with
`10 ^ k ≤ num / den`. -/
def decimalExponent (num den : Nat) (start : Int) : Nat → Int
  | 0 => start
  | fuel + 1 =>
    let (n, d) := inUnits num den start
    if d ≤ n then start else decimalExponent num den (start - 1) fuel

/-- A double's magnitude and the ends of the interval that rounds to it, in
units of a quarter of its last place. -/
structure Span where
  low : Nat
  mid : Nat
  high : Nat
  /-- Whether the ends themselves round to the value. -/
  closed : Bool

/-- The span of a double that is not zero. -/
def Binary64.span (x : Binary64) : Span :=
  let m := x.significand
  let atPower := m == Nat.pow 2 52 && x.exponent > Binary64.leastExponent
  ⟨4 * m - (if atPower then 1 else 2), 4 * m, 4 * m + 2, m % 2 == 0⟩

/-- Whether `d` units of `10 ^ k` lie in the span, whose unit is
`2 ^ e`. -/
def Span.holds (s : Span) (e k : Int) (d : Nat) : Bool :=
  let lhs := d * (if k ≥ 0 then Nat.pow 10 k.toNat else 1)
    * (if e ≥ 0 then 1 else Nat.pow 2 (-e).toNat)
  let unit := (if k ≥ 0 then 1 else Nat.pow 10 (-k).toNat)
    * (if e ≥ 0 then Nat.pow 2 e.toNat else 1)
  if s.closed then s.low * unit ≤ lhs && lhs ≤ s.high * unit
  else s.low * unit < lhs && lhs < s.high * unit

/-- The digits on the grid of `count` digits, when one of the two
neighbours reads back. -/
def onGrid (x : Binary64) (num den : Nat) (top : Int) (count : Nat) : Option (Nat × Int) :=
  let k := top - count + 1
  let (n, d) := inUnits num den k
  let lo := n / d
  let s := x.span
  let e := x.exponent - 2
  let loHit := s.holds e k lo
  let hiHit := s.holds e k (lo + 1)
  let twice := 2 * (n % d)
  if loHit && hiHit then
    some (if twice < d || (twice == d && lo % 2 == 0) then lo else lo + 1, k)
  else if loHit then some (lo, k)
  else if hiHit then some (lo + 1, k)
  else none

/-- The first grid with a hit; seventeen digits always read back. -/
def firstGrid (x : Binary64) (num den : Nat) (top : Int) (count : Nat) : Nat → Nat × Int
  | 0 => (0, 0)
  | fuel + 1 =>
    match onGrid x num den top count with
    | some hit => hit
    | none => firstGrid x num den top (count + 1) fuel

/-- Ten units of a place are one of the next. Only the first grid gives
ten, and no grid gives more with a zero at the end. -/
def carry : Nat × Int → Nat × Int
  | (10, k) => (1, k + 1)
  | hit => hit

/-- The shortest decimal `d * 10 ^ k` of a double's magnitude, as
`(d, k)`. -/
def Binary64.shortest (x : Binary64) : Nat × Int :=
  if x.significand == 0 then (0, 0)
  else
    let num := x.significand * (if x.exponent ≥ 0 then Nat.pow 2 x.exponent.toNat else 1)
    let den := if x.exponent ≥ 0 then 1 else Nat.pow 2 (-x.exponent).toNat
    let guess : Int := ((num.log2 : Int) - den.log2 + 1) * 30103 / 100000 + 2
    let top := decimalExponent num den guess 8
    carry (firstGrid x num den top 1 17)

/-- Where the point of a written double stands. -/
structure Layout where
  /-- The most digits before the point in positional notation. -/
  positionalDigits : Nat
  /-- The most zeros between the point and the first digit. -/
  leadingZeros : Nat

/-- Numbers below `10 ^ 16` and down to `0.00001` are written out, others
with an exponent. -/
def numberLayout : Layout := ⟨16, 4⟩

/-- Sets the point in the digits of `d * 10 ^ k`. -/
def Layout.place (layout : Layout) (d : Nat) (k : Int) : String :=
  let digits := (Nat.repr d).toList
  let point : Int := digits.length + k
  let zeros (n : Int) : List Char := List.replicate n.toNat '0'
  if 0 ≤ k ∧ point ≤ layout.positionalDigits then
    String.ofList (digits ++ zeros k ++ ['.', '0'])
  else if 0 < point ∧ point ≤ layout.positionalDigits then
    String.ofList (digits.take point.toNat ++ ['.'] ++ digits.drop point.toNat)
  else if -(layout.leadingZeros : Int) ≤ point ∧ point ≤ 0 then
    String.ofList (['0', '.'] ++ zeros (-point) ++ digits)
  else
    let e := point - 1
    let fraction := digits.drop 1
    String.ofList (digits.take 1 ++ (if fraction.isEmpty then [] else '.' :: fraction) ++ ['e']
      ++ [if e < 0 then '-' else '+'] ++ (Nat.repr e.natAbs).toList)

/-- The text of a double. -/
def Binary64.text (x : Binary64) : String :=
  let (d, k) := x.shortest
  (if x.negative then "-" else "") ++ numberLayout.place d k

end ApiPages.Decimal
