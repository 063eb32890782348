/-!
# Binary64 — finite doubles in exact arithmetic

A double is `significand * 2 ^ exponent` with a sign. Rounding a quotient
of natural numbers, and so every product and quotient of doubles, is done
exactly in `Nat` and then rounded once, to the nearest double and on a tie
to the even significand. Infinity is not a value here: a result beyond the
largest double is `none`.

`ofScientific` is how the number grammar of JSON turns a significand and a
power of ten into a double. It rounds the significand, then the power, then
their product or quotient, so it is not always the double nearest to the
decimal that was written.
-/

namespace ApiPages.Decimal

/-- A finite double. -/
structure Binary64 where
  /-- Whether the sign bit is set; zero has a sign too. -/
  negative : Bool
  /-- Below `2 ^ 53`; at least `2 ^ 52` unless the exponent is the least. -/
  significand : Nat
  /-- From `-1074` to `971`. -/
  exponent : Int
  deriving DecidableEq, Repr

namespace Binary64

/-- The least exponent, which the subnormal numbers and zero have. -/
def leastExponent : Int := -1074

/-- The zero of the given sign. -/
def zero (negative : Bool) : Binary64 := ⟨negative, 0, leastExponent⟩

/-- A quotient's nearest natural number, the even one on a tie. -/
def divNearest (num den : Nat) : Nat :=
  let q := num / den
  let twice := 2 * (num % den)
  if den < twice || (twice == den && q % 2 == 1) then q + 1 else q

/-- The quotient `num / den` times `2 ^ (-e)`, as numerator and
denominator. -/
def scale (num den : Nat) (e : Int) : Nat × Nat :=
  if e ≥ 0 then (num, den * Nat.pow 2 e.toNat) else (num * Nat.pow 2 (-e).toNat, den)

/-- The double nearest to `num / den`, without sign; `none` beyond the
largest one. -/
def ofQuotient (num den : Nat) : Option Binary64 :=
  if num == 0 then some (zero false)
  else
    let guess : Int := (num.log2 : Int) - den.log2 - 53
    let (n, d) := scale num den guess
    let e := max leastExponent (if n / d ≥ Nat.pow 2 53 then guess + 1 else guess)
    let (n, d) := scale num den e
    let q := divNearest n d
    let (q, e) := if q == Nat.pow 2 53 then (Nat.pow 2 52, e + 1) else (q, e)
    if e > 971 then none else some ⟨false, q, e⟩

/-- The double nearest to a natural number. -/
def ofNat (n : Nat) : Option Binary64 := ofQuotient n 1

/-- Two powers of two as a quotient: `num * 2 ^ e` over one. -/
def ofScaled (num den : Nat) (e : Int) : Option Binary64 :=
  if e ≥ 0 then ofQuotient (num * Nat.pow 2 e.toNat) den
  else ofQuotient num (den * Nat.pow 2 (-e).toNat)

/-- The product of two doubles without regard to sign. -/
def mul (x y : Binary64) : Option Binary64 :=
  ofScaled (x.significand * y.significand) 1 (x.exponent + y.exponent)

/-- The quotient of two doubles without regard to sign; the divisor is not
zero. -/
def div (x y : Binary64) : Option Binary64 :=
  ofScaled x.significand y.significand (x.exponent - y.exponent)

/-- The double nearest to a power of ten. -/
def tenTo (k : Nat) : Binary64 := (ofNat (Nat.pow 10 k)).getD (zero false)

/-- Divides by `10 ^ 308` as often as `steps` says, or until nothing is
left. -/
def shrink (x : Binary64) : Nat → Binary64
  | 0 => x
  | n + 1 => if x.significand == 0 then x else shrink ((x.div (tenTo 308)).getD (zero false)) n

/-- A significand and a power of ten as a double, without sign: the
significand's double times or over the power's. `none` when the result is
too large. -/
def ofScientific (significand : Nat) (exponent : Int) : Option Binary64 := do
  let x ← ofNat significand
  if exponent ≥ 0 then
    if exponent ≤ 308 then x.mul (tenTo exponent.toNat)
    else if significand == 0 then some x
    else none
  else
    let k := (-exponent).toNat
    if k ≤ 308 then x.div (tenTo k)
    else
      let steps := (k - 1) / 308
      let x := shrink x (min steps 4)
      x.div (tenTo (k - 308 * steps))

/-- A double that is neither zero nor subnormal. -/
def isNormal (x : Binary64) : Bool := Nat.pow 2 52 ≤ x.significand

end Binary64

end ApiPages.Decimal
