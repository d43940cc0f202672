/-!
# Formulary.Decimal

Decimal numbers, and the double nearest to each.

A literal of a formula is a decimal, `digits · 10 ^ exponent`, and stands for
the double that is nearest to it. The rounding is done here in whole numbers,
so that reading a literal is a definition one can compute with and reason
about: `Decimal.bits` is the bit pattern, `Decimal.toFloat` the double.
-/

namespace Formulary

/-- The number `digits · 10 ^ exponent`. -/
structure Decimal where
  digits : Nat
  exponent : Int
deriving DecidableEq, Repr

/-! ## Rounding a ratio to 53 binary digits -/

/-- The whole number nearest to `num / den`; a half goes to the even neighbour. -/
def roundHalfEven (num den : Nat) : Nat :=
  let quotient := num / den
  let twice := 2 * (num % den)
  if twice < den || (twice == den && quotient % 2 == 0) then quotient else quotient + 1

/-- The greatest `k` with `2 ^ k ≤ num / den`, for positive `num` and `den`. -/
def floorLog2 (num den : Nat) : Int :=
  let k : Int := (num.log2 : Int) - (den.log2 : Int)
  if den * Nat.pow 2 k.toNat ≤ num * Nat.pow 2 (-k).toNat then k else k - 1

/-- The exponent of the last binary place that a double near `num / den` has: 53 digits are
kept, and none below `2 ^ -1074`. -/
def lastPlace (num den : Nat) : Int :=
  max (floorLog2 num den - 52) (-1074)

/-- The bit pattern of positive infinity. -/
def infinityBits : Nat := 0x7FF0000000000000

/-- The bit pattern of the double nearest to `num / den`, for positive `num` and `den`.

Counted in units of the last place, the patterns of positive doubles are consecutive numbers.
So a significand that rounds up to the next power of two carries into the exponent by itself,
and what passes the greatest finite pattern is infinity. -/
def nearestBits (num den : Nat) : Nat :=
  let place := lastPlace num den
  let units := roundHalfEven (num * Nat.pow 2 (-place).toNat) (den * Nat.pow 2 place.toNat)
  min ((place + 1074).toNat * Nat.pow 2 52 + units) infinityBits

/-! ## Decimals -/

namespace Decimal

/-- The numerator of a decimal, whose denominator is `den`. -/
def num (d : Decimal) : Nat := d.digits * Nat.pow 10 d.exponent.toNat

/-- The denominator of a decimal: a power of ten. -/
def den (d : Decimal) : Nat := Nat.pow 10 (-d.exponent).toNat

/-- An upper bound of the number of decimal digits, found without writing them: each of them
takes more than three bits. -/
def digitBound (d : Decimal) : Nat := d.digits.log2 / 3 + 1

/-- The bit pattern of the nearest double. Decimals from `10 ^ 309` up are infinite and those
below `10 ^ -324` are zero; they are settled first, as their powers of ten can be huge. -/
def bits (d : Decimal) : Nat :=
  if d.digits = 0 then 0
  else if 308 < d.exponent then infinityBits
  else if d.exponent + d.digitBound ≤ -324 then 0
  else nearestBits d.num d.den

/-- The double nearest to the decimal. -/
def toFloat (d : Decimal) : Float := Float.ofBits (UInt64.ofNat d.bits)

end Decimal

/-- Positive infinity. -/
def infinity : Float := Float.ofBits (UInt64.ofNat infinityBits)

/-- The undefined number, which differs from every number. -/
def undefinedNumber : Float := Float.ofBits 0x7FF8000000000000

end Formulary
