import Formulary.Decimal

/-!
# Formulary.Decimal.Shortest

The shortest decimal that reads back as a given double.

A double is `significand · 2 ^ exponent`. For 1, 2, … 17 digits in turn the
two neighbours of that value on the grid of decimals with so many digits are
read back by `Decimal.bits`; the first grid with a hit gives the answer, the
nearer neighbour if both hit. `Ties` decides between two equally near.
-/

namespace Formulary

/-- The number `significand · 2 ^ exponent`. -/
structure Dyadic where
  significand : Nat
  exponent : Int
deriving DecidableEq, Repr

namespace Dyadic

/-- The magnitude of the finite double with the bit pattern `bits`. -/
def ofBits (bits : Nat) : Dyadic :=
  let field : Nat := bits / Nat.pow 2 52 % Nat.pow 2 11
  let fraction : Nat := bits % Nat.pow 2 52
  if field = 0 then ⟨fraction, -1074⟩ else ⟨Nat.pow 2 52 + fraction, (field : Int) - 1075⟩

/-- The numerator of the number, whose denominator is `den`. -/
def num (d : Dyadic) : Nat := d.significand * Nat.pow 2 d.exponent.toNat

/-- The denominator of the number: a power of two. -/
def den (d : Dyadic) : Nat := Nat.pow 2 (-d.exponent).toNat

/-- All decimal digits of the number. -/
def toDecimal (d : Dyadic) : Decimal :=
  ⟨d.num * Nat.pow 5 (-d.exponent).toNat, -(-d.exponent).toNat⟩

/-- The least `k` with `num / den < 10 ^ k`, for a positive number. The binary logarithm tells
it up to two. -/
def width (d : Dyadic) : Int :=
  let least := floorLog2 d.num d.den * 1233 / 4096
  if d.num * Nat.pow 10 (-least).toNat < d.den * Nat.pow 10 least.toNat then least
  else if d.num * Nat.pow 10 (-(least + 1)).toNat < d.den * Nat.pow 10 (least + 1).toNat then least + 1
  else least + 2

end Dyadic

/-- Which of two equally near decimals is taken: the upper one, or the one with an even last
digit. -/
inductive Ties
  | up
  | toEven
deriving DecidableEq, Repr

/-- The multiple of one just below `num / den` is to be preferred to the one just above. -/
def Ties.prefersLower (ties : Ties) (num den : Nat) : Bool :=
  match compare (2 * (num % den)) den with
  | .lt => true
  | .eq => ties = .toEven && num / den % 2 = 0
  | .gt => false

/-- The multiple of `10 ^ place` next to `num / den` that reads back as `bits`: the nearer one
if those on both sides do. -/
def onGrid? (ties : Ties) (bits num den : Nat) (place : Int) : Option Decimal :=
  let num := num * Nat.pow 10 (-place).toNat
  let den := den * Nat.pow 10 place.toNat
  let lower : Decimal := ⟨num / den, place⟩
  let upper : Decimal := ⟨num / den + 1, place⟩
  if lower.bits = bits ∧ (upper.bits ≠ bits ∨ ties.prefersLower num den) then some lower
  else if upper.bits = bits then some upper
  else none

/-- The shortest decimal that reads back as the positive finite double `bits`. Seventeen digits
always suffice; the exact decimal stands for the case that they did not. -/
def shortest (ties : Ties) (bits : Nat) : Decimal :=
  let value := Dyadic.ofBits bits
  let width := value.width
  let grids := List.range 17
  (grids.findSome? fun (n : Nat) => onGrid? ties bits value.num value.den (width - (n + 1))).getD
    value.toDecimal

end Formulary
