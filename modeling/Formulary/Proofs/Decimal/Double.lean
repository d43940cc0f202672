import Formulary.Decimal
import Mathlib

/-!
# Formulary.Proofs.Decimal.Double

Doubles by their bit patterns.

To make a double of a pattern is to unpack and to pack it, which leaves it as it is unless
it is one of the many patterns of the undefined number. All patterns up to that of infinity
are none of these (`isNaNBits_eq_false`), and so they are the patterns of the doubles made
of them (`toBits_ofBits`).

The lemmas on packing and on undefined numbers come with the whole library only, so this module
imports all of it.
-/

namespace Formulary

open Float.Model

section Patterns

variable {b : BitVec Format.binary64.numBits}

/-- The exponent of a pattern as bits 52 to 62 of a natural number. -/
theorem toNat_unpackExponent :
    (UnpackedFloat.unpackExponent b).toNat = b.toNat / 2 ^ 52 % 2 ^ 11 := by
  simp [UnpackedFloat.unpackExponent, Nat.shiftRight_eq_div_pow]

/-- The significand of a pattern as the low 52 bits of a natural number. -/
theorem toNat_unpackMantissa : (UnpackedFloat.unpackMantissa b).toNat = b.toNat % 2 ^ 52 := by
  simp [UnpackedFloat.unpackMantissa, Nat.shiftRight_eq_div_pow]

/-- Up to the pattern of infinity no pattern is one of the undefined number. -/
theorem isNaNBits_eq_false (h : b.toNat ≤ infinityBits) :
    UnpackedFloat.isNaNBits b = false := by
  simp only [UnpackedFloat.isNaNBits, decide_eq_false_iff_not, not_and, not_not]
  intro top
  have htop : b.toNat / 2 ^ 52 % 2 ^ 11 = 2047 := by
    rw [← toNat_unpackExponent, top]
    rfl
  apply BitVec.eq_of_toNat_eq
  rw [toNat_unpackMantissa]
  show b.toNat % 2 ^ 52 = 0
  unfold infinityBits at h
  omega

end Patterns

variable {bits : ℕ}

/-- The patterns up to that of infinity fit into 64 bits. -/
theorem toNat_ofNat_of_le (h : bits ≤ infinityBits) : (UInt64.ofNat bits).toNat = bits := by
  unfold infinityBits at h
  rw [UInt64.toNat_ofNat']
  exact Nat.mod_eq_of_lt (by omega)

/-- The bit pattern of a double that was made of one. -/
theorem toBits_ofBits (h : bits ≤ infinityBits) :
    (Float.ofBits (UInt64.ofNat bits)).toBits.toNat = bits := by
  have hle : (UInt64.ofNat bits).toBitVec.toNat ≤ infinityBits := by
    rw [UInt64.toNat_toBitVec, toNat_ofNat_of_le h]
    exact h
  show (UInt64.ofBitVec (UnpackedFloat.pack Format.binary64 (UnpackedFloat.unpack
    Format.binary64 (UInt64.ofNat bits).toBitVec))).toNat = bits
  rw [UnpackedFloat.pack_unpack, isNaNBits_eq_false hle]
  exact toNat_ofNat_of_le h

/-- No double made of such a pattern is undefined. -/
theorem isNaN_ofBits (h : bits ≤ infinityBits) :
    (Float.ofBits (UInt64.ofNat bits)).isNaN = false := by
  rw [Float.isNaN_eq_decide_eq_nan, decide_eq_false_iff_not]
  intro hnan
  have hbits := toBits_ofBits h
  have hpattern : Float.nan.toBits.toNat = 0x7FF8000000000000 := by decide
  rw [hnan, hpattern] at hbits
  unfold infinityBits at h
  omega

end Formulary
