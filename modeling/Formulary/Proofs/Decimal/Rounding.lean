import Formulary.Decimal.Shortest
import Mathlib.Algebra.Order.Field.Power
import Mathlib.Data.Int.Log
import Mathlib.Data.Rat.Floor
import Mathlib.Tactic.FieldSimp
import Mathlib.Tactic.NormNum
import Mathlib.Tactic.Positivity
import Mathlib.Tactic.Ring

/-!
# Formulary.Proofs.Decimal.Rounding

Rounding depends on the number alone, and a double rounds to itself.

The nearest double is found with the numerator and the denominator of a ratio. Its last
place is the one of a binary logarithm (`floorLog2_eq`), and so what it is depends on
the ratio only (`Decimal.bits_congr`), also for the decimals that are too large or too
small to be rounded. A double is a whole number of units in its last place, neither too
many nor too few of them (`Dyadic.IsDouble`), hence the decimal with all its digits is
read back as the double. The shortest decimal is chosen among those that are.
-/

namespace Formulary

/-! ## Ratios -/

/-- A power with an integer exponent as a quotient of naturals, the form in which the code computes
it. -/
theorem zpow_eq_pow_div_pow {b : ℕ} (hb : 0 < b) (k : ℤ) :
    (b : ℚ) ^ k = (b ^ k.toNat : ℕ) / (b ^ (-k).toNat : ℕ) := by
  have hne : (b : ℚ) ≠ 0 := by exact_mod_cast hb.ne'
  have hsplit : k = (k.toNat : ℤ) - ((-k).toNat : ℤ) := by omega
  conv_lhs => rw [hsplit, zpow_sub₀ hne, zpow_natCast, zpow_natCast]
  push_cast
  rfl

/-- Rounding does not depend on the terms in which the quotient is given. -/
theorem roundHalfEven_mul {k : ℕ} (hk : 0 < k) (num den : ℕ) :
    roundHalfEven (k * num) (k * den) = roundHalfEven num den := by
  have htwice : 2 * (k * (num % den)) = k * (2 * (num % den)) := by ring
  have hlt : k * (2 * (num % den)) < k * den ↔ 2 * (num % den) < den :=
    Nat.mul_lt_mul_left hk
  have heq : k * (2 * (num % den)) = k * den ↔ 2 * (num % den) = den :=
    Nat.mul_right_inj hk.ne'
  simp only [roundHalfEven, Nat.mul_div_mul_left _ _ hk, Nat.mul_mod_mul_left, htwice, hlt,
    Bool.or_eq_true, decide_eq_true_eq, Bool.and_eq_true, beq_iff_eq, heq]

/-- Rounding depends on the ratio alone. -/
theorem roundHalfEven_congr {num den num' den' : ℕ} (hden : 0 < den) (hden' : 0 < den')
    (h : num * den' = num' * den) : roundHalfEven num den = roundHalfEven num' den' := by
  rw [← roundHalfEven_mul hden' num den, ← roundHalfEven_mul hden num' den', mul_comm den' num, h,
    mul_comm den' den, mul_comm num' den]

/-- A whole number is rounded to itself. -/
theorem roundHalfEven_mul_self (num : ℕ) {den : ℕ} (hden : 0 < den) :
    roundHalfEven (num * den) den = num := by
  simp [roundHalfEven, Nat.mul_div_cancel _ hden, hden]

/-- A quotient is compared with a power of two by multiplying out. -/
theorem zpow_two_le_div_iff (num : ℕ) {den : ℕ} (hden : 0 < den) (k : ℤ) :
    (2 : ℚ) ^ k ≤ num / den ↔ den * 2 ^ k.toNat ≤ num * 2 ^ (-k).toNat := by
  have hpow := zpow_eq_pow_div_pow (b := 2) (by norm_num) k
  rw [Nat.cast_ofNat] at hpow
  rw [hpow, div_le_div_iff₀ (by positivity) (by exact_mod_cast hden), mul_comm]
  exact_mod_cast Iff.rfl

/-- The binary logarithm of a positive ratio, rounded down. -/
theorem floorLog2_eq {num den : ℕ} (hnum : 0 < num) (hden : 0 < den) :
    floorLog2 num den = Int.log 2 (num / den : ℚ) := by
  have hq : (0 : ℚ) < num / den := by positivity
  have hnum_le : (2 : ℚ) ^ (num.log2 : ℤ) ≤ num := by
    rw [zpow_natCast]
    exact_mod_cast Nat.log2_self_le hnum.ne'
  have hnum_lt : (num : ℚ) < 2 ^ ((num.log2 : ℤ) + 1) := by
    rw [← Nat.cast_add_one, zpow_natCast]
    exact_mod_cast Nat.lt_log2_self
  have hden_le : (2 : ℚ) ^ (den.log2 : ℤ) ≤ den := by
    rw [zpow_natCast]
    exact_mod_cast Nat.log2_self_le hden.ne'
  have hden_lt : (den : ℚ) < 2 ^ ((den.log2 : ℤ) + 1) := by
    rw [← Nat.cast_add_one, zpow_natCast]
    exact_mod_cast Nat.lt_log2_self
  -- The logarithms of the two numbers tell that of their ratio up to one.
  have hlog_lt : Int.log 2 (num / den : ℚ) < (num.log2 : ℤ) - den.log2 + 1 := by
    rw [← Int.lt_zpow_iff_log_lt (by norm_num) hq, Nat.cast_ofNat, sub_add_eq_add_sub,
      zpow_sub₀ (by norm_num)]
    exact div_lt_div₀ hnum_lt hden_le (by positivity) (by positivity)
  have hle_log : (num.log2 : ℤ) - den.log2 - 1 ≤ Int.log 2 (num / den : ℚ) := by
    rw [← Int.zpow_le_iff_le_log (by norm_num) hq, Nat.cast_ofNat, sub_sub,
      zpow_sub₀ (by norm_num)]
    exact div_le_div₀ (by positivity) hnum_le (by positivity) hden_lt.le
  have hcheck := zpow_two_le_div_iff num hden ((num.log2 : ℤ) - den.log2)
  have hle := Int.zpow_le_iff_le_log (b := 2) (by norm_num) hq (x := (num.log2 : ℤ) - den.log2)
  rw [Nat.cast_ofNat, hcheck] at hle
  simp only [floorLog2, Nat.pow_eq]
  split
  · next h =>
    have := hle.1 h
    omega
  · next h =>
    have := fun h' => h (hle.2 h')
    omega

/-! ## The nearest double -/

section Nearest

variable {num den num' den' : ℕ}

/-- The nearest double depends on the ratio alone. -/
theorem nearestBits_congr (hnum : 0 < num) (hden : 0 < den) (hnum' : 0 < num') (hden' : 0 < den')
    (h : num * den' = num' * den) : nearestBits num den = nearestBits num' den' := by
  have hratio : (num / den : ℚ) = num' / den' := by
    rw [div_eq_div_iff (by positivity) (by positivity)]
    exact_mod_cast h
  have hplace : lastPlace num den = lastPlace num' den' := by
    rw [lastPlace, lastPlace, floorLog2_eq hnum hden, floorLog2_eq hnum' hden', hratio]
  have hunits (up down : ℕ) : roundHalfEven (num * 2 ^ up) (den * 2 ^ down) =
      roundHalfEven (num' * 2 ^ up) (den' * 2 ^ down) := by
    apply roundHalfEven_congr (by positivity) (by positivity)
    calc num * 2 ^ up * (den' * 2 ^ down) = num * den' * (2 ^ up * 2 ^ down) := by ring
      _ = num' * 2 ^ up * (den * 2 ^ down) := by rw [h]; ring
  simp only [nearestBits, Nat.pow_eq, hplace, hunits]

theorem nearestBits_le (num den : ℕ) : nearestBits num den ≤ infinityBits := Nat.min_le_right _ _

/-- What is far above the greatest double is infinite. -/
theorem nearestBits_eq_infinityBits (hnum : 0 < num) (hden : 0 < den) {k : ℕ} (hk : 1025 ≤ k)
    (h : den * 2 ^ k ≤ num) : nearestBits num den = infinityBits := by
  have hlog : k ≤ floorLog2 num den := by
    rw [floorLog2_eq hnum hden, ← Int.zpow_le_iff_le_log (by norm_num) (by positivity),
      Nat.cast_ofNat, zpow_two_le_div_iff _ hden]
    simpa using h
  have hplace : 2047 ≤ (lastPlace num den + 1074).toNat := by
    unfold lastPlace
    omega
  have hbits : infinityBits ≤ (lastPlace num den + 1074).toNat * 2 ^ 52 :=
    calc infinityBits = 2047 * 2 ^ 52 := by norm_num [infinityBits]
      _ ≤ (lastPlace num den + 1074).toNat * 2 ^ 52 := Nat.mul_le_mul_right _ hplace
  simp only [nearestBits, Nat.pow_eq]
  exact Nat.min_eq_right (hbits.trans (Nat.le_add_right _ _))

/-- What is less than half the least double is zero. -/
theorem nearestBits_eq_zero (hnum : 0 < num) (hden : 0 < den) {k : ℕ} (hk : 1075 ≤ k)
    (h : num * 2 ^ k < den) : nearestBits num den = 0 := by
  have hlog : floorLog2 num den < -(k : ℤ) := by
    rw [floorLog2_eq hnum hden, ← not_le, ← Int.zpow_le_iff_le_log (by norm_num) (by positivity),
      Nat.cast_ofNat, zpow_two_le_div_iff _ hden, not_le]
    simpa using h
  have hplace : lastPlace num den = -1074 := by
    unfold lastPlace
    omega
  have hdouble (n : ℕ) : 2 * (num * 2 ^ n) = num * 2 ^ (n + 1) := by ring
  have hhalf : 2 * (num * 2 ^ 1074) < den :=
    calc 2 * (num * 2 ^ 1074) = num * 2 ^ (1074 + 1) := hdouble 1074
      _ ≤ num * 2 ^ k := Nat.mul_le_mul_left _ (pow_le_pow_right₀ (by norm_num) hk)
      _ < den := h
  have hunits : roundHalfEven (num * 2 ^ 1074) den = 0 := by
    have hless : num * 2 ^ 1074 < den := by omega
    simp [-Nat.reducePow, roundHalfEven, Nat.div_eq_of_lt hless, Nat.mod_eq_of_lt hless, hhalf]
  simp [-Nat.reducePow, nearestBits, hplace, hunits]

end Nearest

namespace Decimal

variable {d : Decimal}

theorem num_pos (h : d.digits ≠ 0) : 0 < d.num := by
  have := Nat.pos_of_ne_zero h
  simp only [num, Nat.pow_eq]
  positivity

theorem den_pos (d : Decimal) : 0 < d.den := by
  simp only [den, Nat.pow_eq]
  positivity

/-- The digits are below the bound that the code takes from their logarithm. -/
theorem digits_lt (d : Decimal) : d.digits < 10 ^ d.digitBound :=
  calc d.digits < 2 ^ (d.digits.log2 + 1) := Nat.lt_log2_self
    _ ≤ 2 ^ (3 * d.digitBound) := Nat.pow_le_pow_right (by norm_num) (by rw [digitBound]; omega)
    _ = 8 ^ d.digitBound := by rw [pow_mul]; norm_num
    _ ≤ 10 ^ d.digitBound := Nat.pow_le_pow_left (by norm_num) _

/-- The power of ten beyond which a decimal is settled without rounding. -/
theorem two_pow_le_ten_pow : 2 ^ 1023 ≤ 10 ^ 308 :=
  calc 2 ^ 1023 = (2 ^ 93) ^ 11 := by rw [← pow_mul]
    _ ≤ (10 ^ 28) ^ 11 := Nat.pow_le_pow_left (by norm_num) _
    _ = 10 ^ 308 := by rw [← pow_mul]

/-- The decimals that are settled first are settled as the others are. -/
theorem bits_eq_nearestBits (h : d.digits ≠ 0) : d.bits = nearestBits d.num d.den := by
  have hdigits := Nat.pos_of_ne_zero h
  unfold bits
  rw [if_neg h]
  split
  · next large =>
    refine (nearestBits_eq_infinityBits (num_pos h) d.den_pos (k := 1023 + 2) le_rfl ?_).symm
    have hden : d.den = 1 := by
      rw [den, show (-d.exponent).toNat = 0 by omega]
    calc d.den * 2 ^ (1023 + 2) = 2 ^ 1023 * 2 ^ 2 := by rw [hden, one_mul, pow_add]
      _ ≤ 10 ^ 308 * 10 := Nat.mul_le_mul two_pow_le_ten_pow (by norm_num)
      _ = 10 ^ (308 + 1) := by rw [pow_succ 10 308]
      _ ≤ 10 ^ d.exponent.toNat := pow_le_pow_right₀ (by norm_num) (by omega)
      _ ≤ d.digits * 10 ^ d.exponent.toNat := Nat.le_mul_of_pos_left _ hdigits
  · split
    · next small =>
      refine (nearestBits_eq_zero (num_pos h) d.den_pos (k := 1023 + 52) le_rfl ?_).symm
      have hnum : d.num = d.digits := by
        rw [num, show d.exponent.toNat = 0 by unfold digitBound at small; omega]
        exact mul_one _
      calc d.num * 2 ^ (1023 + 52) = d.digits * (2 ^ 1023 * 2 ^ 52) := by rw [hnum, pow_add]
        _ < 10 ^ d.digitBound * (2 ^ 1023 * 2 ^ 52) :=
          Nat.mul_lt_mul_of_pos_right d.digits_lt (by positivity)
        _ ≤ 10 ^ d.digitBound * (10 ^ 308 * 10 ^ 16) :=
          Nat.mul_le_mul_left _ (Nat.mul_le_mul two_pow_le_ten_pow (by norm_num))
        _ = 10 ^ (d.digitBound + 324) := by rw [← pow_add, ← pow_add]
        _ ≤ 10 ^ (-d.exponent).toNat := Nat.pow_le_pow_right (by norm_num) (by omega)
    · rfl

/-- The pattern of a decimal is at most that of infinity. -/
theorem bits_le (d : Decimal) : d.bits ≤ infinityBits := by
  by_cases h : d.digits = 0
  · simp [bits, h]
  · rw [bits_eq_nearestBits h]
    exact nearestBits_le _ _

/-- The number that the decimal is. -/
def value (d : Decimal) : ℚ := d.digits * 10 ^ d.exponent

/-- The value of a decimal as the quotient that is rounded. -/
theorem value_eq (d : Decimal) : d.value = d.num / d.den := by
  have hpow := zpow_eq_pow_div_pow (b := 10) (by norm_num) d.exponent
  rw [Nat.cast_ofNat] at hpow
  rw [value, hpow, num, den]
  push_cast [Nat.pow_eq]
  ring

theorem digits_ne_zero_iff : d.digits ≠ 0 ↔ 0 < d.value := by
  have hpow : (0 : ℚ) < 10 ^ d.exponent := by positivity
  rw [value, mul_pos_iff_of_pos_right hpow, Nat.cast_pos, Nat.pos_iff_ne_zero]

/-- A positive decimal is read as the double nearest to the ratio that it is. -/
theorem bits_eq_nearestBits_of_value {num den : ℕ} (hnum : 0 < num) (hden : 0 < den)
    (h : d.value = num / den) : d.bits = nearestBits num den := by
  have hdigits : d.digits ≠ 0 := by
    rw [digits_ne_zero_iff, h]
    positivity
  rw [bits_eq_nearestBits hdigits]
  apply nearestBits_congr (num_pos hdigits) d.den_pos hnum hden
  have hden' := d.den_pos
  rw [value_eq, div_eq_div_iff (by positivity) (by positivity)] at h
  exact_mod_cast h

/-- **Reading depends on the number alone**, not on how it is written. -/
theorem bits_congr {other : Decimal} (h : d.value = other.value) : d.bits = other.bits := by
  by_cases hdigits : other.digits = 0
  · have hd : d.digits = 0 := by
      by_contra hd
      exact digits_ne_zero_iff.2 (h ▸ digits_ne_zero_iff.1 hd) hdigits
    simp [bits, hd, hdigits]
  · rw [bits_eq_nearestBits hdigits]
    exact bits_eq_nearestBits_of_value (num_pos hdigits) other.den_pos (h.trans other.value_eq)

end Decimal

/-! ## A double rounds to itself -/

namespace Dyadic

/-- The number that the dyadic is. -/
def value (d : Dyadic) : ℚ := d.significand * 2 ^ d.exponent

theorem num_pos {d : Dyadic} (h : 0 < d.significand) : 0 < d.num := by
  simp only [num, Nat.pow_eq]
  positivity

theorem den_pos (d : Dyadic) : 0 < d.den := by
  simp only [den, Nat.pow_eq]
  positivity

/-- A double as its significand and exponent: 53 digits, fewer only at the least exponent. -/
structure IsDouble (d : Dyadic) (bits : ℕ) : Prop where
  pos : 0 < d.significand
  lt : d.significand < 2 ^ 53
  least : -1074 ≤ d.exponent
  full : 2 ^ 52 ≤ d.significand ∨ d.exponent = -1074
  bits_eq : (d.exponent + 1074).toNat * 2 ^ 52 + d.significand = bits

/-- The pattern of a finite positive double is taken apart into its significand and its exponent. -/
theorem isDouble_ofBits {bits : ℕ} (pos : 0 < bits) (finite : bits < infinityBits) :
    (ofBits bits).IsDouble bits := by
  have hfield : bits / 2 ^ 52 < 2047 := by
    rw [Nat.div_lt_iff_lt_mul (by norm_num)]
    exact finite
  have hsplit := Nat.div_add_mod bits (2 ^ 52)
  have hfraction : bits % 2 ^ 52 < 2 ^ 52 := Nat.mod_lt _ (by norm_num)
  simp only [ofBits, Nat.pow_eq, Nat.mod_eq_of_lt (hfield.trans (by norm_num : 2047 < 2 ^ 11))]
  generalize bits / 2 ^ 52 = field at *
  generalize bits % 2 ^ 52 = fraction at *
  split
  · next hzero =>
    subst hzero
    exact {
      pos := by dsimp only; omega
      lt := by dsimp only; omega
      least := le_rfl
      full := .inr rfl
      bits_eq := by simpa using hsplit }
  · next hpos =>
    exact {
      pos := by dsimp only; omega
      lt := by dsimp only; omega
      least := by dsimp only; omega
      full := .inl (by dsimp only; omega)
      bits_eq := by dsimp only; omega }

theorem value_eq (d : Dyadic) : d.value = d.num / d.den := by
  have hpow := zpow_eq_pow_div_pow (b := 2) (by norm_num) d.exponent
  rw [Nat.cast_ofNat] at hpow
  rw [value, hpow, num, den]
  push_cast [Nat.pow_eq]
  ring

namespace IsDouble

variable {d : Dyadic} {bits : ℕ}

/-- The last place of a double is its exponent. -/
theorem lastPlace_eq (h : d.IsDouble bits) : lastPlace d.num d.den = d.exponent := by
  have hpos := h.pos
  have hvalue : (0 : ℚ) < d.value := by
    rw [value]
    positivity
  have hpow : (0 : ℚ) < 2 ^ d.exponent := by positivity
  have hlog : floorLog2 d.num d.den = Int.log 2 d.value := by
    rw [floorLog2_eq (num_pos hpos) d.den_pos, value_eq]
  have hlt : Int.log 2 d.value < 53 + d.exponent := by
    rw [← Int.lt_zpow_iff_log_lt (by norm_num) hvalue, Nat.cast_ofNat, zpow_add₀ (by norm_num),
      value]
    exact mul_lt_mul_of_pos_right (by exact_mod_cast h.lt) hpow
  have hleast := h.least
  rw [lastPlace, hlog]
  rcases h.full with full | least
  · have hle : 52 + d.exponent ≤ Int.log 2 d.value := by
      rw [← Int.zpow_le_iff_le_log (by norm_num) hvalue, Nat.cast_ofNat,
        zpow_add₀ (by norm_num), value]
      exact mul_le_mul_of_nonneg_right (by exact_mod_cast full) hpow.le
    omega
  · omega

/-- A double is the nearest double to itself. -/
theorem nearestBits_eq (h : d.IsDouble bits) (finite : bits < infinityBits) :
    nearestBits d.num d.den = bits := by
  have hunits : roundHalfEven (d.num * 2 ^ (-d.exponent).toNat) (d.den * 2 ^ d.exponent.toNat) =
      d.significand := by
    rw [num, den, Nat.pow_eq, Nat.pow_eq, mul_assoc, mul_comm (2 ^ d.exponent.toNat)]
    exact roundHalfEven_mul_self _ (by positivity)
  simp only [nearestBits, Nat.pow_eq, h.lastPlace_eq, hunits, h.bits_eq]
  exact Nat.min_eq_left finite.le

end IsDouble

/-- A dyadic number is written as a decimal without loss. -/
theorem value_toDecimal (d : Dyadic) : d.toDecimal.value = d.value := by
  have hten : (10 : ℚ) ^ (-d.exponent).toNat =
      5 ^ (-d.exponent).toNat * 2 ^ (-d.exponent).toNat := by
    rw [← mul_pow]
    norm_num
  rw [value_eq, toDecimal, Decimal.value, den]
  push_cast [Nat.pow_eq]
  rw [zpow_neg, zpow_natCast, hten]
  field_simp

/-- All digits of a double are read back as the double. -/
theorem bits_toDecimal {bits : ℕ} (pos : 0 < bits) (finite : bits < infinityBits) :
    (ofBits bits).toDecimal.bits = bits := by
  have h := isDouble_ofBits pos finite
  rw [Decimal.bits_eq_nearestBits_of_value (num_pos h.pos) (den_pos _)
    ((value_toDecimal _).trans (value_eq _))]
  exact h.nearestBits_eq finite

end Dyadic

/-! ## Shortest decimals -/

/-- What is taken from a grid is read as the double, since that has been tried. -/
theorem bits_of_onGrid? {ties : Ties} {bits num den : ℕ} {place : ℤ} {d : Decimal}
    (h : onGrid? ties bits num den place = some d) : d.bits = bits := by
  unfold onGrid? at h
  simp only at h
  split at h
  · next hit =>
    cases h
    exact hit.1
  · split at h
    · next hit =>
      cases h
      exact hit
    · contradiction

/-- **The shortest decimal of a double is read back as the double.** -/
theorem bits_shortest (ties : Ties) {bits : ℕ} (pos : 0 < bits) (finite : bits < infinityBits) :
    (shortest ties bits).bits = bits := by
  unfold shortest
  simp only
  cases hfound : (List.range 17).findSome? fun (n : ℕ) =>
      onGrid? ties bits (Dyadic.ofBits bits).num (Dyadic.ofBits bits).den
        ((Dyadic.ofBits bits).width - (n + 1)) with
  | none => exact Dyadic.bits_toDecimal pos finite
  | some d =>
    obtain ⟨n, -, hgrid⟩ := List.exists_of_findSome?_eq_some hfound
    exact bits_of_onGrid? hgrid

end Formulary
