import Formulary.Proofs.Decimal.Double
import Formulary.Proofs.Decimal.Rounding
import Formulary.Proofs.Lexing.Numeral
import Formulary.Decimal.Text

/-!
# Formulary.Proofs.Decimal.ReadBack

A double that is written without an exponent is read back.

The text has the digits of the shortest decimal without the zeros at their end, and zeros
or a point that put them in their places (`value_layout`). It is a numeral of the same
number, and reading goes by the number alone.
-/

namespace Formulary

/-! ## Runs of digits -/

/-- The value of a row of digits is the one that the library gives it. -/
theorem ofDigits_eq (digits : List Char) : ofDigits digits = Nat.ofDigitChars 10 digits 0 :=
  Nat.ofDigitChars_eq_foldl.symm

/-- Digits in front of others count for a power of ten each. -/
theorem ofDigits_append (front rest : List Char) :
    ofDigits (front ++ rest) = 10 ^ rest.length * ofDigits front + ofDigits rest := by
  rw [ofDigits_eq, ofDigits_eq, ofDigits_eq, Nat.ofDigitChars_append,
    Nat.ofDigitChars_eq_ofDigitChars_zero]

theorem ofDigits_replicate (count : ℕ) : ofDigits (List.replicate count '0') = 0 := by
  rw [ofDigits_eq, Nat.ofDigitChars_replicate_zero, Nat.mul_zero]

/-- The digits of a number have it as their value. -/
theorem ofDigits_toDigits (n : ℕ) : ofDigits (Nat.toDigits 10 n) = n := by
  rw [ofDigits_eq, Nat.ofDigitChars_ten_toDigits]

/-- The digits of a number are the significant ones and zeros. -/
theorem exists_replicate_significantDigits (n : ℕ) :
    ∃ zeros, Nat.toDigits 10 n = significantDigits n ++ List.replicate zeros '0' := by
  refine ⟨((Nat.toDigits 10 n).reverse.takeWhile (· == '0')).length, ?_⟩
  have hzeros : (Nat.toDigits 10 n).reverse.takeWhile (· == '0') =
      List.replicate ((Nat.toDigits 10 n).reverse.takeWhile (· == '0')).length '0' := by
    rw [List.eq_replicate_iff]
    exact ⟨rfl, fun c member => by simpa using List.mem_takeWhile_imp member⟩
  rw [← List.reverse_inj, List.reverse_append, List.reverse_replicate, significantDigits,
    List.reverse_reverse, ← hzeros, List.takeWhile_append_dropWhile]

theorem isDigit_of_mem_significantDigits {n : ℕ} {c : Char} (h : c ∈ significantDigits n) :
    c.isDigit = true := by
  obtain ⟨zeros, hzeros⟩ := exists_replicate_significantDigits n
  apply Nat.isDigit_of_mem_toDigits (b := 10) (n := n) (by decide) (by decide)
  rw [hzeros]
  exact List.mem_append_left _ h

/-! ## Layout -/

/-- The value of a numeral without an exponent is that of its digits, moved by the length of the
fraction. -/
theorem value_toDecimal_of_plain {n : Numeral} (h : n.exponent = none) : n.toDecimal.value =
    ofDigits n.digits * 10 ^ (-((n.fraction.getD []).length : ℤ)) := by
  rw [Numeral.toDecimal, Decimal.value, h, Option.map_none, Option.getD_none, zero_sub]

/-- The digits with a point after the first `width` of them are a numeral. -/
theorem exists_numeral_positionalText {digits : List Char} (nonempty : digits ≠ [])
    (all : ∀ c ∈ digits, c.isDigit = true) (width : ℤ) :
    ∃ n : Numeral, n.WellFormed ∧ n.exponent = none ∧ positionalText digits width "" = n.text ∧
      n.toDecimal.value = ofDigits digits * 10 ^ (width - digits.length) := by
  have zeros (count : ℕ) : ∀ c ∈ List.replicate count '0', c.isDigit = true := by
    intro c member
    rw [List.eq_of_mem_replicate member]
    decide
  unfold positionalText
  split
  · next small =>
    -- All digits are behind the point, after as many zeros as the width tells.
    refine ⟨⟨['0'], some (List.replicate (-width).toNat '0' ++ digits), none⟩,
      ⟨by simp, ?_, by simp [Numeral.digits], by simp⟩, rfl, by simp [Numeral.text], ?_⟩
    · rintro fraction ⟨⟩
      exact List.forall_mem_append.2 ⟨zeros _, all⟩
    · have hzero : ofDigits ['0'] = 0 := rfl
      have hexponent : -((List.replicate (-width).toNat '0' ++ digits).length : ℤ) =
          width - digits.length := by
        rw [List.length_append, List.length_replicate]
        omega
      simp only [value_toDecimal_of_plain, Numeral.digits, Option.getD_some, ofDigits_append,
        ofDigits_replicate, hzero, mul_zero, zero_add, hexponent]
  · next positive =>
    split
    · next whole =>
      -- The digits are followed by zeros up to the width.
      refine ⟨⟨digits ++ List.replicate (width.toNat - digits.length) '0', none, none⟩,
        ⟨?_, by simp, by simp [Numeral.digits, nonempty], by simp⟩, rfl, by simp [Numeral.text], ?_⟩
      · exact List.forall_mem_append.2 ⟨all, zeros _⟩
      · have hexponent : width - digits.length = ((width.toNat - digits.length : ℕ) : ℤ) := by
          omega
        simp only [value_toDecimal_of_plain, Numeral.digits, Option.getD_none, List.append_nil,
          ofDigits_append, ofDigits_replicate, List.length_replicate, List.length_nil, hexponent,
          zpow_natCast]
        push_cast
        ring
    · next inside =>
      -- The point is between two of the digits.
      refine ⟨⟨digits.take width.toNat, some (digits.drop width.toNat), none⟩,
        ⟨fun c member => all c (List.mem_of_mem_take member), ?_,
          by simp [Numeral.digits, nonempty], by simp⟩, rfl, by simp [Numeral.text], ?_⟩
      · rintro fraction ⟨⟩ c member
        exact all c (List.mem_of_mem_drop member)
      · have hexponent : -((digits.drop width.toNat).length : ℤ) = width - digits.length := by
          rw [List.length_drop]
          omega
        simp only [value_toDecimal_of_plain, Numeral.digits, Option.getD_some,
          List.take_append_drop, hexponent]

/-- A positive decimal is written as a numeral of the same number. -/
theorem Decimal.exists_numeral {d : Decimal} (h : d.digits ≠ 0) :
    ∃ n : Numeral, n.WellFormed ∧ n.exponent = none ∧ d.text .plain = n.text ∧
      n.toDecimal.value = d.value := by
  obtain ⟨zeros, hzeros⟩ := exists_replicate_significantDigits d.digits
  have hdigits : d.digits = 10 ^ zeros * ofDigits (significantDigits d.digits) := by
    conv_lhs => rw [← ofDigits_toDigits d.digits, hzeros, ofDigits_append, ofDigits_replicate,
      List.length_replicate, add_zero]
  have nonempty : significantDigits d.digits ≠ [] := by
    intro hnil
    rw [hnil] at hdigits
    exact h hdigits
  obtain ⟨n, formed, plain, htext, hvalue⟩ := exists_numeral_positionalText nonempty
    (fun c member => isDigit_of_mem_significantDigits member)
    ((Nat.toDigits 10 d.digits).length + d.exponent)
  refine ⟨n, formed, plain, ?_, hvalue.trans ?_⟩
  · rw [text, if_neg h]
    exact htext
  · have hexponent : ((Nat.toDigits 10 d.digits).length + d.exponent : ℤ) -
        (significantDigits d.digits).length = zeros + d.exponent := by
      rw [hzeros, List.length_append, List.length_replicate]
      push_cast
      ring
    rw [hexponent, zpow_add₀ (by norm_num), zpow_natCast, value]
    conv_rhs => rw [hdigits]
    push_cast
    ring

/-! ## Doubles -/

/-- **A finite double is read back**: its text without an exponent is a numeral, and the numeral
is read as the double. -/
theorem exists_numeral_floatChars {bits : ℕ} (finite : bits < infinityBits) :
    ∃ n : Numeral, n.WellFormed ∧ n.exponent = none ∧
      floatChars .plain (Float.ofBits (UInt64.ofNat bits)) = n.text ∧
      n.toFloat = Float.ofBits (UInt64.ofNat bits) := by
  have hmagnitude : bits % Nat.pow 2 63 = bits := by
    apply Nat.mod_eq_of_lt
    unfold infinityBits at finite
    simp only [Nat.pow_eq]
    omega
  have hchars : floatChars .plain (Float.ofBits (UInt64.ofNat bits)) =
      if bits = 0 then Decimal.text .plain ⟨0, 0⟩ else (shortest .up bits).text .plain := by
    simp only [floatChars, isNaN_ofBits finite.le, toBits_ofBits finite.le, hmagnitude, finite.ne,
      Bool.false_eq_true, if_false, if_true]
    rfl
  rw [hchars]
  split
  · next zero =>
    subst zero
    exact ⟨⟨['0'], none, none⟩, ⟨by simp, by simp, by simp [Numeral.digits], by simp⟩, rfl, rfl,
      rfl⟩
  · next positive =>
    have hbits := bits_shortest .up (Nat.pos_of_ne_zero positive) finite
    have hdigits : (shortest .up bits).digits ≠ 0 := by
      intro hzero
      rw [Decimal.bits, if_pos hzero] at hbits
      exact positive hbits.symm
    obtain ⟨n, formed, plain, htext, hvalue⟩ := Decimal.exists_numeral hdigits
    refine ⟨n, formed, plain, htext, ?_⟩
    rw [Numeral.toFloat, Decimal.toFloat, Decimal.bits_congr hvalue, hbits]

/-- Infinity has no digits. -/
theorem floatChars_infinity (style : NumberStyle) :
    floatChars style infinity = ['i', 'n', 'f'] := by
  have hbits : infinity.toBits.toNat = infinityBits := toBits_ofBits le_rfl
  have hnumber : infinity.isNaN = false := isNaN_ofBits le_rfl
  simp only [floatChars, hnumber, hbits, infinityBits]
  rfl

end Formulary
