import Formulary.Proofs.Decimal.Double

/-!
# Formulary.Proofs.Decimal.Order

The order of the doubles.

A double that is a number has a place in a linear order: by its sign and kind first, then by its
exponent, then by its significand. To compare two doubles is to compare their places (`lt_iff`,
`le_iff`, `beq_iff`); the undefined number has none, so it stands in no relation to any double.
What holds of a linear order thus holds of the numbers, but for the two zeros, which share a
place (`eq_or_zeros`).
-/

namespace Formulary.Double

open Float.Model

/-! ## Places in a linear order -/

/-- To compare pairs in lexicographic order is to compare their parts one after the other. -/
theorem compare_toLex {α β : Type*} [LinearOrder α] [LinearOrder β] (a c : α) (b d : β) :
    compare (toLex (a, b)) (toLex (c, d)) = (compare a c).then (compare b d) := by
  rw [Prod.Lex.compare_def]
  rfl

/-- Changing the signs reverses a comparison, as between negative doubles. -/
theorem compare_neg (m n : ℤ) : compare (-m) (-n) = (compare m n).swap := by
  rw [← cmp_eq_compare, ← cmp_eq_compare, cmp_swap]
  exact StrictAnti.cmp_map_eq (fun _ _ h => neg_lt_neg h) m n

theorem compare_cast (m n : ℕ) : compare (m : ℤ) n = compare m n := by
  rw [← cmp_eq_compare, ← cmp_eq_compare]
  exact Int.natCast_strictMono.cmp_map_eq m n

/-- The place of an unpacked double among the numbers. -/
def unpackedPlace? : UnpackedFloat → Option (ℤ ×ₗ ℤ ×ₗ ℤ)
  | .notANumber => none
  | .zero _ => some (toLex (0, toLex (0, 0)))
  | .finite sign significand exponent _ =>
    some (toLex (sign.apply 1, toLex (sign.apply exponent, sign.apply significand)))
  | .infinity sign => some (toLex (sign.apply 2, toLex (0, 0)))

/-- To compare two doubles is to compare their places. Without a place there is no outcome. -/
theorem compare_eq (a b : UnpackedFloat) :
    a.compare b = Option.map₂ compare (unpackedPlace? a) (unpackedPlace? b) := by
  rcases a with (_ | _) | _ | _ | ⟨_ | _, m, e, _⟩ <;>
    rcases b with (_ | _) | _ | _ | ⟨_ | _, m', e', _⟩ <;>
    simp only [unpackedPlace?, Option.map₂_some_some, compare_toLex]
  -- The sign and the kind decide all cases but two, in which they are the same.
  case finite.negative.finite.negative =>
    show some ((compare e e').then (compare m m')).swap
      = some ((compare (-e) (-e')).then (compare (-m : ℤ) (-m')))
    rw [compare_neg, compare_neg, compare_cast, Ordering.swap_then]
  case finite.positive.finite.positive =>
    show some ((compare e e').then (compare m m'))
      = some ((compare e e').then (compare (m : ℤ) m'))
    rw [compare_cast]
  all_goals rfl

/-- The place of a double among the numbers. -/
def place? (x : Float) : Option (ℤ ×ₗ ℤ ×ₗ ℤ) := unpackedPlace? x.toModel.unpack

variable {a b c : Float}

/-- Only the undefined number has no place. -/
theorem place?_eq_none_iff : place? a = none ↔ a.isNaN := by
  show unpackedPlace? a.toModel.unpack = none ↔ a.toModel.unpack.isNaN
  cases a.toModel.unpack <;> simp [unpackedPlace?]

/-- Every number has a place. -/
theorem exists_place (number : ¬a.isNaN) : ∃ p, p ∈ place? a :=
  Option.ne_none_iff_exists'.1 fun none => number (place?_eq_none_iff.1 none)

/-- What has a place is a number. -/
theorem not_isNaN_of_mem {p : ℤ ×ₗ ℤ ×ₗ ℤ} (h : p ∈ place? a) : ¬a.isNaN := by
  rw [← place?_eq_none_iff, Option.mem_def.1 h]
  exact Option.some_ne_none p

/-! ## Comparisons -/

/-- One double is less than another if both have places and its place comes first. -/
theorem lt_iff : a < b ↔ ∃ p q, p ∈ place? a ∧ q ∈ place? b ∧ p < q := by
  show decide (UnpackedFloat.lt a.toModel.unpack b.toModel.unpack = true) = true ↔ _
  rw [decide_eq_true_eq, UnpackedFloat.lt, compare_eq, beq_iff_eq, Option.map₂_eq_some_iff]
  simp only [compare_lt_iff_lt, place?]

/-- One double is at most another if both have places and the place of the other does not come
first. -/
theorem le_iff : a ≤ b ↔ ∃ p q, p ∈ place? a ∧ q ∈ place? b ∧ p ≤ q := by
  show decide (UnpackedFloat.le a.toModel.unpack b.toModel.unpack = true) = true ↔ _
  rw [decide_eq_true_eq, UnpackedFloat.le, compare_eq]
  cases ha : unpackedPlace? a.toModel.unpack <;> cases hb : unpackedPlace? b.toModel.unpack <;>
    simp [place?, ha, hb, Ordering.isLE_iff_ne_gt, compare_le_iff_le]

/-- Two doubles are equal as numbers if they share a place, which the two zeros do. -/
theorem beq_iff : a == b ↔ ∃ p q, p ∈ place? a ∧ q ∈ place? b ∧ p = q := by
  show UnpackedFloat.beq a.toModel.unpack b.toModel.unpack = true ↔ _
  rw [UnpackedFloat.beq, compare_eq, beq_iff_eq, Option.map₂_eq_some_iff]
  simp only [compare_eq_iff_eq, place?]

/-! ## The order of the numbers -/

/-- The order is transitive, with no condition on undefined numbers: none is in it. -/
theorem le_trans (hab : a ≤ b) (hbc : b ≤ c) : a ≤ c := by
  obtain ⟨p, q, hp, hq, hpq⟩ := le_iff.1 hab
  obtain ⟨q', s, hq', hs, hqs⟩ := le_iff.1 hbc
  cases Option.mem_unique hq hq'
  exact le_iff.2 ⟨p, s, hp, hs, hpq.trans hqs⟩

/-- Two doubles that are at most each other are equal as numbers. They may be the two zeros. -/
theorem beq_of_le_of_le (hab : a ≤ b) (hba : b ≤ a) : a == b := by
  obtain ⟨p, q, hp, hq, hpq⟩ := le_iff.1 hab
  obtain ⟨q', p', hq', hp', hqp⟩ := le_iff.1 hba
  cases Option.mem_unique hp hp'
  cases Option.mem_unique hq hq'
  exact beq_iff.2 ⟨p, q, hp, hq, le_antisymm hpq hqp⟩

theorem le_of_lt (h : a < b) : a ≤ b := by
  obtain ⟨p, q, hp, hq, hpq⟩ := lt_iff.1 h
  exact le_iff.2 ⟨p, q, hp, hq, hpq.le⟩

/-- Of two numbers one is at most the other. -/
theorem le_of_not_lt (ha : ¬a.isNaN) (hb : ¬b.isNaN) (h : ¬b < a) : a ≤ b := by
  obtain ⟨p, hp⟩ := exists_place ha
  obtain ⟨q, hq⟩ := exists_place hb
  exact le_iff.2 ⟨p, q, hp, hq, not_lt.1 fun hqp => h (lt_iff.2 ⟨q, p, hq, hp, hqp⟩)⟩

/-- Only numbers are compared. -/
theorem not_isNaN_of_lt (h : a < b) : ¬a.isNaN ∧ ¬b.isNaN := by
  obtain ⟨p, q, hp, hq, -⟩ := lt_iff.1 h
  exact ⟨not_isNaN_of_mem hp, not_isNaN_of_mem hq⟩

/-- Two doubles with the same place are the same, or they are the two zeros. -/
theorem eq_or_zeros (h : a == b) : a = b ∨ (a = 0.0 ∧ b = -0.0) ∨ (a = -0.0 ∧ b = 0.0) :=
  (Float.beq_iff_ne_nan_and_eq.1 h).2.2

/-- There is but one undefined number. -/
theorem eq_of_isNaN (ha : a.isNaN) (hb : b.isNaN) : a = b := by
  rw [Float.isNaN_eq_decide_eq_nan, decide_eq_true_eq] at ha hb
  rw [ha, hb]

theorem isNaN_undefinedNumber : undefinedNumber.isNaN := by decide

end Formulary.Double
