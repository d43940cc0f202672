import Formulary.Builtin.Math
import Formulary.Proofs.Decimal.Order

/-!
# Formulary.Proofs.Aggregates

The least and the greatest argument.

Both aggregates fold an operation over their arguments that picks one of two numbers by an order
and passes over undefined ones (`Picks`). The fold starts from the undefined number and goes
through two phases: up to the first number it is undefined, from there on it is the extreme one
of the numbers so far. `Extreme` says both, one more argument preserves it (`Extreme.snoc`), and
so it holds of the result (`extreme_foldl`).

What numbers there are determines their extreme (`Extreme.unique`), in whatever order they come,
unless both zeros are among them: no order tells these apart, and the first of them is kept.
-/

namespace Formulary.Math

variable {r : Float → Float → Prop} {op : Float → Float → Float}

/-! ## Picking one of two numbers -/

/-- An order in which no numbers but the two zeros share a place. -/
structure Ranks (r : Float → Float → Prop) : Prop where
  trans {a b c : Float} : r a b → r b c → r a c
  antisymm {a b : Float} : r a b → r b a → a == b

theorem ranks_le : Ranks (· ≤ ·) := ⟨Double.le_trans, Double.beq_of_le_of_le⟩

theorem ranks_ge : Ranks (· ≥ ·) :=
  ⟨fun hab hbc => Double.le_trans hbc hab, fun hab hba => Double.beq_of_le_of_le hba hab⟩

/-- An operation that gives the operand that comes first in the order `r`, and passes over an
undefined one. Of two operands that share a place it may give either, as IEEE 754 leaves open for
the zeros. -/
structure Picks (op : Float → Float → Float) (r : Float → Float → Prop) : Prop where
  passes_left {a : Float} (b : Float) : a.isNaN → op a b = b
  passes_right (a : Float) {b : Float} : b.isNaN → op a b = a
  chooses {a b : Float} : ¬a.isNaN → ¬b.isNaN → op a b = a ∧ r a b ∨ op a b = b ∧ r b a

/-- The order is reflexive on numbers, since the operation keeps one of two equal arguments. -/
theorem Picks.refl (picks : Picks op r) {a : Float} (number : ¬a.isNaN) : r a a := by
  rcases picks.chooses number number with ⟨-, h⟩ | ⟨-, h⟩ <;> exact h

/-- To keep the first operand unless the second is strictly before it is to pick by the order. -/
theorem picks_of_before (before : Float → Float → Prop) [DecidableRel before]
    (op_eq : ∀ a b, op a b = if a.isNaN then b else if before b a then b else a)
    (numbers : ∀ {a b}, before a b → ¬a.isNaN ∧ ¬b.isNaN)
    (of_before : ∀ {a b}, before a b → r a b)
    (of_not_before : ∀ {a b}, ¬a.isNaN → ¬b.isNaN → ¬before b a → r a b) : Picks op r where
  passes_left {a} b undefined := by rw [op_eq, if_pos undefined]
  passes_right a b undefined := by
    rw [op_eq]
    by_cases ha : a.isNaN
    · rw [if_pos ha, Double.eq_of_isNaN undefined ha]
    · rw [if_neg ha, if_neg fun h => (numbers h).1 undefined]
  chooses {a b} ha hb := by
    rw [op_eq, if_neg ha]
    by_cases h : before b a
    · exact .inr ⟨if_pos h, of_before h⟩
    · exact .inl ⟨if_neg h, of_not_before ha hb h⟩

theorem picks_lesser : Picks lesser (· ≤ ·) :=
  picks_of_before (· < ·) (fun _ _ => rfl) Double.not_isNaN_of_lt Double.le_of_lt
    Double.le_of_not_lt

theorem picks_greater : Picks greater (· ≥ ·) :=
  picks_of_before (· > ·) (fun _ _ => rfl) (fun h => (Double.not_isNaN_of_lt h).symm)
    Double.le_of_lt (fun ha hb => Double.le_of_not_lt hb ha)

/-! ## The extreme one of a list of numbers -/

/-- The extreme one of the numbers among the arguments by the order `r`; an undefined number if
there are none. -/
structure Extreme (r : Float → Float → Prop) (args : List Float) (result : Float) : Prop where
  isNaN_iff : result.isNaN ↔ ∀ x ∈ args, x.isNaN
  mem : ¬result.isNaN → result ∈ args
  bounds : ∀ x ∈ args, ¬x.isNaN → r result x

/-- The arguments that count, without the undefined ones. -/
def numbers (args : List Float) : List Float := args.filter fun x => !x.isNaN

variable {args others : List Float} {kept x : Float}

theorem mem_numbers_iff (number : ¬x.isNaN) : x ∈ numbers args ↔ x ∈ args := by
  rw [numbers, List.mem_filter, Bool.eq_false_of_not_eq_true number]
  exact and_iff_left rfl

/-- An undefined argument is none of the numbers. -/
theorem numbers_append_of_isNaN (undefined : x.isNaN) :
    numbers (args ++ [x]) = numbers args := by
  rw [numbers, List.filter_append, List.filter_singleton, undefined]
  exact List.append_nil _

namespace Extreme

/-- An argument that is a number and bounds all others is the extreme one. -/
theorem of_number (number : ¬kept.isNaN) (mem : kept ∈ args)
    (bounds : ∀ x ∈ args, ¬x.isNaN → r kept x) : Extreme r args kept where
  isNaN_iff := iff_of_false number fun undefined => number (undefined kept mem)
  mem _ := mem
  bounds := bounds

theorem nil : Extreme r [] undefinedNumber where
  isNaN_iff := iff_of_true Double.isNaN_undefinedNumber (List.forall_mem_nil _)
  mem number := absurd Double.isNaN_undefinedNumber number
  bounds := List.forall_mem_nil _

/-- The extreme one depends on the numbers only. -/
theorem congr (same : (numbers args).Perm (numbers others)) (h : Extreme r args kept) :
    Extreme r others kept := by
  have mem_iff {x : Float} (number : ¬x.isNaN) : x ∈ args ↔ x ∈ others := by
    rw [← mem_numbers_iff number, same.mem_iff, mem_numbers_iff number]
  by_cases undefined : kept.isNaN
  · have none : ∀ x ∈ others, x.isNaN := fun x hx => by
      by_contra number
      exact number (h.isNaN_iff.1 undefined x ((mem_iff number).2 hx))
    exact ⟨iff_of_true undefined none, absurd undefined, fun x hx => absurd (none x hx)⟩
  · exact of_number undefined ((mem_iff undefined).1 (h.mem undefined))
      fun x hx number => h.bounds x ((mem_iff number).2 hx) number

/-- One more argument. An undefined one changes nothing, the first number is the extreme one,
and any other is compared with the one that is kept. -/
theorem snoc (ranks : Ranks r) (picks : Picks op r) (h : Extreme r args kept) :
    Extreme r (args ++ [x]) (op kept x) := by
  have extend {p : Float → Prop} (init : ∀ y ∈ args, p y) (last : p x) :
      ∀ y ∈ args ++ [x], p y :=
    List.forall_mem_append.2 ⟨init, List.forall_mem_singleton.2 last⟩
  have last : x ∈ args ++ [x] := List.mem_append_right args List.mem_cons_self
  by_cases hx : x.isNaN
  · rw [picks.passes_right kept hx]
    exact h.congr (by rw [numbers_append_of_isNaN hx])
  by_cases hkept : kept.isNaN
  · rw [picks.passes_left x hkept]
    refine of_number hx last (extend ?_ fun _ => picks.refl hx)
    exact fun y hy number => absurd (h.isNaN_iff.1 hkept y hy) number
  rcases picks.chooses hkept hx with ⟨eq, before⟩ | ⟨eq, before⟩ <;> rw [eq]
  · refine of_number hkept (List.mem_append_left [x] (h.mem hkept)) ?_
    exact extend h.bounds fun _ => before
  · refine of_number hx last (extend ?_ fun _ => picks.refl hx)
    exact fun y hy number => ranks.trans before (h.bounds y hy number)

/-- There is only one extreme argument, unless both zeros are among them. -/
theorem unique (ranks : Ranks r) (zeros : ¬(0.0 ∈ args ∧ -0.0 ∈ args))
    (h : Extreme r args kept) (h' : Extreme r args x) : kept = x := by
  by_cases hkept : kept.isNaN
  · exact Double.eq_of_isNaN hkept (h'.isNaN_iff.2 (h.isNaN_iff.1 hkept))
  have hx : ¬x.isNaN := fun undefined => hkept (h.isNaN_iff.2 (h'.isNaN_iff.1 undefined))
  have mem := h.mem hkept
  have mem' := h'.mem hx
  rcases Double.eq_or_zeros (ranks.antisymm (h.bounds x mem' hx) (h'.bounds kept mem hkept))
    with eq | ⟨rfl, rfl⟩ | ⟨rfl, rfl⟩
  · exact eq
  · exact absurd ⟨mem, mem'⟩ zeros
  · exact absurd ⟨mem', mem⟩ zeros

end Extreme

/-- The run of the fold. -/
theorem extreme_foldl (ranks : Ranks r) (picks : Picks op r) (args : List Float) :
    Extreme r args (args.foldl op undefinedNumber) := by
  induction args using List.reverseRecOn with
  | nil => exact Extreme.nil
  | append_singleton args x ih =>
    rw [List.foldl_concat]
    exact ih.snoc ranks picks

/-- Neither the order of the arguments nor the undefined ones among them matter, unless both zeros
are among them. -/
theorem foldl_eq_of_perm (ranks : Ranks r) (picks : Picks op r)
    (zeros : ¬(0.0 ∈ args ∧ -0.0 ∈ args)) (same : (numbers others).Perm (numbers args)) :
    others.foldl op undefinedNumber = args.foldl op undefinedNumber :=
  ((extreme_foldl ranks picks others).congr same).unique ranks zeros
    (extreme_foldl ranks picks args)

/-! ## The aggregates -/

/-- The least and the greatest argument are undefined exactly if all arguments are; else they are
among the arguments that are numbers, and bound all of these. Unless both zeros are given, any
arguments with the same numbers, in whatever order and among whatever undefined ones, have the
same least and the same greatest. -/
theorem extreme_min_max (args : List Float) :
    Extreme (· ≤ ·) args (Math.min args) ∧ Extreme (· ≥ ·) args (Math.max args) ∧
      (¬(0.0 ∈ args ∧ -0.0 ∈ args) → ∀ others, (numbers others).Perm (numbers args) →
        Math.min others = Math.min args ∧ Math.max others = Math.max args) := by
  refine ⟨extreme_foldl ranks_le picks_lesser args, extreme_foldl ranks_ge picks_greater args, ?_⟩
  intro zeros others same
  exact ⟨foldl_eq_of_perm ranks_le picks_lesser zeros same,
    foldl_eq_of_perm ranks_ge picks_greater zeros same⟩

/-- Infinities, one of the zeros and undefined numbers, in another order. -/
theorem extreme_min_max_mixed :
    Math.min [-0.0, -infinity, undefinedNumber, 2.5]
        = Math.min [undefinedNumber, 2.5, -infinity, undefinedNumber, -0.0] ∧
      Math.max [-0.0, -infinity, undefinedNumber, 2.5]
        = Math.max [undefinedNumber, 2.5, -infinity, undefinedNumber, -0.0] := by
  refine (extreme_min_max _).2.2 ?_ _ (by decide)
  simp only [List.mem_cons, List.not_mem_nil, or_false]
  decide

end Formulary.Math
