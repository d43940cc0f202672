import Formulary.Expr.Reading

/-!
# Formulary.Proofs.Lookup

What looking up an operator says about it.

An operator found under a symbol and an arity is registered, has the normalized
symbol, and takes as many operands as the arity says (`resolve?_eq_some_iff`).
Its implementation is then the one of that arity, so a ternary operator has a
separator. The grammar sees an operator between operands as a `Joiner`;
`joiner?_eq_some` says of which operator.
-/

namespace Formulary

variable {σ : Type}

/-! ## Implementations by arity -/

namespace Operator

/-- A ternary operator has a separator. -/
theorem separator?_of_arity {operator : Operator σ} (h : operator.arity = .ternary) :
    ∃ separator, operator.separator? = some separator := by
  unfold arity Implementation.arity at h
  unfold separator?
  split at h <;> simp_all

/-- The right operand of an operator binds at least as tightly as the operator. -/
theorem precedence_le_rightPrecedence (operator : Operator σ) :
    operator.precedence.toNat ≤ operator.rightPrecedence := by
  unfold rightPrecedence
  split <;> omega

/-- The right operand of an operator need bind tighter than the operator by one at most. -/
theorem rightPrecedence_le (operator : Operator σ) :
    operator.rightPrecedence ≤ operator.precedence.toNat + 1 := by
  unfold rightPrecedence
  split <;> omega

end Operator

/-! ## Looking up operators -/

namespace Registry

variable {registry : Registry σ} {symbol : String} {arity : Arity} {operator : Operator σ}

/-- If no two operators share a key, each is found under its own. -/
theorem find?_key_of_mem {operators : List (Operator σ)} (member : operator ∈ operators)
    (distinct : (operators.map Operator.key).Nodup) :
    operators.find? (·.key == operator.key) = some operator := by
  induction operators with
  | nil => exact absurd member (List.not_mem_nil)
  | cons other operators ih =>
    rw [List.map_cons, List.nodup_cons] at distinct
    rw [List.find?_cons]
    rcases List.mem_cons.1 member with rfl | member
    · simp
    · have apart : other.key ≠ operator.key := by
        intro same
        exact distinct.1 (same ▸ List.mem_map_of_mem member)
      rw [beq_false_of_ne apart]
      exact ih member distinct.2

/-- An operator is found under the normalized symbol and the arity that it has, and only there. -/
theorem resolve?_eq_some_iff : registry.resolve? symbol arity = some operator ↔
    operator ∈ registry.operators ∧ operator.symbol = Symbol.normalize symbol ∧
      operator.arity = arity := by
  unfold resolve?
  constructor
  · intro h
    have same : operator.key = (Symbol.normalize symbol, arity) := by
      simpa using List.find?_some h
    rw [Operator.key, Spelling.key, Operator.spelling, Prod.mk.injEq] at same
    exact ⟨List.mem_of_find?_eq_some h, same⟩
  · rintro ⟨member, hsymbol, harity⟩
    have same : (Symbol.normalize symbol, arity) = operator.key := by
      rw [← hsymbol, ← harity]
      rfl
    rw [same]
    exact find?_key_of_mem member registry.distinct

theorem separator?_of_resolve? (h : registry.resolve? symbol .ternary = some operator) :
    ∃ separator, operator.separator? = some separator :=
  Operator.separator?_of_arity (resolve?_eq_some_iff.1 h).2.2

theorem symbol_of_function? (h : registry.function? symbol = some operator) :
    operator.symbol = Symbol.normalize symbol :=
  (resolve?_eq_some_iff.1 h).2.1

/-- No separator of a ternary operator is a binary or ternary operator itself. -/
def SeparatorsApart (registry : Registry σ) : Prop :=
  ∀ operator ∈ registry.operators, ∀ separator, operator.separator? = some separator →
    registry.resolve? separator .binary = none ∧ registry.resolve? separator .ternary = none

instance : Decidable registry.SeparatorsApart :=
  decidable_of_iff (∀ operator ∈ registry.operators, operator.separator?.all fun separator =>
      (registry.resolve? separator .binary).isNone && (registry.resolve? separator .ternary).isNone)
    (by simp only [SeparatorsApart, Option.all_eq_true, Bool.and_eq_true,
      Option.isNone_iff_eq_none])

end Registry

/-! ## Operators between operands -/

/-- A construct that leaves an operator to its operand leaves it those that bind tighter, too. -/
theorem Construct.admits_mono {construct : Construct} {a b : Nat} (le : a ≤ b)
    (h : construct.admits a = true) : construct.admits b = true := by
  cases construct <;> simp only [admits, decide_eq_true_eq] at h ⊢ <;> omega

namespace Grammar

variable {grammar : Grammar σ} {symbol : String}

/-- How a binary operator goes on after an operand. -/
def binaryJoiner (operator : Operator σ) : Joiner :=
  ⟨operator.precedence.toNat, operator.rightPrecedence, none⟩

/-- How a ternary operator goes on after an operand. -/
def ternaryJoiner (operator : Operator σ) (separator : String) : Joiner :=
  ⟨operator.precedence.toNat, operator.rightPrecedence, some separator⟩

/-- A binary operator joins the operand before it. -/
theorem joiner?_of_binary {operator : Operator σ}
    (h : grammar.registry.resolve? symbol .binary = some operator) :
    grammar.joiner? symbol = some (binaryJoiner operator) := by
  rw [joiner?, h]
  rfl

/-- A ternary operator joins the operand before it if its symbol is that of no binary one. -/
theorem joiner?_of_ternary {operator : Operator σ} {separator : String}
    (notBinary : grammar.registry.resolve? symbol .binary = none)
    (h : grammar.registry.resolve? symbol .ternary = some operator)
    (hsep : operator.separator? = some separator) :
    grammar.joiner? symbol = some (ternaryJoiner operator separator) := by
  rw [joiner?, notBinary, h]
  simp [ternaryJoiner, hsep]

theorem joiner?_eq_none (notBinary : grammar.registry.resolve? symbol .binary = none)
    (notTernary : grammar.registry.resolve? symbol .ternary = none) :
    grammar.joiner? symbol = none := by
  rw [joiner?, notBinary, notTernary]
  rfl

/-- A joiner is a binary operator or, if the symbol is none, a ternary one with its separator. -/
theorem joiner?_eq_some {joiner : Joiner} (h : grammar.joiner? symbol = some joiner) :
    (∃ operator, grammar.registry.resolve? symbol .binary = some operator ∧
      joiner = binaryJoiner operator) ∨
    (∃ operator separator, grammar.registry.resolve? symbol .binary = none ∧
      grammar.registry.resolve? symbol .ternary = some operator ∧
      operator.separator? = some separator ∧ joiner = ternaryJoiner operator separator) := by
  cases hbinary : grammar.registry.resolve? symbol .binary with
  | some operator =>
    rw [joiner?_of_binary hbinary] at h
    exact .inl ⟨operator, rfl, (Option.some.inj h).symm⟩
  | none =>
    cases hternary : grammar.registry.resolve? symbol .ternary with
    | none =>
      rw [joiner?_eq_none hbinary hternary] at h
      contradiction
    | some operator =>
      obtain ⟨separator, hsep⟩ := Registry.separator?_of_resolve? hternary
      rw [joiner?_of_ternary hbinary hternary hsep] at h
      exact .inr ⟨operator, separator, rfl, rfl, hsep, (Option.some.inj h).symm⟩

/-- A signature is that of a function in the registry. -/
theorem signature?_eq_some {name symbol : String} {bounds : ArgBounds}
    (h : grammar.signature? name = some (symbol, bounds)) :
    ∃ operator, grammar.registry.function? name = some operator ∧
      operator.bounds? = some bounds ∧ symbol = Symbol.normalize name := by
  simp only [signature?, Option.bind_eq_bind, Option.bind_eq_some_iff] at h
  obtain ⟨operator, hop, bounds', hbounds, hpair⟩ := h
  simp only [Option.pure_def, Option.some.injEq, Prod.mk.injEq] at hpair
  obtain ⟨hsymbol, rfl⟩ := hpair
  exact ⟨operator, hop, hbounds, by rw [← hsymbol, Registry.symbol_of_function? hop]⟩

theorem signature?_of_function? {name : String} {operator : Operator σ} {bounds : ArgBounds}
    (h : grammar.registry.function? name = some operator)
    (hbounds : operator.bounds? = some bounds) :
    grammar.signature? name = some (Symbol.normalize name, bounds) := by
  simp [signature?, h, hbounds, Registry.symbol_of_function? h]

end Grammar

end Formulary
