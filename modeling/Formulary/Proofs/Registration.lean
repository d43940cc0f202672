import Formulary.Proofs.Lexing.Spelling
import Formulary.Proofs.Lookup

/-!
# Formulary.Proofs.Registration

What registering operators does to a registry.

A registration fails for one of two reasons and else puts the operator behind the
others (`register_eq_ok_iff`), so a run of registrations appends the operators one by
one (`operators_registerAll`). What is said of a registry with more operators is said
for operators that are appended: look-ups find what they found and, where they found
nothing, one of the new operators (`resolve?_of_append`); the symbols are the old ones
and those of the new operators (`hasSymbol_of_append`).
-/

namespace Formulary

variable {σ : Type}

/-! ## Letter case -/

namespace Symbol

/-- Normalizing changes nothing but letter case. -/
@[simp] theorem upper_normalize (symbol : String) : upper (normalize symbol) = upper symbol := by
  unfold normalize
  split
  · exact upper_upper symbol
  · rfl

/-- Punctuation has no letters. -/
theorem isAlpha_of_isPunctuationChar {c : Char} (h : isPunctuationChar c = true) :
    c.isAlpha = false := by
  refine Bool.eq_false_iff.2 fun alpha => ?_
  have part : isWordPart c = true := isWordPart_of_isWordStart (by simp [isWordStart, alpha])
  rw [isPunctuationChar_of_isWordPart part] at h
  contradiction

/-- A symbol without letters is its own upper case. -/
theorem upper_of_not_isAlpha {symbol : String} (h : ∀ c ∈ symbol.toList, c.isAlpha = false) :
    upper symbol = symbol := by
  rw [← String.toList_inj, toList_upper]
  refine (List.map_congr_left fun c member => ?_).trans (List.map_id _)
  refine (toUpper_eq_or_isAlpha c).resolve_right fun letter => ?_
  exact Bool.false_ne_true ((h c member).symm.trans letter.1)

/-- Punctuation has no other letter case. -/
theorem eq_of_upper_eq {symbol other : String} (h : isPunctuation symbol = true)
    (same : upper other = upper symbol) : other = symbol := by
  have all : ∀ c ∈ symbol.toList, c.isAlpha = false := by
    simp only [isPunctuation, Bool.and_eq_true, List.all_eq_true] at h
    exact fun c member => isAlpha_of_isPunctuationChar (h.2 c member)
  rw [upper_of_not_isAlpha all] at same
  have others : ∀ c ∈ other.toList, c.isAlpha = false := by
    intro c member
    have upper : c.toUpper.isAlpha = false := by
      refine all _ ?_
      rw [← same, toList_upper]
      exact List.mem_map_of_mem member
    rcases toUpper_eq_or_isAlpha c with unchanged | ⟨-, letter⟩
    · rwa [unchanged] at upper
    · exact absurd (upper.symm.trans letter) Bool.false_ne_true
  rwa [upper_of_not_isAlpha others] at same

/-- A symbol in another letter case has the same normal form. -/
theorem normalize_eq_of_upper_eq {symbol other : String} (valid : isSymbol symbol = true)
    (normal : normalize symbol = symbol) (same : upper other = upper symbol) :
    normalize other = symbol := by
  have kind : isWord other = isWord symbol := by
    rw [← isWord_upper other, same, isWord_upper]
  cases word : isWord symbol with
  | true =>
    rw [normalize, if_pos word] at normal
    rw [normalize, if_pos (kind.trans word), same, normal]
  | false =>
    rw [normalize, if_neg (by simp [kind, word])]
    exact eq_of_upper_eq (by simpa [isSymbol, word] using valid) same

end Symbol

/-! ## Names that cannot be written -/

/-- A spelling is valid if its symbol can be lexed, as a word if it is a function, and its
separator can be lexed and told from the symbol. -/
theorem Spelling.invalidName?_eq_none_iff {spelling : Spelling} :
    spelling.invalidName? = none ↔
      (spelling.arity = .function → Symbol.isWord spelling.symbol = true) ∧
      Symbol.isSymbol spelling.symbol = true ∧
      ∀ separator, spelling.separator = some separator →
        separator ≠ spelling.symbol ∧ Symbol.isSymbol separator = true := by
  have isSymbol : Symbol.isWord spelling.symbol = true → Symbol.isSymbol spelling.symbol = true :=
    fun word => by simp [Symbol.isSymbol, word]
  unfold invalidName?
  split
  · cases word : Symbol.isWord spelling.symbol <;> simp_all [Option.filter_eq_none_iff]
  · cases named : Symbol.isSymbol spelling.symbol <;> simp_all [Option.filter_eq_none_iff]

namespace Operator

variable {operator : Operator σ}

/-- An operator has a valid name if its symbol can be written, a function name is a word, and a
separator can be written and told from the symbol. -/
theorem invalidName?_eq_none_iff : operator.invalidName? = none ↔
    (operator.arity = .function → Symbol.isWord operator.symbol = true) ∧
    Symbol.isSymbol operator.symbol = true ∧
    ∀ separator, operator.separator? = some separator →
      separator ≠ operator.symbol ∧ Symbol.isSymbol separator = true :=
  Spelling.invalidName?_eq_none_iff

/-- A symbol that cannot be lexed is the name that keeps the operator out. -/
theorem invalidName?_of_not_isSymbol (h : Symbol.isSymbol operator.symbol = false) :
    operator.invalidName? = some operator.symbol := by
  have notWord : Symbol.isWord operator.symbol = false := by
    simp only [Symbol.isSymbol, Bool.or_eq_false_iff] at h
    exact h.1
  unfold invalidName? Spelling.invalidName? spelling
  cases operator.arity <;> simp [h, notWord]

end Operator

namespace Registry

variable {registry other extended : Registry σ} {operator : Operator σ}
  {added : List (Operator σ)} {symbol : String} {arity : Arity}

/-- A registry is its operators. -/
@[ext] theorem ext (h : registry.operators = other.operators) : registry = other := by
  cases registry
  cases other
  cases h
  rfl

theorem key_eq (operator : Operator σ) : operator.key = (operator.symbol, operator.arity) := rfl

/-- An operator is found under its own key. -/
theorem resolve?_of_mem (member : operator ∈ registry.operators) :
    registry.resolve? operator.symbol operator.arity = some operator :=
  resolve?_eq_some_iff.2 ⟨member, operator.symbol_normal.symm, rfl⟩

theorem resolve?_eq_none_iff : registry.resolve? symbol arity = none ↔
    (Symbol.normalize symbol, arity) ∉ registry.keys := by
  simp [resolve?, keys, List.find?_eq_none]

/-! ## One registration -/

theorem register_of_invalid {name : String} (h : operator.invalidName? = some name) :
    registry.register operator = .error (.invalidName name) := by
  unfold register
  split
  · next found =>
    rw [h] at found
    cases found
    rfl
  · next valid => simp [h] at valid

/-- An operator whose key is taken is refused. -/
theorem register_of_taken (valid : operator.invalidName? = none)
    (taken : operator.key ∈ registry.keys) :
    registry.register operator = .error (.duplicate operator.symbol operator.arity) := by
  unfold register
  split
  · next found => simp [valid] at found
  · rw [dif_pos taken]

/-- A valid operator with a free key is put behind those that there are. -/
theorem exists_register (valid : operator.invalidName? = none)
    (free : operator.key ∉ registry.keys) :
    ∃ extended, registry.register operator = .ok extended ∧
      extended.operators = registry.operators ++ [operator] := by
  unfold register
  split
  · next found => simp [valid] at found
  · rw [dif_neg free]
    exact ⟨_, rfl, rfl⟩

/-- A registration succeeds if the operator is valid and its key is free, and puts the operator
behind the others. -/
theorem register_eq_ok_iff : registry.register operator = .ok extended ↔
    operator.invalidName? = none ∧ operator.key ∉ registry.keys ∧
      extended.operators = registry.operators ++ [operator] := by
  constructor
  · intro h
    cases valid : operator.invalidName? with
    | some name => simp [register_of_invalid valid] at h
    | none =>
      by_cases taken : operator.key ∈ registry.keys
      · simp [register_of_taken valid taken] at h
      · obtain ⟨extended', registered, operators⟩ := exists_register valid taken
        rw [registered] at h
        cases h
        exact ⟨rfl, taken, operators⟩
  · rintro ⟨valid, free, operators⟩
    obtain ⟨extended', registered, operators'⟩ := exists_register valid free
    rw [registered, ext (operators'.trans operators.symm)]

/-! ## More operators -/

/-- Registrations that all succeed append their operators. -/
theorem operators_registerAll (h : registry.registerAll added = .ok extended) :
    extended.operators = registry.operators ++ added := by
  induction added generalizing registry with
  | nil =>
    cases h
    simp
  | cons operator added ih =>
    rw [registerAll, List.foldlM_cons] at h
    cases registered : registry.register operator with
    | error e =>
      rw [registered] at h
      contradiction
    | ok next =>
      rw [registered] at h
      rw [ih h, (register_eq_ok_iff.1 registered).2.2, List.append_assoc]
      rfl

theorem registerAll_singleton : registry.registerAll [operator] = registry.register operator := by
  simp [registerAll]

section Append

variable (h : extended.operators = registry.operators ++ added)

include h

/-- Look-ups go through the old operators first. -/
theorem resolve?_of_append : extended.resolve? symbol arity =
    (registry.resolve? symbol arity).or
      (added.find? (·.key == (Symbol.normalize symbol, arity))) := by
  rw [resolve?, h, List.find?_append, resolve?]

/-- What was found is still found. -/
theorem resolve?_append_of_some (found : registry.resolve? symbol arity = some operator) :
    extended.resolve? symbol arity = some operator := by
  rw [resolve?_of_append h, found, Option.some_or]

/-- A look-up changes only if one of the new operators has the key. -/
theorem resolve?_append_of_ne
    (apart : ∀ operator ∈ added, operator.key ≠ (Symbol.normalize symbol, arity)) :
    extended.resolve? symbol arity = registry.resolve? symbol arity := by
  have none : added.find? (·.key == (Symbol.normalize symbol, arity)) = none :=
    List.find?_eq_none.2 fun operator member => by simpa using apart operator member
  rw [resolve?_of_append h, none, Option.or_none]

/-- A symbol is an old one or that of a new operator that is no function. -/
theorem hasSymbol_of_append : extended.HasSymbol symbol ↔ registry.HasSymbol symbol ∨
    ∃ operator ∈ added, operator.arity ≠ .function ∧
      (symbol = operator.symbol ∨ operator.separator? = some symbol) := by
  simp only [HasSymbol, h, List.mem_append, or_and_right, exists_or]

end Append

end Registry

end Formulary
