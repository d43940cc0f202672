import Formulary.Proofs.Lexing.Written
import Formulary.Proofs.Registration

/-!
# Formulary.Proofs.Lexing.Whole

The symbols of a registry as texts of their own.

A text is one token if nothing else is in it (`Lexicon.IsToken`), and a slice that spells
a token is such a text (`Spells.isToken`). The symbol of a registered operator is one
operator token, namely itself. So is a separator that is written as symbols are kept, and
only such a one (`Registry.isToken_separator_iff`): words are looked up in upper case, so a
separator that is a word in another case is never found. What could not be lexed under any
registry is refused (`Registry.isToken_symbols`).
-/

namespace Formulary

variable {σ : Type}

/-- The text is one token, from its start to its end. -/
def Lexicon.IsToken (lexicon : Lexicon) (text : String) (token : Token) : Prop :=
  lexicon.tokens text = ⟨[⟨token, 0⟩], .ok (Text.byteLength text.toList)⟩

/-- A text is one token at most. -/
theorem Lexicon.IsToken.unique {lexicon : Lexicon} {text : String} {token token' : Token}
    (h : lexicon.IsToken text token) (h' : lexicon.IsToken text token') : token = token' := by
  have same := h.symm.trans h'
  simpa using same

namespace Spells

variable {registry : Registry σ} {kind : Lettering} {text word : String} {token : Token}

/-- A text that spells a token is that token alone. -/
theorem isToken (h : Spells registry kind text.toList token) :
    registry.lexicon.IsToken text token := by
  have longest : Longest registry kind (text.toList ++ []) text.toList token := h.longest .nil
  have divided : Divided registry [] ([] ++ (text.toList ++ [])) _ _ :=
    .token isBlank_nil longest (.last (.finish isBlank_nil))
  simpa [Lexicon.IsToken, Lexicon.tokens, Cursor.ofText] using divided.tokensFrom_eq

/-- A word that is a symbol in upper case spells the operator. -/
theorem operator_toList (h : Symbol.isWord word = true)
    (registered : registry.HasSymbol (Symbol.upper word)) :
    Spells registry .word word.toList (.operator (Symbol.upper word)) := by
  have spells := @Spells.operator σ registry word.toList h (by rwa [String.ofList_toList])
  rwa [String.ofList_toList] at spells

/-- A word that is no symbol in upper case spells a name. -/
theorem name_toList (h : Symbol.isWord word = true)
    (free : ¬ registry.HasSymbol (Symbol.upper word)) :
    Spells registry .word word.toList (.name word) := by
  have spells := @Spells.name σ registry word.toList h (by rwa [String.ofList_toList])
  rwa [String.ofList_toList] at spells

end Spells

namespace Registry

variable {registry : Registry σ} {operator : Operator σ} {symbol separator : String}

/-- A symbol in the form in which symbols are kept is one token. -/
theorem HasSymbol.isToken (h : registry.HasSymbol symbol)
    (normal : Symbol.normalize symbol = symbol) :
    registry.lexicon.IsToken symbol (.operator symbol) := by
  cases word : Symbol.isWord symbol with
  | false => exact (Spells.punctuation h word).isToken
  | true =>
    rw [Symbol.normalize, if_pos word] at normal
    have spells := @Spells.operator_toList σ registry symbol word (by rwa [normal])
    rw [normal] at spells
    exact spells.isToken

/-- A word is an operator in upper case or a name, so in another case it is no symbol. -/
theorem not_isToken_of_normalize_ne (different : Symbol.normalize symbol ≠ symbol) :
    ¬ registry.lexicon.IsToken symbol (.operator symbol) := by
  intro isToken
  have word : Symbol.isWord symbol = true := by
    by_contra notWord
    exact different (by rw [Symbol.normalize, if_neg notWord])
  rw [Symbol.normalize, if_pos word] at different
  by_cases registered : registry.HasSymbol (Symbol.upper symbol)
  · have same := isToken.unique (Spells.operator_toList word registered).isToken
    rw [Token.operator.injEq] at same
    exact different same.symm
  · have same := isToken.unique (Spells.name_toList word registered).isToken
    contradiction

theorem hasSymbol_symbol (member : operator ∈ registry.operators)
    (notFunction : operator.arity ≠ .function) : registry.HasSymbol operator.symbol :=
  ⟨operator, member, notFunction, .inl rfl⟩

theorem hasSymbol_separator (member : operator ∈ registry.operators)
    (notFunction : operator.arity ≠ .function) (h : operator.separator? = some separator) :
    registry.HasSymbol separator :=
  ⟨operator, member, notFunction, .inr h⟩

/-- The separator of a registered operator is one token if it is written as symbols are kept. -/
theorem isToken_separator_iff (member : operator ∈ registry.operators)
    (notFunction : operator.arity ≠ .function) (h : operator.separator? = some separator) :
    registry.lexicon.IsToken separator (.operator separator) ↔
      Symbol.normalize separator = separator := by
  refine ⟨fun isToken => ?_, (hasSymbol_separator member notFunction h).isToken⟩
  by_contra different
  exact not_isToken_of_normalize_ne different isToken

/-- What may be a symbol is one, in the registry of a prefix operator that has it. -/
theorem exists_isToken (valid : Symbol.isSymbol symbol = true)
    (normal : Symbol.normalize symbol = symbol) :
    ∃ registry : Registry σ, registry.lexicon.IsToken symbol (.operator symbol) := by
  let operator : Operator σ := ⟨symbol, 0, .right, .unary (.steady .ok), normal⟩
  have named : operator.invalidName? = none :=
    Operator.invalidName?_eq_none_iff.2 ⟨nofun, valid, nofun⟩
  have free : operator.key ∉ (empty : Registry σ).keys := List.not_mem_nil
  obtain ⟨extended, -, operators⟩ := exists_register named free
  have member : operator ∈ extended.operators := by simp [operators]
  exact ⟨extended, (hasSymbol_symbol member nofun).isToken normal⟩

/-- **What is registered can be lexed**: the symbol of an operator, functions apart, is one token
and this token is the symbol. The same holds of a separator that is written as symbols are kept,
and not of any other. What is no such token under any registry is refused, be it the symbol or a
separator that is written as symbols are kept. -/
theorem isToken_symbols (registry : Registry σ) :
    (∀ operator ∈ registry.operators, operator.arity ≠ .function →
      registry.lexicon.IsToken operator.symbol (.operator operator.symbol) ∧
      ∀ separator, operator.separator? = some separator →
        (registry.lexicon.IsToken separator (.operator separator) ↔
          Symbol.normalize separator = separator)) ∧
    (∀ operator : Operator σ,
      (∀ other : Registry σ,
        ¬ other.lexicon.IsToken operator.symbol (.operator operator.symbol)) →
      registry.register operator = .error (.invalidName operator.symbol)) ∧
    (∀ (operator : Operator σ) (separator : String), operator.separator? = some separator →
      Symbol.normalize separator = separator →
      (∀ other : Registry σ, ¬ other.lexicon.IsToken separator (.operator separator)) →
      ∃ name, registry.register operator = .error (.invalidName name)) := by
  have refused {symbol : String} (normal : Symbol.normalize symbol = symbol)
      (never : ∀ other : Registry σ, ¬ other.lexicon.IsToken symbol (.operator symbol)) :
      Symbol.isSymbol symbol = false := by
    by_contra valid
    obtain ⟨other, isToken⟩ := exists_isToken (σ := σ) (Bool.of_not_eq_false valid) normal
    exact never other isToken
  refine ⟨fun operator member notFunction => ⟨?_, fun separator h => ?_⟩, fun operator never => ?_,
    fun operator separator h normal never => ?_⟩
  · exact (hasSymbol_symbol member notFunction).isToken operator.symbol_normal
  · exact isToken_separator_iff member notFunction h
  · exact register_of_invalid
      (Operator.invalidName?_of_not_isSymbol (refused operator.symbol_normal never))
  · cases named : operator.invalidName? with
    | some name => exact ⟨name, register_of_invalid named⟩
    | none =>
      have valid := ((Operator.invalidName?_eq_none_iff.1 named).2.2 separator h).2
      rw [refused normal never] at valid
      contradiction

/-- A ternary operator whose separator is a word in lower case, kept as it was given. -/
def clamp : Operator Unit := .make "@" 1 .right (.ternary "to" (.steady fun _ => .ifTrue))

/-- Such an operator is registered, although its separator is read as a name. -/
theorem not_isToken_separator_clamp :
    ∃ registry : Registry Unit, Registry.empty.register clamp = .ok registry ∧
      clamp ∈ registry.operators ∧ clamp.arity ≠ .function ∧ clamp.separator? = some "to" ∧
      registry.lexicon.IsToken "to" (.name "to") ∧
      ¬ registry.lexicon.IsToken "to" (.operator "to") := by
  let registry : Registry Unit := ⟨[clamp], by decide +kernel, by decide +kernel⟩
  have registered : Registry.empty.register clamp = .ok registry :=
    register_eq_ok_iff.2 ⟨by decide +kernel, List.not_mem_nil, rfl⟩
  have name : registry.lexicon.IsToken "to" (.name "to") := by
    have free : ¬ registry.HasSymbol (Symbol.upper "to") := by
      rw [← registry.isOperatorWord_iff (by decide +kernel)]
      decide +kernel
    exact (Spells.name_toList (by decide +kernel) free).isToken
  exact ⟨registry, registered, List.mem_singleton_self clamp, nofun, rfl, name,
    fun isToken => nomatch name.unique isToken⟩

end Registry

end Formulary
