import Formulary.Builtin
import Formulary.Proofs.Agreement
import Formulary.Proofs.Reading.Compiles

/-!
# Formulary.Proofs.Unused

Registering an operator changes only the texts that use it.

A text uses an operator if one of its tokens is the symbol or the separator of the
operator, or if it calls a function by its name (`Operator.UnusedIn`). The tokens are
those under the larger registry: a new symbol may be longer than the one that was read
before, and is then among them. A text that does not use the operator has the same
tokens without it, is read as the same expression or refused with the same error, and
the expression compiles to the same evaluator (`Registry.same_of_unused`).
-/

namespace Formulary

variable {σ : Type}

/-- No token is a symbol by which the operator is written, and none is its name, in any letter
case, before a parenthesis. -/
structure Operator.UnusedIn (operator : Operator σ) (tokens : List Spanned) : Prop where
  symbol : ∀ spanned ∈ tokens, spanned.token ≠ .operator operator.symbol
  separator : ∀ separator, operator.separator? = some separator →
    ∀ spanned ∈ tokens, spanned.token ≠ .operator separator
  call : operator.arity = .function → ∀ name offset opening,
    [⟨.name name, offset⟩, ⟨.leftParen, opening⟩] <:+: tokens →
      Symbol.upper name ≠ Symbol.upper operator.symbol

namespace Registry

variable {registry extended : Registry σ} {operator : Operator σ} {text : String}

section Register

variable (h : extended.operators = registry.operators ++ [operator])
  (unused : operator.UnusedIn (extended.lexicon.tokens text).tokens)

include h unused

/-- The text has the symbols of the other operators only, so it has the same tokens. -/
theorem tokens_of_unused : registry.lexicon.tokens text = extended.lexicon.tokens text := by
  refine tokens_eq_of_hasSymbol (fun found => (hasSymbol_of_append h).2 (.inl found)) ?_
  intro spanned member symbol htoken
  have hsymbol := (hasSymbol_and_normalize_of_mem member htoken).1
  rcases (hasSymbol_of_append h).1 hsymbol with found | ⟨_, added, -, rfl | separated⟩
  · exact found
  · cases List.mem_singleton.1 added
    exact absurd htoken (unused.symbol spanned member)
  · cases List.mem_singleton.1 added
    exact absurd htoken (unused.separator symbol separated spanned member)

/-- The operator of a token is another one. -/
theorem resolve?_of_unused {spanned : Spanned} {symbol : String}
    (member : spanned ∈ (extended.lexicon.tokens text).tokens)
    (htoken : spanned.token = .operator symbol) (arity : Arity) :
    extended.resolve? symbol arity = registry.resolve? symbol arity := by
  have normal := (hasSymbol_and_normalize_of_mem member htoken).2
  refine resolve?_append_of_ne h fun other added => ?_
  rw [List.mem_singleton.1 added, key_eq, normal]
  rintro ⟨⟩
  exact unused.symbol spanned member htoken

/-- The function of a name before a parenthesis is another one. -/
theorem function?_of_unused {name : String} {offset opening : Nat}
    (calls : [⟨.name name, offset⟩, ⟨.leftParen, opening⟩] <:+:
      (extended.lexicon.tokens text).tokens) :
    extended.function? name = registry.function? name := by
  refine resolve?_append_of_ne h fun other added => ?_
  rw [List.mem_singleton.1 added, key_eq, Ne, Prod.mk.injEq]
  rintro ⟨hsymbol, harity⟩
  refine unused.call harity name offset opening calls ?_
  rw [hsymbol, Symbol.upper_normalize]

end Register

/-- The operators that an expression uses stay what they are when others are registered. -/
theorem shares_of_append {added : List (Operator σ)} {expr : Expr}
    (h : extended.operators = registry.operators ++ added)
    (faultless : expr.fault? registry = none) :
    ∀ node ∈ expr.nodes, Expr.Shares registry extended node := by
  intro node member symbol arity key
  obtain ⟨operator, found⟩ := Expr.exists_resolve?_of_fault? faultless member key
  rw [found, resolve?_append_of_some h found]

/-- **Registering an operator changes only the texts that use it.** A text that does not has the
same tokens and the same end or lexical error, and it is read as the same expression or refused
with the same error. The expression compiles, with the same evaluator for each table, so that it
evaluates in the same way, too. -/
theorem same_of_unused (registry extended : Registry σ) (operator : Operator σ)
    (registered : registry.register operator = .ok extended) (text : String) (maxDepth : Nat)
    (unused : operator.UnusedIn (extended.lexicon.tokens text).tokens) :
    extended.lexicon.tokens text = registry.lexicon.tokens text ∧
    Grammar.parse ⟨extended, maxDepth⟩ text = Grammar.parse ⟨registry, maxDepth⟩ text ∧
    ∀ expr, Grammar.parse ⟨registry, maxDepth⟩ text = .ok expr → ∀ folding table,
      ∃ evaluator after, expr.compile registry folding table = (.ok evaluator, after) ∧
        expr.compile extended folding table = (.ok evaluator, after) := by
  have h := (register_eq_ok_iff.1 registered).2.2
  have lexes := tokens_of_unused h unused
  refine ⟨lexes.symm, ?_, fun expr parses folding table => ?_⟩
  · refine Grammar.parse_eq_of_resolve? lexes.symm ?_ ?_
    · intro spanned member symbol htoken arity _
      exact resolve?_of_unused h unused (lexes ▸ member) htoken arity
    · intro name offset opening calls
      exact function?_of_unused h unused (lexes ▸ calls)
  · have faultless : expr.fault? registry = none := Grammar.fault?_of_parse parses
    obtain ⟨evaluator, compiled, -⟩ := @Expr.compile_eq_ok σ registry folding table expr faultless
    refine ⟨evaluator, _, compiled, ?_⟩
    rw [Expr.compile_congr (shares_of_append h faultless), compiled]

/-- The operator `??`, which is another one than `?`. -/
def fallback : Operator Generator := .ternary "??" "::" 1 fun _ => .ifTrue

/-- A text that has the symbol `?` and not the longer one. -/
theorem same_of_unused_fallback :
    let extended : Registry Generator :=
      ⟨Builtin.all ++ [fallback], by decide +kernel, by decide +kernel⟩
    Registry.builtin.register fallback = .ok extended ∧
      extended.lexicon.tokens "a ?-b: max(c, 1)" =
        (Registry.builtin : Registry Generator).lexicon.tokens "a ?-b: max(c, 1)" ∧
      Grammar.parse ⟨extended, 5⟩ "a ?-b: max(c, 1)" =
        Grammar.parse ⟨(Registry.builtin : Registry Generator), 5⟩ "a ?-b: max(c, 1)" := by
  intro extended
  have registered : Registry.builtin.register fallback = .ok extended :=
    register_eq_ok_iff.2 ⟨by decide +kernel, by decide +kernel, rfl⟩
  have unused : fallback.UnusedIn (extended.lexicon.tokens "a ?-b: max(c, 1)").tokens :=
    { symbol := by decide +kernel
      separator := by
        rintro separator ⟨⟩
        decide +kernel
      call := by
        intro isFunction
        contradiction }
  obtain ⟨lexes, reads, -⟩ := same_of_unused _ extended fallback registered _ 5 unused
  exact ⟨registered, lexes, reads⟩

end Registry

end Formulary
