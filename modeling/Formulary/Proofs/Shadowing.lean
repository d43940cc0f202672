import Formulary.Builtin
import Formulary.Proofs.Agreement
import Formulary.Proofs.Lexing.Spaced

/-!
# Formulary.Proofs.Shadowing

When operators that are added leave a text what it was.

No operator replaces another one with the same symbol and arity, but a token may still be
taken for something else. A name of the text may be a symbol of an added operator. A binary
operator goes before a ternary one with the same symbol, and a binary or ternary operator
goes before a separator (`Operator.Crosses`). If neither happens and white space keeps the
tokens apart, a text that was read as an expression is read as the same expression
(`Registry.parse_of_spares`). The argument is about single steps: each step of a run that
succeeds has found an operator or a function, or the separator that a ternary operator
waits for, and finds it again (`Grammar.alike_of_step`).

Of the built-in operators only `? :` is ternary, so three keys are to be avoided
(`Registry.parse_of_registerAll_builtin`). They are free, and registering one is not refused
(`Registry.not_parse_of_register_question`).
-/

namespace Formulary

variable {σ : Type}

/-! ## What waits for a separator -/

/-- The operator would be read where the symbol or the separator of the ternary one stands. -/
def Operator.Crosses (operator ternary : Operator σ) : Prop :=
  operator.key = (ternary.symbol, .binary) ∨ ∃ separator, ternary.separator? = some separator ∧
    (operator.key = (separator, .binary) ∨ operator.key = (separator, .ternary))

/-- What waits for its separator was begun by its symbol. -/
theorem Bracketed.Begun.exists_of_ternary {registry : Registry σ} {pending : List Construct}
    {before : List Spanned} (begun : Begun registry pending before)
    {symbol separator : String} {offset floor : Nat} {condition : Subtree}
    (waits : .ternary symbol separator offset floor condition ∈ pending) :
    ∃ operator, registry.resolve? symbol .ternary = some operator ∧
      operator.separator? = some separator ∧ ⟨.operator symbol, offset⟩ ∈ before := by
  induction begun with
  | nil => contradiction
  | ternary begun notBinary resolved separated taken offset ih =>
    rcases List.mem_cons.1 waits with same | outer
    · cases same
      exact ⟨_, resolved, separated, by simp⟩
    · obtain ⟨operator, resolved, separated, member⟩ := ih outer
      exact ⟨operator, resolved, separated, List.mem_append_left _ member⟩
  | _ =>
    rename_i ih
    obtain ⟨operator, resolved, separated, member⟩ :=
      ih ((List.mem_cons.1 waits).resolve_left nofun)
    exact ⟨operator, resolved, separated, List.mem_append_left _ member⟩

/-- The constructs that wait were begun by some of the tokens that led to the reading. -/
theorem Bracketed.Reached.exists_begun {registry : Registry σ} {reading : Reading}
    {spans : List Spanned} (reached : Reached registry reading spans) :
    ∃ before, Begun registry reading.pending before ∧ before ⊆ spans := by
  cases reached with
  | expression begun => exact ⟨_, begun, List.Subset.refl _⟩
  | operand begun => exact ⟨_, begun, List.Subset.refl _⟩
  | name begun text offset => exact ⟨_, begun, List.subset_append_left _ _⟩
  | complete begun operand tight => exact ⟨_, begun, List.subset_append_left _ _⟩

namespace Grammar

open Bracketed

variable {grammar : Grammar σ} {reading next : Reading} {spanned : Spanned}
  {pending : List Construct} {tree : Subtree} {symbol : String}

/-! ## What a step that succeeds has found -/

theorem isUnary_of_beginOperand (token : spanned.token = .operator symbol)
    (h : grammar.beginOperand pending spanned = .ok next) : grammar.isUnary symbol = true := by
  simp only [beginOperand, token] at h
  split at h
  · assumption
  · contradiction

theorem isUnary_of_beginExpression (token : spanned.token = .operator symbol)
    (h : grammar.beginExpression pending spanned = .ok next) : grammar.isUnary symbol = true := by
  unfold beginExpression at h
  split at h
  · simp_all
  · contradiction
  · contradiction
  · contradiction
  · obtain ⟨-, -, hbegin⟩ := exists_of_bind_eq_ok h
    exact isUnary_of_beginOperand token hbegin

/-- An operator behind an operand joins it, or it is the separator that a ternary operator waits
for. -/
theorem joiner?_or_separator_of_proceed (token : spanned.token = .operator symbol)
    (h : grammar.proceed spanned tree pending = .ok next) :
    (∃ joiner, grammar.joiner? symbol = some joiner) ∨ ∃ opener offset floor condition,
      .ternary opener symbol offset floor condition ∈ pending := by
  have joined {pending : List Construct} {found : String} {joiner : Joiner}
      (h : grammar.joins? pending spanned.token = some (found, joiner)) :
      ∃ joiner, grammar.joiner? symbol = some joiner := by
    obtain ⟨htoken, hjoiner, -⟩ := joins?_eq_some h
    cases token.symm.trans htoken
    exact ⟨joiner, hjoiner⟩
  induction pending generalizing tree with
  | nil =>
    unfold proceed at h
    split at h
    · next hjoins => exact .inl (joined hjoins)
    · simp [token] at h
  | cons construct outer ih =>
    have behind {larger : Subtree} (h : grammar.proceed spanned larger outer = .ok next) :
        (∃ joiner, grammar.joiner? symbol = some joiner) ∨ ∃ opener offset floor condition,
          .ternary opener symbol offset floor condition ∈ construct :: outer := by
      refine (ih h).imp_right ?_
      rintro ⟨opener, offset, floor, condition, member⟩
      exact ⟨opener, offset, floor, condition, List.mem_cons_of_mem _ member⟩
    unfold proceed at h
    split at h
    · next hjoins => exact .inl (joined hjoins)
    · cases construct with
      | group opening => simp [token] at h
      | call name bounds offset opening args => simp [token] at h
      | ternary opener separator offset floor condition =>
        simp only [token, Token.operator.injEq] at h
        split at h
        · next same =>
          cases same
          exact .inr ⟨_, _, _, _, List.mem_cons_self⟩
        · contradiction
      | unary opener offset =>
        obtain ⟨larger, -, hproceed⟩ := exists_of_bind_eq_ok h
        exact behind hproceed
      | binary opener offset floor left =>
        obtain ⟨larger, -, hproceed⟩ := exists_of_bind_eq_ok h
        exact behind hproceed
      | alternative opener offset floor condition ifTrue =>
        obtain ⟨larger, -, hproceed⟩ := exists_of_bind_eq_ok h
        exact behind hproceed

/-- The constructs that wait behind prefix operators were waiting before. -/
theorem mem_of_settle {result : Subtree} {outer : List Construct} {construct : Construct}
    (h : grammar.settle tree pending = .ok (result, outer)) (member : construct ∈ outer) :
    construct ∈ pending := by
  induction pending generalizing tree with
  | nil => cases h; exact member
  | cons first rest ih =>
    cases first with
    | unary symbol offset =>
      obtain ⟨larger, -, hsettle⟩ := exists_of_bind_eq_ok h
      exact List.mem_cons_of_mem _ (ih hsettle)
    | _ => cases h; exact member

/-- A symbol behind an operand joins it or ends the operand of a waiting ternary operator. -/
theorem joiner?_or_separator_of_step
    (behind : (∃ text offset, reading.focus = .name text offset) ∨
      ∃ tree, reading.focus = .complete tree)
    (token : spanned.token = .operator symbol) (h : grammar.step reading spanned = .ok next) :
    (∃ joiner, grammar.joiner? symbol = some joiner) ∨ ∃ opener offset floor condition,
      .ternary opener symbol offset floor condition ∈ reading.pending := by
  obtain ⟨pending, focus⟩ := reading
  rcases behind with ⟨text, offset, rfl⟩ | ⟨tree, rfl⟩
  · simp only [step, token] at h
    obtain ⟨⟨result, outer⟩, hsettle, hproceed⟩ := exists_of_bind_eq_ok h
    refine (joiner?_or_separator_of_proceed token hproceed).imp_right ?_
    rintro ⟨opener, offset, floor, condition, member⟩
    exact ⟨opener, offset, floor, condition, mem_of_settle hsettle member⟩
  · exact joiner?_or_separator_of_proceed token h

/-- A symbol where an operand may begin is a prefix operator. -/
theorem isUnary_of_step (begins : reading.focus = .expression ∨ reading.focus = .operand)
    (token : spanned.token = .operator symbol) (h : grammar.step reading spanned = .ok next) :
    grammar.isUnary symbol = true := by
  obtain ⟨pending, focus⟩ := reading
  rcases begins with rfl | rfl
  · exact isUnary_of_beginExpression token h
  · exact isUnary_of_beginOperand token h

/-- A name before a parenthesis is a function. -/
theorem exists_function?_of_step {text : String} {offset : Nat}
    (focus : reading.focus = .name text offset) (token : spanned.token = .leftParen)
    (h : grammar.step reading spanned = .ok next) :
    ∃ operator, grammar.registry.function? text = some operator := by
  simp only [step, focus, token] at h
  split at h
  · next hsignature =>
    obtain ⟨operator, resolved, -, -⟩ := signature?_eq_some hsignature
    exact ⟨operator, resolved⟩
  · contradiction

/-! ## Added operators -/

section Added

variable {extended : Registry σ} {added : List (Operator σ)} {operator : Operator σ}
  (h : extended.operators = grammar.registry.operators ++ added)

include h

/-- A look-up is the same if an operator that changes it would cross a ternary one. -/
theorem resolve?_of_not_crosses {ternary : Operator σ} (normal : Symbol.normalize symbol = symbol)
    (spares : ∀ operator ∈ added, ¬ operator.Crosses ternary) {arity : Arity}
    (crosses : ∀ operator : Operator σ, operator.key = (symbol, arity) → operator.Crosses ternary) :
    extended.resolve? symbol arity = grammar.registry.resolve? symbol arity := by
  refine Registry.resolve?_append_of_ne h fun operator member same => ?_
  rw [normal] at same
  exact spares operator member (crosses operator same)

/-- An operator that joins an operand still does, if no new one crosses it. -/
theorem joiner?_of_some {joiner : Joiner} (normal : Symbol.normalize symbol = symbol)
    (spares : ∀ ternary ∈ grammar.registry.operators, ternary.arity = .ternary →
      ternary.symbol = symbol → ∀ operator ∈ added, ¬ operator.Crosses ternary)
    (joins : grammar.joiner? symbol = some joiner) :
    (grammar.withRegistry extended).joiner? symbol = some joiner := by
  rcases joiner?_eq_some joins with ⟨operator, resolved, rfl⟩ |
    ⟨ternary, separator, notBinary, resolved, separated, rfl⟩
  · exact joiner?_of_binary (Registry.resolve?_append_of_some h resolved)
  · obtain ⟨member, hsymbol, harity⟩ := Registry.resolve?_eq_some_iff.1 resolved
    rw [normal] at hsymbol
    have binary : extended.resolve? symbol .binary = none := by
      rw [← notBinary]
      refine resolve?_of_not_crosses h normal (spares ternary member harity hsymbol) ?_
      exact fun operator key => .inl (by rw [key, hsymbol])
    exact joiner?_of_ternary binary (Registry.resolve?_append_of_some h resolved) separated

/-- What was found when a token was taken is still found. -/
theorem alike_of_step {front : List Spanned} (reached : Reached grammar.registry reading front)
    (normal : ∀ {offset symbol}, ⟨.operator symbol, offset⟩ ∈ front ++ [spanned] →
      Symbol.normalize symbol = symbol)
    (spares : ∀ ternary ∈ grammar.registry.operators, ternary.arity = .ternary →
      (∃ offset, ⟨.operator ternary.symbol, offset⟩ ∈ front ++ [spanned]) →
      ∀ operator ∈ added, ¬ operator.Crosses ternary)
    (hstep : grammar.step reading spanned = .ok next) :
    grammar.Alike extended reading spanned.token := by
  have last {symbol : String} (token : spanned.token = .operator symbol) :
      ⟨.operator symbol, spanned.offset⟩ ∈ front ++ [spanned] := by
    rw [← token]
    exact List.mem_append_right _ List.mem_cons_self
  refine ⟨fun begins symbol token => ?_, fun behind symbol token => ?_, ?_⟩
  · have unary := isUnary_of_step begins token hstep
    obtain ⟨operator, resolved⟩ := Option.isSome_iff_exists.1 unary
    rw [unary, isUnary, withRegistry, Registry.resolve?_append_of_some h resolved]
    rfl
  · rcases joiner?_or_separator_of_step behind token hstep with ⟨joiner, joins⟩ |
      ⟨opener, offset, floor, condition, waits⟩
    · rw [joins, joiner?_of_some h (normal (last token)) ?_ joins]
      rintro ternary member harity rfl
      exact spares ternary member harity ⟨_, last token⟩
    · obtain ⟨before, begun, subset⟩ := reached.exists_begun
      obtain ⟨ternary, resolved, separated, opened⟩ := begun.exists_of_ternary waits
      obtain ⟨member, hsymbol, harity⟩ := Registry.resolve?_eq_some_iff.1 resolved
      have opened := List.mem_append_left [spanned] (subset opened)
      rw [normal opened] at hsymbol
      have apart := spares ternary member harity ⟨offset, hsymbol ▸ opened⟩
      refine joiner?_withRegistry ?_ ?_
      · exact resolve?_of_not_crosses h (normal (last token)) apart
          fun operator key => .inr ⟨symbol, separated, .inl key⟩
      · exact resolve?_of_not_crosses h (normal (last token)) apart
          fun operator key => .inr ⟨symbol, separated, .inr key⟩
  · intro text offset hfocus paren
    obtain ⟨operator, resolved⟩ := exists_function?_of_step hfocus paren hstep
    refine signature?_withRegistry ?_
    rw [resolved]
    exact Registry.resolve?_append_of_some h resolved

end Added

/-- A run that succeeds has taken each token by a step that succeeded. -/
theorem exists_step_of_foldlM {start last : Reading} {front rest : List Spanned}
    (h : (front ++ spanned :: rest).foldlM grammar.step start = .ok last)
    (hrun : front.foldlM grammar.step start = .ok reading) :
    ∃ next, grammar.step reading spanned = .ok next := by
  rw [List.foldlM_append, hrun] at h
  have hbind : (grammar.step reading spanned >>= fun next => rest.foldlM grammar.step next) =
      .ok last := h
  obtain ⟨next, hstep, -⟩ := exists_of_bind_eq_ok hbind
  exact ⟨next, hstep⟩

end Grammar

/-! ## Texts that the operators spare -/

/-- The name that the token is, if it is one. -/
def Token.name? : Token → Option String
  | .name text => some text
  | _ => none

/-- The names in a text, those of variables and those of functions. -/
def Registry.names (registry : Registry σ) (text : String) : List String :=
  (registry.lexicon.tokens text).tokens.filterMap (·.token.name?)

/-- No name in the text is a symbol of the operator, in any letter case, and the operator crosses
no ternary one whose symbol is in the text. -/
structure Operator.Spares (operator : Operator σ) (registry : Registry σ) (text : String) :
    Prop where
  names : ∀ name ∈ registry.names text, ∀ symbol ∈ operator.symbols,
    Symbol.upper symbol ≠ Symbol.upper name
  ternaries : ∀ ternary ∈ registry.operators, ternary.arity = .ternary →
    (∃ spanned ∈ (registry.lexicon.tokens text).tokens,
      spanned.token = .operator ternary.symbol) → ¬ operator.Crosses ternary

namespace Registry

variable {registry extended : Registry σ} {added : List (Operator σ)} {text : String}

/-- With white space between them, the tokens are the same. -/
theorem tokens_of_spares (h : extended.operators = registry.operators ++ added)
    (spaced : registry.Spaced text)
    (lexes : (registry.lexicon.tokens text).ending.isOk = true)
    (spares : ∀ operator ∈ added, operator.Spares registry text) :
    extended.lexicon.tokens text = registry.lexicon.tokens text := by
  refine tokens_eq_of_spaced (fun found => (hasSymbol_of_append h).2 (.inl found)) lexes spaced ?_
  intro spanned member name htoken registered
  rcases (hasSymbol_of_append h).1 registered with found | ⟨operator, fresh, spelled⟩
  · exact not_hasSymbol_of_mem member htoken found
  · have named : name ∈ registry.names text :=
      List.mem_filterMap.2 ⟨spanned, member, by rw [htoken, Token.name?]⟩
    exact (spares operator fresh).names name named _ (mem_symbols_iff.2 spelled)
      (Symbol.upper_upper name)

/-- **Operators that spare a text leave it what it was**: if there is white space between its
tokens and it is read as an expression, it is read as the same expression when they are added. -/
theorem parse_of_spares {maxDepth : Nat} {expr : Expr}
    (h : extended.operators = registry.operators ++ added) (spaced : registry.Spaced text)
    (spares : ∀ operator ∈ added, operator.Spares registry text)
    (parses : Grammar.parse ⟨registry, maxDepth⟩ text = .ok expr) :
    Grammar.parse ⟨extended, maxDepth⟩ text = .ok expr := by
  have lexes := (Grammar.read_sound Lexicon.token_ne_finish parses).1
  rw [← parses]
  show (Grammar.withRegistry (Dialect.grammar ⟨registry, maxDepth⟩) extended).read _ = _
  rw [tokens_of_spares h spaced lexes spares]
  obtain ⟨last, hall, -⟩ := exists_of_bind_eq_ok parses
  refine Grammar.read_withRegistry fun front spanned rest reading htokens hrun => ?_
  have taken : front ++ [spanned] ⊆ (registry.lexicon.tokens text).tokens := by
    rw [htokens]
    exact List.append_subset.2 ⟨List.subset_append_left _ _, by simp⟩
  have more : ∀ spanned ∈ front, spanned.token ≠ .finish := fun spanned member =>
    Lexicon.token_ne_finish spanned (taken (List.mem_append_left _ member))
  have reached := Grammar.foldlM_step_sound more (.expression .nil) hrun
  obtain ⟨next, hstep⟩ := Grammar.exists_step_of_foldlM (htokens ▸ hall) hrun
  refine Grammar.alike_of_step h reached ?_ ?_ hstep
  · exact fun member => (hasSymbol_and_normalize_of_mem (taken member) rfl).2
  · intro ternary member harity ⟨offset, used⟩ operator fresh
    exact (spares operator fresh).ternaries ternary member harity ⟨_, taken used, rfl⟩

/-! ## The built-in operators -/

variable [RandomSource σ]

/-- The conditional is the only ternary operator of the built-in registry. -/
theorem eq_conditional_of_mem_builtin {operator : Operator σ}
    (member : operator ∈ (builtin : Registry σ).operators) (ternary : operator.arity = .ternary) :
    operator.symbol = "?" ∧ operator.separator? = some ":" := by
  have spellings : ∀ spelling ∈ (Builtin.all : List (Operator Generator)).map Operator.spelling,
      spelling.arity = .ternary → spelling = ⟨"?", .ternary, some ":"⟩ := by
    decide +kernel
  have same := spellings operator.spelling
    (Builtin.map_spelling_all (σ := σ) ▸ List.mem_map_of_mem member) ternary
  rw [Operator.spelling, Spelling.mk.injEq] at same
  exact ⟨same.1, same.2.2⟩

/-- **Built-ins are not shadowed** in a text with white space between its tokens, if no name of
the text is a symbol of an added operator and, where the text has the conditional `? :`, nothing
was added that is read in the place of its symbols. -/
theorem parse_of_registerAll_builtin (added : List (Operator σ)) (extended : Registry σ)
    (registered : Registry.builtin.registerAll added = .ok extended) (text : String)
    (maxDepth : Nat) (expr : Expr) (spaced : (builtin : Registry σ).Spaced text)
    (names : ∀ name ∈ (builtin : Registry σ).names text, ∀ operator ∈ added,
      ∀ symbol ∈ operator.symbols, Symbol.upper symbol ≠ Symbol.upper name)
    (conditional : (∃ spanned ∈ ((builtin : Registry σ).lexicon.tokens text).tokens,
        spanned.token = .operator "?") → ∀ operator ∈ added,
      operator.key ∉ [("?", .binary), (":", .binary), (":", .ternary)])
    (parses : Grammar.parse ⟨(builtin : Registry σ), maxDepth⟩ text = .ok expr) :
    Grammar.parse ⟨extended, maxDepth⟩ text = .ok expr := by
  refine parse_of_spares (operators_registerAll registered) spaced ?_ parses
  refine fun operator fresh => ⟨fun name named => names name named operator fresh, ?_⟩
  intro ternary member harity used
  obtain ⟨hsymbol, hseparator⟩ := eq_conditional_of_mem_builtin member harity
  rw [hsymbol] at used
  have apart := conditional used operator fresh
  simp only [List.mem_cons, List.not_mem_nil, or_false, not_or] at apart
  rintro (key | ⟨separator, separated, key | key⟩)
  · exact apart.1 (hsymbol ▸ key)
  · cases hseparator.symm.trans separated
    exact apart.2.1 key
  · cases hseparator.symm.trans separated
    exact apart.2.2 key

/-- A modulus between its operands; there is a function of this name. -/
def modulus : Operator Generator := .binary "MOD" 6 .left fun a b => .ok (Math.mod [a, b])

/-- A text with a conditional and another function. -/
theorem parse_of_registerAll_modulus : ∃ extended expr,
    Registry.builtin.registerAll [modulus] = .ok extended ∧
    Grammar.parse ⟨(builtin : Registry Generator), 9⟩ "a ? max ( b , c ) : - d" = .ok expr ∧
    Grammar.parse ⟨extended, 9⟩ "a ? max ( b , c ) : - d" = .ok expr := by
  have free : modulus.key ∉ (builtin : Registry Generator).keys := by decide +kernel
  obtain ⟨extended, registered, -⟩ := exists_register (by decide +kernel) free
  rw [← registerAll_singleton] at registered
  have parses : (Grammar.parse ⟨(builtin : Registry Generator), 9⟩
      "a ? max ( b , c ) : - d").isOk = true := by
    decide +kernel
  cases hparse : Grammar.parse ⟨(builtin : Registry Generator), 9⟩ "a ? max ( b , c ) : - d" with
  | error e => simp [hparse, Except.isOk, Except.toBool] at parses
  | ok expr =>
    refine ⟨extended, expr, registered, rfl, ?_⟩
    exact parse_of_registerAll_builtin [modulus] extended registered _ 9 expr
      (by decide +kernel) (by decide +kernel) (by decide +kernel) hparse

/-- A binary operator with the symbol of the conditional. -/
def question : Operator Generator := .binary "?" 1 .left fun a _ => .ok a

/-- Such an operator is registered, and then a conditional without a name in common with it is
refused. -/
theorem not_parse_of_register_question : ∃ extended expr,
    Registry.builtin.registerAll [question] = .ok extended ∧
    (builtin : Registry Generator).Spaced "a ? b : c" ∧
    Grammar.parse ⟨(builtin : Registry Generator), 9⟩ "a ? b : c" = .ok expr ∧
    (∀ name ∈ expr.variables, ∀ operator ∈ [question], ∀ symbol ∈ operator.symbols,
      Symbol.upper symbol ≠ Symbol.upper name) ∧
    ∀ other, Grammar.parse ⟨extended, 9⟩ "a ? b : c" ≠ .ok other := by
  let extended : Registry Generator :=
    ⟨Builtin.all ++ [question], by decide +kernel, by decide +kernel⟩
  have registered : Registry.builtin.register question = .ok extended :=
    register_eq_ok_iff.2 ⟨by decide +kernel, by decide +kernel, rfl⟩
  have reads : ((Grammar.parse ⟨(builtin : Registry Generator), 9⟩ "a ? b : c").toOption.any
      fun expr => decide (∀ name ∈ expr.variables, ∀ operator ∈ [question],
        ∀ symbol ∈ operator.symbols, Symbol.upper symbol ≠ Symbol.upper name)) = true := by
    decide +kernel
  have refused : (Grammar.parse ⟨extended, 9⟩ "a ? b : c").isOk = false := by decide +kernel
  cases hparse : Grammar.parse ⟨(builtin : Registry Generator), 9⟩ "a ? b : c" with
  | error e => simp [hparse, Except.toOption] at reads
  | ok expr =>
    rw [hparse] at reads
    refine ⟨extended, expr, by rw [registerAll_singleton, registered], by decide +kernel, rfl,
      of_decide_eq_true reads, fun other h => ?_⟩
    rw [h] at refused
    contradiction

end Registry

end Formulary
