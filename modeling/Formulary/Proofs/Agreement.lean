import Formulary.Proofs.Compile
import Formulary.Proofs.Lexing.Division
import Formulary.Proofs.Reading.Sound
import Formulary.Proofs.Registration

/-!
# Formulary.Proofs.Agreement

When two registries do the same with a text or an expression.

A registry is asked three things: which symbols it has, while a text is lexed; how a
symbol or a name goes on, while tokens are read; and for the operator of a node, while
an expression is compiled. Each section says that two registries with the same answers
do the same, and asks for no more answers than are needed: those about the operators
that occur (`tokens_eq_of_hasSymbol`), about the tokens that are read
(`Grammar.read_withRegistry`), about the nodes of the expression
(`Expr.compile_congr`).
-/

namespace Formulary

variable {σ : Type}

/-! ## Lexing -/

namespace Spells

variable {registry extended : Registry σ} {kind : Lettering} {slice : List Char} {token : Token}

/-- An operator token is a symbol of the registry. -/
theorem hasSymbol {symbol : String} (h : Spells registry kind slice (.operator symbol)) :
    registry.HasSymbol symbol := by
  cases h with
  | operator word registered => exact registered
  | punctuation registered notWord => exact registered

/-- An operator token is looked up as it is. -/
theorem normalize_eq {symbol : String} (h : Spells registry kind slice (.operator symbol)) :
    Symbol.normalize symbol = symbol := by
  cases h with
  | operator word registered => rw [Symbol.normalize, Symbol.upper_upper, ite_self]
  | punctuation registered notWord => rw [Symbol.normalize, if_neg (by simp [notWord])]

/-- What spells a token still spells one when there are more symbols. -/
theorem exists_of_grow (grow : ∀ {symbol}, registry.HasSymbol symbol → extended.HasSymbol symbol)
    (h : Spells registry kind slice token) : ∃ token', Spells extended kind slice token' := by
  cases h with
  | leftParen => exact ⟨_, .leftParen⟩
  | rightParen => exact ⟨_, .rightParen⟩
  | comma => exact ⟨_, .comma⟩
  | number formed reads => exact ⟨_, .number formed reads⟩
  | operator word registered => exact ⟨_, .operator word (grow registered)⟩
  | name word free =>
    by_cases taken : extended.HasSymbol (Symbol.upper (String.ofList slice))
    · exact ⟨_, .operator word taken⟩
    · exact ⟨_, .name word taken⟩
  | punctuation registered notWord => exact ⟨_, .punctuation (grow registered) notWord⟩

/-- A token is spelled as before when there are fewer symbols, if it is no operator that is
missing now. -/
theorem of_used (grow : ∀ {symbol}, registry.HasSymbol symbol → extended.HasSymbol symbol)
    (h : Spells extended kind slice token)
    (used : ∀ symbol, token = .operator symbol → registry.HasSymbol symbol) :
    Spells registry kind slice token :=
  h.transfer (fun symbol token _ => used symbol token) fun _ _ free registered =>
    free (grow registered)

end Spells

/-- The longest slice stays the longest when there are fewer symbols. -/
theorem Longest.of_used {registry extended : Registry σ} {kind : Lettering}
    {text slice : List Char} {token : Token}
    (grow : ∀ {symbol}, registry.HasSymbol symbol → extended.HasSymbol symbol)
    (h : Longest extended kind text slice token)
    (used : ∀ symbol, token = .operator symbol → registry.HasSymbol symbol) :
    Longest registry kind text slice token where
  spells := h.spells.of_used grow used
  front := h.front
  longest spells front := by
    obtain ⟨token', spells'⟩ := spells.exists_of_grow grow
    exact h.longest spells' front

/-- A text that uses only some of the symbols is divided in the same way if there are no others. -/
theorem Divided.of_used {registry extended : Registry σ} {before text : List Char}
    {pieces : List Piece} {ending : Except LexError Nat}
    (grow : ∀ {symbol}, registry.HasSymbol symbol → extended.HasSymbol symbol)
    (h : Divided extended before text pieces ending)
    (used : ∀ piece ∈ pieces, ∀ symbol, piece.spanned.token = .operator symbol →
      registry.HasSymbol symbol) :
    Divided registry before text pieces ending := by
  induction h with
  | last ends =>
    refine .last ?_
    cases ends with
    | finish white => exact .finish white
    | stuck white solid none =>
      refine .stuck white solid fun spells front => ?_
      obtain ⟨token, spells'⟩ := spells.exists_of_grow grow
      exact none spells' front
  | token white longest others ih =>
    rw [List.forall_mem_cons] at used
    exact .token white (longest.of_used grow used.1) (ih used.2)

/-- **Symbols that do not occur do not matter**: a text has the same tokens and the same end
under a registry that has all symbols that occur, and no others than the first. -/
theorem tokens_eq_of_hasSymbol {registry extended : Registry σ} {text : String}
    (grow : ∀ {symbol}, registry.HasSymbol symbol → extended.HasSymbol symbol)
    (used : ∀ spanned ∈ (extended.lexicon.tokens text).tokens, ∀ symbol,
      spanned.token = .operator symbol → registry.HasSymbol symbol) :
    registry.lexicon.tokens text = extended.lexicon.tokens text := by
  obtain ⟨pieces, ending, divided⟩ := exists_divided extended [] text.toList
  have hlexed : extended.lexicon.tokens text = ⟨pieces.map Piece.spanned, ending⟩ :=
    divided.tokensFrom_eq
  rw [hlexed, List.forall_mem_map] at used
  rw [hlexed]
  exact (divided.of_used grow used).tokensFrom_eq

namespace Registry

variable {registry : Registry σ} {text : String} {spanned : Spanned}

/-- Each operator token of a text is a symbol of the registry, and is looked up as it is. -/
theorem hasSymbol_and_normalize_of_mem {symbol : String}
    (member : spanned ∈ (registry.lexicon.tokens text).tokens)
    (h : spanned.token = .operator symbol) :
    registry.HasSymbol symbol ∧ Symbol.normalize symbol = symbol := by
  obtain ⟨kind, slice, spells⟩ :=
    Lexicon.exists_spells registry text _ (List.mem_map_of_mem member)
  rw [h] at spells
  exact ⟨spells.hasSymbol, spells.normalize_eq⟩

/-- No name in a text is a symbol of the registry. -/
theorem not_hasSymbol_of_mem {name : String}
    (member : spanned ∈ (registry.lexicon.tokens text).tokens)
    (h : spanned.token = .name name) : ¬ registry.HasSymbol (Symbol.upper name) := by
  obtain ⟨kind, slice, spells⟩ :=
    Lexicon.exists_spells registry text _ (List.mem_map_of_mem member)
  rw [h] at spells
  cases spells with
  | name word free => exact free

end Registry

/-! ## Reading -/

namespace Grammar

/-- The grammar with other operators and the same limits. -/
def withRegistry (grammar : Grammar σ) (other : Registry σ) : Grammar σ :=
  { grammar with registry := other }

variable {grammar : Grammar σ} {other : Registry σ} {pending : List Construct} {tree : Subtree}
  {spanned : Spanned} {reading : Reading}

/-- Trees are built within the same limits. -/
theorem settle_withRegistry :
    (grammar.withRegistry other).settle tree pending = grammar.settle tree pending := by
  induction pending generalizing tree with
  | nil => rfl
  | cons construct outer ih =>
    cases construct with
    | unary symbol offset =>
      rw [settle, settle]
      exact congrArg (bind _) (funext fun larger => ih)
    | _ => rfl

theorem complete_withRegistry :
    (grammar.withRegistry other).complete tree pending = grammar.complete tree pending := by
  rw [complete, complete, settle_withRegistry]

/-- A token that begins an operand is asked for one thing, whether it is a prefix operator. -/
theorem beginOperand_withRegistry
    (same : ∀ symbol, spanned.token = .operator symbol →
      (grammar.withRegistry other).isUnary symbol = grammar.isUnary symbol) :
    (grammar.withRegistry other).beginOperand pending spanned =
      grammar.beginOperand pending spanned := by
  unfold beginOperand
  split
  · exact complete_withRegistry
  · rfl
  · next symbol htoken =>
    rw [same symbol htoken]
    rfl
  · rfl
  · rfl
  · rfl
  · rfl

/-- An expression begins in the same way if its first symbol is a prefix operator in both registries
or in none. -/
theorem beginExpression_withRegistry
    (same : ∀ symbol, spanned.token = .operator symbol →
      (grammar.withRegistry other).isUnary symbol = grammar.isUnary symbol) :
    (grammar.withRegistry other).beginExpression pending spanned =
      grammar.beginExpression pending spanned := by
  unfold beginExpression
  split
  · exact congrArg (bind _) (funext fun tree => complete_withRegistry)
  · rfl
  · rfl
  · rfl
  · exact congrArg (bind _) (funext fun _ => beginOperand_withRegistry same)

/-- A symbol joins operands in the same way if both registries have the same operator for it. -/
theorem joins?_withRegistry {token : Token}
    (same : ∀ symbol, token = .operator symbol →
      (grammar.withRegistry other).joiner? symbol = grammar.joiner? symbol) :
    (grammar.withRegistry other).joins? pending token = grammar.joins? pending token := by
  unfold joins?
  split
  · next symbol => rw [same symbol rfl]
  · rfl

/-- A token behind an operand is asked for one thing, how it goes on. -/
theorem proceed_withRegistry
    (same : ∀ symbol, spanned.token = .operator symbol →
      (grammar.withRegistry other).joiner? symbol = grammar.joiner? symbol) :
    (grammar.withRegistry other).proceed spanned tree pending =
      grammar.proceed spanned tree pending := by
  induction pending generalizing tree with
  | nil =>
    unfold proceed
    rw [joins?_withRegistry same]
  | cons construct outer ih =>
    unfold proceed
    rw [joins?_withRegistry same]
    split
    · rfl
    · cases construct with
      | group opening =>
        dsimp only
        split
        · exact complete_withRegistry
        · rfl
        · rfl
      | call name bounds offset opening args =>
        dsimp only
        split
        · rfl
        · exact congrArg (bind _) (funext fun whole => complete_withRegistry)
        · rfl
        · rfl
      | ternary symbol separator offset floor condition => rfl
      | unary symbol offset => exact congrArg (bind _) (funext fun larger => ih)
      | binary symbol offset floor left => exact congrArg (bind _) (funext fun larger => ih)
      | alternative symbol offset floor condition ifTrue =>
        exact congrArg (bind _) (funext fun larger => ih)

/-- What the registry is asked about the token that a reading takes has the same answer in
another registry. -/
structure Alike (grammar : Grammar σ) (other : Registry σ) (reading : Reading) (token : Token) :
    Prop where
  /-- A token that begins an operand may be a prefix operator. -/
  begins : reading.focus = .expression ∨ reading.focus = .operand →
    ∀ symbol, token = .operator symbol →
      (grammar.withRegistry other).isUnary symbol = grammar.isUnary symbol
  /-- A token behind an operand may be a binary or a ternary operator. -/
  joins : (∃ text offset, reading.focus = .name text offset) ∨
      (∃ tree, reading.focus = .complete tree) →
    ∀ symbol, token = .operator symbol →
      (grammar.withRegistry other).joiner? symbol = grammar.joiner? symbol
  /-- A name before a parenthesis may be a function. -/
  calls : ∀ text offset, reading.focus = .name text offset → token = .leftParen →
    (grammar.withRegistry other).signature? text = grammar.signature? text

/-- A step is the same where the answers are. -/
theorem Alike.step_eq (h : grammar.Alike other reading spanned.token) :
    (grammar.withRegistry other).step reading spanned = grammar.step reading spanned := by
  obtain ⟨pending, focus⟩ := reading
  cases focus with
  | expression => exact beginExpression_withRegistry (h.begins (.inl rfl))
  | operand => exact beginOperand_withRegistry (h.begins (.inr rfl))
  | complete tree => exact proceed_withRegistry (h.joins (.inr ⟨tree, rfl⟩))
  | name text offset =>
    simp only [step]
    split
    · next paren => rw [h.calls text offset rfl paren]
    · rw [settle_withRegistry]
      exact congrArg (bind _) (funext fun _ =>
        proceed_withRegistry (h.joins (.inl ⟨text, offset, rfl⟩)))

/-- A run is the same if the answers are for every token that it comes to. -/
theorem foldlM_step_withRegistry {tokens : List Spanned}
    (alike : ∀ front spanned rest next, tokens = front ++ spanned :: rest →
      front.foldlM grammar.step reading = .ok next → grammar.Alike other next spanned.token) :
    tokens.foldlM (grammar.withRegistry other).step reading =
      tokens.foldlM grammar.step reading := by
  induction tokens generalizing reading with
  | nil => rfl
  | cons spanned tokens ih =>
    have first := alike [] spanned tokens reading rfl rfl
    rw [List.foldlM_cons, List.foldlM_cons, first.step_eq]
    cases hstep : grammar.step reading spanned with
    | error e => rfl
    | ok next =>
      refine ih fun front other rest last htokens hrun => ?_
      refine alike (spanned :: front) other rest last (by rw [htokens, List.cons_append]) ?_
      rw [List.foldlM_cons, hstep]
      exact hrun

/-- **Answers that are not asked for do not matter**: tokens are read in the same way by two
registries that say the same of each token when it is read. -/
theorem read_withRegistry {lexed : Lexed}
    (alike : ∀ front spanned rest reading, lexed.tokens = front ++ spanned :: rest →
      front.foldlM grammar.step Reading.start = .ok reading →
        grammar.Alike other reading spanned.token) :
    (grammar.withRegistry other).read lexed = grammar.read lexed := by
  have finish (reading : Reading) (offset : Nat) :
      (grammar.withRegistry other).finish reading offset = grammar.finish reading offset := by
    have ends : grammar.Alike other reading (Spanned.mk .finish offset).token :=
      ⟨by simp, by simp, by simp⟩
    rw [Grammar.finish, Grammar.finish, ends.step_eq]
  unfold read
  rw [foldlM_step_withRegistry alike]
  refine congrArg (bind _) (funext fun reading => ?_)
  split
  · exact finish reading _
  · rfl

/-- A name that waits to be a variable or a function was the last token. -/
theorem exists_of_focus_name {registry : Registry σ} {spans : List Spanned} {text : String}
    {offset : Nat} (reached : Bracketed.Reached registry reading spans)
    (focus : reading.focus = .name text offset) :
    ∃ before, spans = before ++ [⟨.name text, offset⟩] := by
  cases reached with
  | name begun text' offset' =>
    cases focus
    exact ⟨_, rfl⟩
  | _ => contradiction

section Answers

variable {registry : Registry σ}

theorem isUnary_withRegistry {symbol : String}
    (same : other.resolve? symbol .unary = grammar.registry.resolve? symbol .unary) :
    (grammar.withRegistry other).isUnary symbol = grammar.isUnary symbol :=
  congrArg Option.isSome same

theorem joiner?_withRegistry {symbol : String}
    (binary : other.resolve? symbol .binary = grammar.registry.resolve? symbol .binary)
    (ternary : other.resolve? symbol .ternary = grammar.registry.resolve? symbol .ternary) :
    (grammar.withRegistry other).joiner? symbol = grammar.joiner? symbol := by
  unfold joiner? withRegistry
  rw [binary, ternary]

theorem signature?_withRegistry {name : String}
    (same : other.function? name = grammar.registry.function? name) :
    (grammar.withRegistry other).signature? name = grammar.signature? name := by
  unfold signature? withRegistry
  rw [same]

/-- A text is read in the same way by two registries that lex it in the same way and have the
same operators for its symbols and the same functions for the names before its parentheses. -/
theorem parse_eq_of_resolve? {text : String} {maxDepth : Nat}
    (lexes : other.lexicon.tokens text = registry.lexicon.tokens text)
    (operators : ∀ spanned ∈ (registry.lexicon.tokens text).tokens, ∀ symbol,
      spanned.token = .operator symbol → ∀ arity, arity ≠ .function →
        other.resolve? symbol arity = registry.resolve? symbol arity)
    (functions : ∀ name offset opening,
      [⟨.name name, offset⟩, ⟨.leftParen, opening⟩] <:+: (registry.lexicon.tokens text).tokens →
        other.function? name = registry.function? name) :
    parse ⟨other, maxDepth⟩ text = parse ⟨registry, maxDepth⟩ text := by
  show (Grammar.withRegistry (Dialect.grammar ⟨registry, maxDepth⟩) other).read _ = _
  rw [lexes]
  refine read_withRegistry fun front spanned rest reading htokens hrun => ?_
  have asked (symbol : String) (h : spanned.token = .operator symbol) (arity : Arity)
      (harity : arity ≠ .function) :
      other.resolve? symbol arity = registry.resolve? symbol arity :=
    operators spanned (htokens ▸ List.mem_append_right front List.mem_cons_self) symbol h arity
      harity
  have more : ∀ spanned ∈ front, spanned.token ≠ .finish := fun spanned member =>
    Lexicon.token_ne_finish spanned (htokens ▸ List.mem_append_left _ member)
  refine ⟨fun _ symbol h => isUnary_withRegistry (asked symbol h _ (by decide)), fun _ symbol h =>
    joiner?_withRegistry (asked symbol h _ (by decide)) (asked symbol h _ (by decide)), ?_⟩
  intro name offset focus paren
  have reached := foldlM_step_sound more (.expression .nil) hrun
  obtain ⟨before, rfl⟩ := exists_of_focus_name reached focus
  refine signature?_withRegistry (functions name offset spanned.offset ⟨before, rest, ?_⟩)
  obtain ⟨token, opening⟩ := spanned
  cases paren
  rw [htokens]
  simp

end Answers

end Grammar

/-! ## Compiling -/

namespace Expr

/-- What a node looks up. -/
def ownKey? : Expr → Option (String × Arity)
  | constant _ | var _ => none
  | unary symbol _ _ => some (symbol, .unary)
  | binary symbol _ _ _ => some (symbol, .binary)
  | ternary symbol _ _ _ _ => some (symbol, .ternary)
  | call name _ _ => some (name, .function)

/-- The operator of the node, if it has one, is the same in both registries. -/
def Shares (registry other : Registry σ) (node : Expr) : Prop :=
  ∀ symbol arity, node.ownKey? = some (symbol, arity) →
    other.resolve? symbol arity = registry.resolve? symbol arity

variable {registry other : Registry σ} {folding : Bool} {table : Variables σ} {expr : Expr}

theorem resolve_congr {symbol : String} {arity : Arity} {offset : Nat}
    (same : other.resolve? symbol arity = registry.resolve? symbol arity) :
    Compile.resolve other symbol arity offset = Compile.resolve registry symbol arity offset := by
  unfold Compile.resolve
  rw [same]

theorem nodes_congr {args : List Expr}
    (ih : ∀ arg ∈ args, (∀ node ∈ arg.nodes, Shares registry other node) →
      Compile.node other folding arg = Compile.node registry folding arg)
    (same : ∀ node ∈ nodesAll args, Shares registry other node) :
    Compile.nodes other folding args = Compile.nodes registry folding args := by
  induction args with
  | nil => rfl
  | cons arg args iht =>
    rw [nodesAll, List.forall_mem_append] at same
    rw [List.forall_mem_cons] at ih
    rw [Compile.nodes, Compile.nodes, ih.1 same.1, iht ih.2 same.2]

theorem node_congr (same : ∀ node ∈ expr.nodes, Shares registry other node) :
    Compile.node other folding expr = Compile.node registry folding expr := by
  induction expr with
  | constant value => rfl
  | var name => rfl
  | unary symbol operand offset ih =>
    rw [nodes, List.forall_mem_cons] at same
    rw [Compile.node, Compile.node, resolve_congr (same.1 _ _ rfl), ih same.2]
  | binary symbol left right offset ihl ihr =>
    rw [nodes, List.forall_mem_cons, List.forall_mem_append] at same
    rw [Compile.node, Compile.node, resolve_congr (same.1 _ _ rfl), ihl same.2.1, ihr same.2.2]
  | ternary symbol condition ifTrue ifFalse offset ihc iht ihf =>
    rw [nodes, List.forall_mem_cons, List.forall_mem_append, List.forall_mem_append] at same
    rw [Compile.node, Compile.node, resolve_congr (same.1 _ _ rfl), ihc same.2.1.1, iht same.2.1.2,
      ihf same.2.2]
  | call name args offset ih =>
    rw [nodes, List.forall_mem_cons] at same
    rw [Compile.node, Compile.node, resolve_congr (same.1 _ _ rfl), nodes_congr ih same.2]

/-- **Operators that no node uses do not matter**: an expression is compiled in the same way by
two registries that have the same operators for its nodes. -/
theorem compile_congr (same : ∀ node ∈ expr.nodes, Shares registry other node) :
    expr.compile other folding table = expr.compile registry folding table := by
  rw [compile, compile, node_congr same]

/-- The operators of an expression without a fault are all there. -/
theorem exists_resolve?_of_fault? (h : expr.fault? registry = none) {node : Expr}
    (member : node ∈ expr.nodes) {symbol : String} {arity : Arity}
    (key : node.ownKey? = some (symbol, arity)) :
    ∃ operator, registry.resolve? symbol arity = some operator := by
  have faultless := List.findSome?_eq_none_iff.1 h node member
  rw [← Option.isSome_iff_exists]
  cases node <;> cases key <;> simp only [ownFault?, missing?] at faultless
  case call =>
    split at faultless
    · contradiction
    · next found => exact Option.isSome_iff_exists.2 ⟨_, found⟩
  all_goals
    split at faultless
    · assumption
    · contradiction

end Expr

end Formulary
