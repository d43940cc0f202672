import Formulary.Proofs.Reading.Parentheses

/-!
# Formulary.Proofs.Reading.Blame

What an error says of the text is so.

An error names a place, and says something about what is there (`ParseError.Blames`). The place may
have been passed long before the reading fails: the symbol of a ternary operator, the name of a
function and a parenthesis that opens are kept by the constructs that they have begun. What is
known of the tokens that have led to a reading (`Bracketed.Reached`) is therefore enough to tell
that the error is right, whatever token it arises at.
-/

namespace Formulary

variable {σ : Type}

/-- A sequence fails if one of its parts does. -/
theorem error_of_bind_eq_error {ε α β : Type} {first : Except ε α} {next : α → Except ε β} {e : ε}
    (h : (first >>= next) = .error e) :
    first = .error e ∨ ∃ value, first = .ok value ∧ next value = .error e := by
  cases first with
  | error e' =>
    cases h
    exact .inl rfl
  | ok value => exact .inr ⟨value, rfl, h⟩

namespace Expr

/-- The offset of the operator or the function at the root. -/
def rootOffset? : Expr → Option Nat
  | constant _ | var _ => none
  | unary _ _ offset | binary _ _ _ offset | ternary _ _ _ _ offset | call _ _ offset => some offset

end Expr

/-! ## What errors say -/

namespace Lexed

variable (lexed : Lexed)

/-- The token comes right behind these tokens of the text, or the text ends there. -/
inductive Next (before : List Spanned) : Spanned → Prop
  | token {spanned : Spanned} {behind : List Spanned}
      (tokens : lexed.tokens = before ++ spanned :: behind) (more : spanned.token ≠ .finish) :
      Next before spanned
  | finish {offset : Nat} (tokens : lexed.tokens = before) (ending : lexed.ending = .ok offset) :
      Next before ⟨.finish, offset⟩

/-- A parenthesis closes at the offset, and all that are opened before it are closed before it. -/
def StrayAt (offset : Nat) : Prop :=
  ∃ front behind, lexed.tokens = front ++ ⟨.rightParen, offset⟩ :: behind ∧ Balanced front

/-- A parenthesis opens at the offset that is not closed before the text ends, and it is the last
one of these. -/
def UnclosedAt (offset : Nat) : Prop :=
  lexed.ending.isOk = true ∧ ∃ front behind outer,
    lexed.tokens = front ++ ⟨.leftParen, offset⟩ :: behind ∧ unclosed? front = some outer ∧
      Balanced behind ∧ unclosed? lexed.tokens = some (outer ++ [offset])

/-- The symbol of a ternary operator, which is no binary one, is at the offset behind a complete
operand. -/
def TernaryAt (registry : Registry σ) (symbol separator : String) (offset : Nat) : Prop :=
  ∃ front operand behind tree subtree operator,
    lexed.tokens = front ++ operand ++ ⟨.operator symbol, offset⟩ :: behind ∧
      Bracketed.Operand registry tree operand subtree ∧
      registry.resolve? symbol .binary = none ∧
      registry.resolve? symbol .ternary = some operator ∧ operator.separator? = some separator

/-- A name is called at the offset that is no function in any letter case. -/
def UnknownAt (registry : Registry σ) (name : String) (offset : Nat) : Prop :=
  (∃ front opening behind,
    lexed.tokens = front ++ ⟨.name name, offset⟩ :: ⟨.leftParen, opening⟩ :: behind) ∧
  ∀ operator ∈ registry.operators, operator.arity = .function →
    Symbol.upper operator.symbol ≠ Symbol.upper name

/-- A function is called at the offset with so many arguments, which it does not accept. -/
def CallAt (registry : Registry σ) (function : String) (bounds : ArgBounds) (actual offset : Nat) :
    Prop :=
  ∃ front name opening inner closing behind operator,
    lexed.tokens = front ++ ⟨.name name, offset⟩ :: ⟨.leftParen, opening⟩ ::
        (inner ++ ⟨.rightParen, closing⟩ :: behind) ∧
      Symbol.upper name = function ∧ Balanced inner ∧ argumentsIn inner = actual ∧
      registry.function? name = some operator ∧ operator.bounds? = some bounds ∧
      (actual < bounds.least ∨ ∃ most ∈ bounds.most, most < actual)

/-- What begins at the offset is deeper than the limit: the tokens before have begun as many
constructs, and each of them waits for an operand. A prefix operator at the offset is one more. -/
def DeepAt (registry : Registry σ) (limit offset : Nat) : Prop :=
  ∃ before pending token,
    Bracketed.Begun registry pending before ∧ lexed.Next before ⟨token, offset⟩ ∧
    (limit < Reading.depth pending ∨
      (∃ symbol, token = .operator symbol ∧ (registry.resolve? symbol .unary).isSome = true) ∧
        limit < Reading.depth pending + 1)

/-- The tree with its root at the offset is higher than the limit. -/
def HighAt (registry : Registry σ) (limit offset : Nat) : Prop :=
  ∃ front operand behind tree subtree, lexed.tokens = front ++ operand ++ behind ∧
    Bracketed.Operand registry tree operand subtree ∧ subtree.expr.rootOffset? = some offset ∧
      limit < subtree.expr.height

end Lexed

/-- What the error says of the text is so. -/
def ParseError.Blames (grammar : Grammar σ) (lexed : Lexed) : ParseError → Prop
  | .lexical e => lexed.ending = .error e
  | .unbalanced offset => lexed.StrayAt offset ∨ lexed.UnclosedAt offset
  | .unmatchedTernary symbol separator offset =>
    lexed.TernaryAt grammar.registry symbol separator offset
  | .unknownFunction name offset => lexed.UnknownAt grammar.registry name offset
  | .argumentCount function bounds actual offset =>
    lexed.CallAt grammar.registry function bounds actual offset
  | .unexpected found offset => ∃ before, lexed.Next before ⟨found, offset⟩
  | .tooDeep limit offset =>
    (limit = grammar.maxDepth ∧ lexed.DeepAt grammar.registry limit offset) ∨
      (limit = grammar.maxHeight ∧ lexed.HighAt grammar.registry limit offset)

namespace Grammar

open Bracketed

variable {grammar : Grammar σ} {lexed : Lexed} {pending : List Construct}
  {before spans : List Spanned} {tree : Bracketed} {subtree : Subtree} {spanned : Spanned}
  {e : ParseError}

/-! ## Limits -/

theorem enter_eq_error {depth offset : Nat} (h : grammar.enter depth offset = .error e) :
    e = .tooDeep grammar.maxDepth offset ∧ grammar.maxDepth < depth := by
  unfold enter at h
  split at h
  · next deep => exact ⟨(Except.error.inj h).symm, deep⟩
  · contradiction

theorem build_eq_error {expr : Expr} {height offset : Nat}
    (h : grammar.build expr height offset = .error e) :
    e = .tooDeep grammar.maxHeight offset ∧ grammar.maxHeight < height := by
  unfold build at h
  split at h
  · next high => exact ⟨(Except.error.inj h).symm, high⟩
  · contradiction

/-- A node that is not built is too high, and its tokens are at hand. -/
theorem blames_build {offset : Nat} (operand : tree.Operand grammar.registry spans subtree)
    (within : before ++ spans <+: lexed.tokens) (root : subtree.expr.rootOffset? = some offset)
    (h : grammar.build subtree.expr subtree.height offset = .error e) : e.Blames grammar lexed := by
  obtain ⟨rfl, high⟩ := build_eq_error h
  obtain ⟨behind, tokens⟩ := within
  rw [operand.reads.height] at high
  exact .inr ⟨rfl, before, spans, behind, tree, subtree, tokens.symm, operand, root, high⟩

/-- An expression or a prefix operator that may not be begun is too deep. -/
theorem blames_enter {depth : Nat} (begun : Begun grammar.registry pending before)
    (next : lexed.Next before spanned)
    (deeper : depth = Reading.depth pending ∨
      (∃ symbol, spanned.token = .operator symbol ∧ grammar.isUnary symbol = true) ∧
        depth = Reading.depth pending + 1)
    (h : grammar.enter depth spanned.offset = .error e) : e.Blames grammar lexed := by
  obtain ⟨rfl, deep⟩ := enter_eq_error h
  refine .inl ⟨rfl, before, pending, spanned.token, begun, next, ?_⟩
  rcases deeper with rfl | ⟨operator, rfl⟩
  · exact .inl deep
  · exact .inr ⟨operator, deep⟩

/-! ## A complete operand -/

/-- Prefix operators fail to take an operand if the tree is too high. -/
theorem settle_blames (begun : Begun grammar.registry pending before)
    (operand : tree.Operand grammar.registry spans subtree) (tight : tree.isJoined = false)
    (within : before ++ spans <+: lexed.tokens) (h : grammar.settle subtree pending = .error e) :
    e.Blames grammar lexed := by
  induction begun generalizing tree spans subtree with
  | unary begun resolved offset ih =>
    rw [List.append_assoc, List.singleton_append] at within
    have larger := operand.unary resolved tight offset
    rw [settle] at h
    rcases error_of_bind_eq_error h with happly | ⟨result, happly, hsettle⟩
    · exact blames_build larger within rfl happly
    · cases eq_of_build_eq_ok happly
      exact ih larger rfl within hsettle
  | _ => contradiction

/-- An error that a complete operand leads to is that some node is too high. -/
theorem complete_blames (begun : Begun grammar.registry pending before)
    (operand : tree.Operand grammar.registry spans subtree) (tight : tree.isJoined = false)
    (within : before ++ spans <+: lexed.tokens) (h : grammar.complete subtree pending = .error e) :
    e.Blames grammar lexed := by
  rcases error_of_bind_eq_error h with hsettle | ⟨settled, -, hpure⟩
  · exact settle_blames begun operand tight within hsettle
  · contradiction

end Grammar

namespace Lexed

variable {lexed : Lexed} {before : List Spanned} {spanned : Spanned}

/-- The text goes as far as the token that comes next. -/
theorem Next.within (next : lexed.Next before spanned) (more : spanned.token ≠ .finish) :
    before ++ [spanned] <+: lexed.tokens := by
  cases next with
  | token tokens => exact ⟨_, by rw [tokens, List.append_assoc]; rfl⟩
  | finish => contradiction

/-- The tokens before are a front of the text. -/
theorem Next.exists_behind (next : lexed.Next before spanned) :
    ∃ behind, lexed.tokens = before ++ behind := by
  cases next with
  | token tokens => exact ⟨_, tokens⟩
  | finish tokens => exact ⟨[], by rw [tokens, List.append_nil]⟩

/-- The end of the text comes behind all tokens. -/
theorem Next.eq_of_finish {offset : Nat} (next : lexed.Next before ⟨.finish, offset⟩) :
    lexed.tokens = before ∧ lexed.ending = .ok offset := by
  cases next with
  | token _ more => exact absurd rfl more
  | finish tokens ending => exact ⟨tokens, ending⟩

/-- At the end of the text the innermost open parenthesis is not closed. -/
theorem Next.unclosedAt {offset opening : Nat} {outer : List Nat}
    (next : lexed.Next before ⟨.finish, offset⟩)
    (h : unclosed? before = some (outer ++ [opening])) : lexed.UnclosedAt opening := by
  obtain ⟨rfl, ending⟩ := next.eq_of_finish
  obtain ⟨front, behind, tokens, hfront, balanced⟩ := exists_of_unclosed?_eq_append h
  exact ⟨by rw [ending]; rfl, front, behind, outer, tokens, hfront, balanced, h⟩

/-- Where all parentheses are closed, one more that closes is stray. -/
theorem Next.strayAt {offset : Nat} (next : lexed.Next before ⟨.rightParen, offset⟩)
    (h : Balanced before) : lexed.StrayAt offset := by
  cases next with
  | token tokens => exact ⟨before, _, tokens, h⟩

end Lexed

/-- All names among the tokens are words, as they are in a text. -/
def Lexed.NamesWords (lexed : Lexed) : Prop :=
  ∀ name offset, ⟨.name name, offset⟩ ∈ lexed.tokens → Symbol.isWord name = true

/-- The names in a text are words. -/
theorem Lexicon.namesWords (registry : Registry σ) (text : String) :
    (registry.lexicon.tokens text).NamesWords := by
  intro name offset member
  obtain ⟨kind, slice, spells⟩ := exists_spells registry text _ (List.mem_map_of_mem member)
  cases spells with
  | name word => simpa [Symbol.isWord] using word

namespace Registry

variable {registry : Registry σ} {name : String}

theorem bounds?_of_function? {operator : Operator σ} (h : registry.function? name = some operator) :
    ∃ bounds, operator.bounds? = some bounds := by
  have harity : operator.implementation.arity = .function := (resolve?_eq_some_iff.1 h).2.2
  unfold Operator.bounds?
  cases himplementation : operator.implementation with
  | function bounds body => exact ⟨bounds, rfl⟩
  | _ => simp [himplementation, Implementation.arity] at harity

/-- A word that is no function is none in any letter case. -/
theorem upper_ne_of_function?_eq_none (word : Symbol.isWord name = true)
    (h : registry.function? name = none) (operator : Operator σ)
    (member : operator ∈ registry.operators) (isFunction : operator.arity = .function) :
    Symbol.upper operator.symbol ≠ Symbol.upper name := by
  intro same
  have symbolWord : Symbol.isWord operator.symbol = true := by
    rw [← Symbol.isWord_upper, same, Symbol.isWord_upper, word]
  have symbol : operator.symbol = Symbol.normalize name := by
    have normal := operator.symbol_normal
    rw [Symbol.normalize, if_pos symbolWord] at normal
    rw [Symbol.normalize, if_pos word, ← same, normal]
  have found : registry.function? name = some operator :=
    resolve?_eq_some_iff.2 ⟨member, symbol, isFunction⟩
  rw [h] at found
  contradiction

end Registry

namespace Grammar

open Bracketed

variable {grammar : Grammar σ} {lexed : Lexed} {pending : List Construct}
  {before spans : List Spanned} {tree : Bracketed} {subtree : Subtree} {spanned : Spanned}
  {e : ParseError}

/-! ## Calls -/

/-- A call that closes fails if it has a number of arguments that is not accepted, or if its tree
is too high. -/
theorem applyCall_blames {text : String} {operator : Operator σ} {bounds : ArgBounds}
    {args : List Bracketed} {inner : List Spanned} {subtrees : List Subtree}
    {offset opening closing : Nat} (words : lexed.NamesWords)
    (resolved : grammar.registry.function? text = some operator)
    (bounded : operator.bounds? = some bounds)
    (reads : (Bracketed.call text args).Reads
      (⟨.name text, offset⟩ :: ⟨.leftParen, opening⟩ :: (inner ++ [⟨.rightParen, closing⟩]))
      ⟨.call (Symbol.normalize text) (subtrees.reverse.map Subtree.expr) offset,
        (subtrees.map Subtree.height).foldl max 0 + 1⟩)
    (grouped : ∀ arg ∈ args, arg.Grouped grammar.registry) (count : args.length = subtrees.length)
    (balanced : Balanced inner) (counted : argumentsIn inner = args.length)
    (within : before ++ ⟨.name text, offset⟩ :: ⟨.leftParen, opening⟩ ::
      (inner ++ [⟨.rightParen, closing⟩]) <+: lexed.tokens)
    (h : grammar.applyCall (Symbol.normalize text) bounds offset subtrees = .error e) :
    e.Blames grammar lexed := by
  unfold applyCall at h
  split at h
  · next admitted =>
    have whole : (Bracketed.call text args).Grouped grammar.registry :=
      .call resolved bounded (by rw [count]; exact ArgBounds.admits_iff.1 admitted) grouped
    exact blames_build ⟨reads, whole⟩ within rfl h
  · next refused =>
    cases h
    obtain ⟨behind, tokens⟩ := within
    have word : Symbol.isWord text = true := words text offset (by rw [← tokens]; simp)
    have excess := ArgBounds.admits_eq_false_iff.1 (Bool.eq_false_iff.2 refused)
    refine ⟨before, text, opening, inner, closing, behind, operator, ?_, ?_, balanced, ?_, resolved,
      bounded, excess⟩
    · simpa using tokens.symm
    · rw [Symbol.normalize, if_pos word]
    · rw [counted, count]

/-! ## Behind a complete operand -/

/-- The parentheses that are open behind an operand are those that constructs wait for. -/
theorem Stands.unclosed?_eq {token : Token}
    (stands : grammar.Stands token pending before tree spans subtree) :
    unclosed? (before ++ spans) = some (Reading.openings pending).reverse :=
  stands.operand.balanced.unclosed?_append stands.begun.unclosed?_eq

section Take

variable {outer : List Construct} {offset floor : Nat} {symbol : String}

/-- Where the text ends, the innermost construct may have a parenthesis open. -/
theorem Stands.unclosedAt {construct : Construct} {token : Token} {opening : Nat}
    (stands : grammar.Stands token (construct :: outer) before tree spans subtree)
    (next : lexed.Next (before ++ spans) ⟨.finish, offset⟩)
    (h : construct.opening? = some opening) : lexed.UnclosedAt opening := by
  have innermost : unclosed? (before ++ spans) =
      some ((Reading.openings outer).reverse ++ [opening]) := by
    simpa [Reading.openings, h] using stands.unclosed?_eq
  exact next.unclosedAt innermost

/-- Behind an expression in parentheses. -/
theorem Stands.group_blames {opening : Nat}
    (stands : grammar.Stands spanned.token (.group opening :: outer) before tree spans subtree)
    (next : lexed.Next (before ++ spans) spanned)
    (hjoins : grammar.joins? (.group opening :: outer) spanned.token = none)
    (h : grammar.proceed spanned subtree (.group opening :: outer) = .error e) :
    e.Blames grammar lexed := by
  have begun := stands.begun
  have operand := stands.operand
  rw [proceed, hjoins] at h
  obtain ⟨token, closing⟩ := spanned
  cases token with
  | rightParen =>
    have within := next.within (by simp)
    cases begun with
    | group begun =>
      refine complete_blames begun (operand.group opening closing) rfl ?_ h
      simpa using within
  | finish =>
    cases h
    exact .inr (stands.unclosedAt next rfl)
  | _ =>
    cases h
    exact ⟨_, next⟩

/-- Behind an argument. -/
theorem Stands.call_blames {bounds : ArgBounds} {opening : Nat} {subtrees : List Subtree}
    (words : lexed.NamesWords)
    (stands : grammar.Stands spanned.token (.call symbol bounds offset opening subtrees :: outer)
      before tree spans subtree)
    (next : lexed.Next (before ++ spans) spanned)
    (hjoins : grammar.joins? (.call symbol bounds offset opening subtrees :: outer) spanned.token =
      none)
    (h : grammar.proceed spanned subtree (.call symbol bounds offset opening subtrees :: outer) =
      .error e) : e.Blames grammar lexed := by
  have begun := stands.begun
  have operand := stands.operand
  rw [proceed, hjoins] at h
  obtain ⟨token, closing⟩ := spanned
  cases token with
  | comma => contradiction
  | rightParen =>
    obtain ⟨text, operator, args, front, inner, hbegun, rfl, resolved, bounded, reads, grouped,
      hspans⟩ := begun.arguments operand
    have within := next.within (by simp)
    rw [hspans] at within
    have reaches : front ++ ⟨.name text, offset⟩ :: ⟨.leftParen, opening⟩ ::
        (inner ++ [⟨.rightParen, closing⟩]) <+: lexed.tokens := by simpa using within
    have whole := reads.call text offset opening closing
    rcases error_of_bind_eq_error h with happly | ⟨result, happly, hcomplete⟩
    · exact applyCall_blames words resolved bounded whole grouped reads.length_eq
        reads.wellNested.balanced reads.argumentsIn_eq reaches happly
    · obtain ⟨admitted, rfl⟩ := applyCall_eq_ok happly
      have hcall : (Bracketed.call text args).Grouped grammar.registry :=
        .call resolved bounded (by rw [reads.length_eq]; exact admitted) grouped
      exact complete_blames hbegun ⟨whole, hcall⟩ rfl reaches hcomplete
  | finish =>
    cases h
    exact .inr (stands.unclosedAt next rfl)
  | _ =>
    cases h
    exact ⟨_, next⟩

/-- A construct of a ternary operator tells where its symbol is. -/
theorem ternaryAt_of_begun {separator : String} {condition : Subtree} {behind : List Spanned}
    (begun : Begun grammar.registry (.ternary symbol separator offset floor condition :: outer)
      before) (tokens : lexed.tokens = before ++ behind) :
    lexed.TernaryAt grammar.registry symbol separator offset := by
  cases begun with
  | @ternary _ front _ _ _ _ _ _ begun notBinary resolved separated taken =>
    refine ⟨front, _, behind, _, _, _, ?_, taken.toOperand, notBinary, resolved, separated⟩
    simpa using tokens

/-- Behind the first branch of a ternary operator. -/
theorem Stands.ternary_blames {separator : String} {condition : Subtree}
    (stands : grammar.Stands spanned.token
      (.ternary symbol separator offset floor condition :: outer) before tree spans subtree)
    (next : lexed.Next (before ++ spans) spanned)
    (hjoins : grammar.joins? (.ternary symbol separator offset floor condition :: outer)
      spanned.token = none)
    (h : grammar.proceed spanned subtree
      (.ternary symbol separator offset floor condition :: outer) = .error e) :
    e.Blames grammar lexed := by
  obtain ⟨behind, tokens⟩ := next.exists_behind
  rw [proceed, hjoins] at h
  dsimp only at h
  split at h
  · contradiction
  · cases h
    rw [List.append_assoc] at tokens
    exact ternaryAt_of_begun stands.begun tokens

/-- An operator fails to take its last operand if the tree is too high. -/
theorem Stands.apply_blames {token : Token} {construct : Construct}
    (stands : grammar.Stands token (construct :: outer) before tree spans subtree)
    (within : before ++ spans <+: lexed.tokens)
    (h : grammar.apply construct subtree = .error e) : e.Blames grammar lexed := by
  obtain ⟨begun, operand, admitted, -⟩ := stands
  cases begun with
  | unary begun resolved offset =>
    have tight := tight_of_admitted_unary operand admitted
    have larger := operand.unary resolved tight offset
    exact blames_build larger (by simpa using within) rfl h
  | binary begun resolved taken offset =>
    have fits := fitsRight_of_admitted admitted fun _ => rfl
    have larger := taken.binary resolved operand fits offset
    exact blames_build larger (by simpa using within) rfl h
  | alternative begun notBinary resolved separated taken first offset between =>
    have fits := fitsRight_of_admitted admitted fun _ => rfl
    have larger := taken.ternary notBinary resolved separated first operand fits offset between
    exact blames_build larger (by simpa using within) rfl h
  | ternary | group | call | comma => contradiction

end Take

/-- A token after a complete operand fails rightly. -/
theorem proceed_blames (words : lexed.NamesWords)
    (stands : grammar.Stands spanned.token pending before tree spans subtree)
    (next : lexed.Next (before ++ spans) spanned)
    (h : grammar.proceed spanned subtree pending = .error e) : e.Blames grammar lexed := by
  -- The token completes the constructs that it does not join, innermost first, with ever larger
  -- operands.
  induction pending generalizing tree spans subtree before with
  | nil =>
    have closed := stands.unclosed?_eq
    unfold proceed at h
    split at h
    · contradiction
    obtain ⟨token, offset⟩ := spanned
    cases token with
    | finish => contradiction
    | rightParen =>
      cases h
      exact .inl (next.strayAt closed)
    | _ =>
      cases h
      exact ⟨_, next⟩
  | cons construct outer ih =>
    obtain ⟨behind, tokens⟩ := next.exists_behind
    have within : before ++ spans <+: lexed.tokens := ⟨behind, tokens.symm⟩
    cases hjoins : grammar.joins? (construct :: outer) spanned.token with
    | some joined =>
      rw [proceed.eq_def] at h
      simp only [hjoins] at h
      contradiction
    | none =>
      cases construct with
      | group opening => exact stands.group_blames next hjoins h
      | call name bounds offset opening subtrees => exact stands.call_blames words next hjoins h
      | ternary symbol separator offset floor condition => exact stands.ternary_blames next hjoins h
      | unary symbol offset =>
        rw [proceed, hjoins] at h
        rcases error_of_bind_eq_error h with happly | ⟨larger, happly, hproceed⟩
        · exact stands.apply_blames within happly
        · obtain ⟨whole, front, others, hstands, hspans⟩ := stands.unary happly
          rw [hspans] at next
          exact ih hstands next hproceed
      | binary symbol offset floor left =>
        rw [proceed, hjoins] at h
        rcases error_of_bind_eq_error h with happly | ⟨larger, happly, hproceed⟩
        · exact stands.apply_blames within happly
        · obtain ⟨whole, front, others, hstands, hspans⟩ := stands.binary hjoins happly
          rw [hspans] at next
          exact ih hstands next hproceed
      | alternative symbol offset floor condition ifTrue =>
        rw [proceed, hjoins] at h
        rcases error_of_bind_eq_error h with happly | ⟨larger, happly, hproceed⟩
        · exact stands.apply_blames within happly
        · obtain ⟨whole, front, others, hstands, hspans⟩ := stands.alternative hjoins happly
          rw [hspans] at next
          exact ih hstands next hproceed

/-- The end of the text inside parentheses blames the innermost open one. -/
theorem unexpectedEnd_blames {offset : Nat} (begun : Begun grammar.registry pending before)
    (next : lexed.Next before ⟨.finish, offset⟩) :
    (Reading.unexpectedEnd pending offset).Blames grammar lexed := by
  have leavesOpen := begun.unclosed?_eq
  unfold Reading.unexpectedEnd
  split
  · next opening outer hopenings =>
    rw [hopenings, List.reverse_cons] at leavesOpen
    exact .inr (next.unclosedAt leavesOpen)
  · exact ⟨before, next⟩

/-- A token where an operand should begin fails rightly. -/
theorem beginOperand_blames (begun : Begun grammar.registry pending before)
    (next : lexed.Next before spanned) (h : grammar.beginOperand pending spanned = .error e) :
    e.Blames grammar lexed := by
  obtain ⟨token, offset⟩ := spanned
  cases token with
  | number value =>
    have operand : Operand grammar.registry (.constant value) [⟨.number value, offset⟩]
        ⟨.constant value, 1⟩ := ⟨.constant value offset, .constant value⟩
    exact complete_blames begun operand rfl (next.within (by simp)) h
  | name text => contradiction
  | operator symbol =>
    simp only [beginOperand] at h
    split at h
    · next hunary =>
      rcases error_of_bind_eq_error h with henter | ⟨-, -, hpure⟩
      · exact blames_enter begun next (.inr ⟨⟨symbol, rfl, hunary⟩, rfl⟩) henter
      · contradiction
    · cases h
      exact ⟨before, next⟩
  | leftParen => contradiction
  | rightParen =>
    simp only [beginOperand] at h
    split at h
    · next closed =>
      cases h
      have leavesOpen := begun.unclosed?_eq
      rw [List.isEmpty_iff.1 closed, List.reverse_nil] at leavesOpen
      exact .inl (next.strayAt leavesOpen)
    · cases h
      exact ⟨before, next⟩
  | comma =>
    cases h
    exact ⟨before, next⟩
  | finish =>
    cases h
    exact unexpectedEnd_blames begun next

/-- A call that closes without arguments fails rightly. -/
theorem nullary_blames {name : String} {bounds : ArgBounds} {offset opening closing : Nat}
    {outer : List Construct} (words : lexed.NamesWords)
    (begun : Begun grammar.registry (.call name bounds offset opening [] :: outer) before)
    (next : lexed.Next before ⟨.rightParen, closing⟩)
    (h : (grammar.applyCall name bounds offset [] >>= fun whole => grammar.complete whole outer) =
      .error e) : e.Blames grammar lexed := by
  have within := next.within (by simp)
  cases begun with
  | @call _ front text _ _ begun resolved bounded =>
    have reaches : front ++ ⟨.name text, offset⟩ :: ⟨.leftParen, opening⟩ ::
        ([] ++ [⟨.rightParen, closing⟩]) <+: lexed.tokens := by simpa using within
    have whole := ReadsArgs.nil_call text offset opening closing
    rcases error_of_bind_eq_error h with happly | ⟨result, happly, hcomplete⟩
    · exact applyCall_blames words resolved bounded whole (by simp) rfl balanced_nil rfl reaches
        happly
    · obtain ⟨admitted, rfl⟩ := applyCall_eq_ok happly
      have hcall : (Bracketed.call text []).Grouped grammar.registry :=
        .call resolved bounded admitted (by simp)
      exact complete_blames begun ⟨whole, hcall⟩ rfl reaches hcomplete
  | comma _ _ _ reads => cases reads

/-- A token where an expression should begin fails rightly. -/
theorem beginExpression_blames (words : lexed.NamesWords)
    (begun : Begun grammar.registry pending before) (next : lexed.Next before spanned)
    (h : grammar.beginExpression pending spanned = .error e) : e.Blames grammar lexed := by
  obtain ⟨behind, tokens⟩ := next.exists_behind
  unfold beginExpression at h
  split at h
  · next htoken =>
    obtain ⟨token, closing⟩ := spanned
    cases htoken
    exact nullary_blames words begun next h
  · cases h
    exact ternaryAt_of_begun begun tokens
  · cases h
    exact ternaryAt_of_begun begun tokens
  · cases h
    exact ternaryAt_of_begun begun tokens
  · rcases error_of_bind_eq_error h with henter | ⟨-, -, hbegin⟩
    · exact blames_enter begun next (.inl rfl) henter
    · exact beginOperand_blames begun next hbegin

/-- A name that is called and is no function. -/
theorem signature_blames {text : String} {offset opening : Nat} (words : lexed.NamesWords)
    (next : lexed.Next (before ++ [⟨.name text, offset⟩]) ⟨.leftParen, opening⟩)
    (h : grammar.signature? text = none) :
    (ParseError.unknownFunction text offset).Blames grammar lexed := by
  have notFunction : grammar.registry.function? text = none := by
    cases hfunction : grammar.registry.function? text with
    | none => rfl
    | some operator =>
      obtain ⟨bounds, bounded⟩ := Registry.bounds?_of_function? hfunction
      rw [signature?_of_function? hfunction bounded] at h
      contradiction
  cases next with
  | @token _ behind tokens =>
    have word : Symbol.isWord text = true := words text offset (by rw [tokens]; simp)
    refine ⟨⟨before, opening, behind, by simpa using tokens⟩, ?_⟩
    exact Registry.upper_ne_of_function?_eq_none word notFunction

/-- What a step fails with says what is so. -/
theorem step_blames {reading : Reading} (words : lexed.NamesWords)
    (reached : Reached grammar.registry reading before) (next : lexed.Next before spanned)
    (h : grammar.step reading spanned = .error e) : e.Blames grammar lexed := by
  cases reached with
  | expression begun => exact beginExpression_blames words begun next h
  | operand begun => exact beginOperand_blames begun next h
  | complete begun operand tight =>
    exact proceed_blames words
      ⟨begun, operand, admitted_of_tight tight, endsBefore_of_tight tight⟩ next h
  | @name _ front begun text offset =>
    simp only [step] at h
    split at h
    · next hparen =>
      obtain ⟨token, opening⟩ := spanned
      cases hparen
      split at h
      · contradiction
      · next hsignature =>
        cases h
        exact signature_blames words next hsignature
    · obtain ⟨behind, tokens⟩ := next.exists_behind
      have operand : Operand grammar.registry (.var text) [⟨.name text, offset⟩] ⟨.var text, 1⟩ :=
        ⟨.var text offset, .var text⟩
      rcases error_of_bind_eq_error h with hsettle | ⟨⟨result, outer⟩, hsettle, hproceed⟩
      · exact settle_blames begun operand rfl ⟨behind, tokens.symm⟩ hsettle
      · obtain ⟨other, before, others, hbegun, hother, tight, hspans⟩ :=
          settle_sound begun operand rfl hsettle
        rw [hspans] at next
        exact proceed_blames words
          ⟨hbegun, hother, admitted_of_tight tight, endsBefore_of_tight tight⟩ next hproceed

/-! ## All tokens -/

/-- What a run fails with says what is so. -/
theorem foldlM_step_blames {tokens : List Spanned} {reading : Reading} (words : lexed.NamesWords)
    (more : ∀ spanned ∈ tokens, spanned.token ≠ .finish)
    (reached : Reached grammar.registry reading before) (htokens : lexed.tokens = before ++ tokens)
    (h : tokens.foldlM grammar.step reading = .error e) : e.Blames grammar lexed := by
  induction tokens generalizing reading before with
  | nil => contradiction
  | cons spanned tokens ih =>
    have some_token := more spanned List.mem_cons_self
    rw [List.foldlM_cons] at h
    rcases error_of_bind_eq_error h with hstep | ⟨middle, hstep, hrest⟩
    · exact step_blames words reached (.token htokens some_token) hstep
    · have hmiddle := step_sound reached hstep
      rw [Proceeded, if_neg some_token] at hmiddle
      exact ih (fun other member => more other (List.mem_cons_of_mem _ member)) hmiddle
        (by simpa using htokens) hrest

/-- An error at the end of the text is right about what is missing. -/
theorem finish_blames {reading : Reading} {offset : Nat} (words : lexed.NamesWords)
    (reached : Reached grammar.registry reading before)
    (next : lexed.Next before ⟨.finish, offset⟩)
    (h : grammar.finish reading offset = .error e) : e.Blames grammar lexed := by
  rcases error_of_bind_eq_error h with hstep | ⟨last, hstep, hlast⟩
  · exact step_blames words reached next hstep
  · have hsound := step_sound reached hstep
    rw [Proceeded, if_pos rfl] at hsound
    obtain ⟨tree, subtree, hfocus, -⟩ := hsound
    simp only [hfocus] at hlast
    contradiction

/-- All errors of reading are right about the tokens. -/
theorem read_blames (words : lexed.NamesWords)
    (more : ∀ spanned ∈ lexed.tokens, spanned.token ≠ .finish)
    (h : grammar.read lexed = .error e) : e.Blames grammar lexed := by
  rcases error_of_bind_eq_error h with hrun | ⟨reading, hrun, hending⟩
  · exact foldlM_step_blames words more (.expression .nil) rfl hrun
  · have reached := foldlM_step_sound more (.expression .nil) hrun
    rw [List.nil_append] at reached
    split at hending
    · next offset hoffset => exact finish_blames words reached (.finish rfl hoffset) hending
    · next lexical hlexical =>
      cases hending
      exact hlexical

/-- **Errors are right about the text**: what is said by the error that a text is not read with is
so, and only the end of the text is called the end. -/
theorem blames_of_parse_eq_error (registry : Registry σ) (maxDepth : Nat) (text : String)
    (e : ParseError) (h : Grammar.parse ⟨registry, maxDepth⟩ text = .error e) :
    e.Blames (Dialect.grammar ⟨registry, maxDepth⟩) (registry.lexicon.tokens text) ∧
      ∀ offset, e = .unexpected .finish offset → offset = Text.byteLength text.toList := by
  have blames := read_blames (Lexicon.namesWords registry text) Lexicon.token_ne_finish h
  refine ⟨blames, ?_⟩
  rintro offset rfl
  obtain ⟨before, next⟩ := blames
  exact registry.ending_eq_byteLength next.eq_of_finish.2

/-- The parentheses around the first argument do not count as another one. -/
theorem blames_second_argument_of_abs :
    Grammar.parse ⟨(Registry.builtin : Registry Generator), 9⟩ "1 + abs((2), 3)" =
        .error (.argumentCount "ABS" ⟨1, some 1⟩ 2 4) ∧
      ((Registry.builtin : Registry Generator).lexicon.tokens "1 + abs((2), 3)").CallAt
        (Registry.builtin : Registry Generator) "ABS" ⟨1, some 1⟩ 2 4 := by
  have fails : (match Grammar.parse ⟨(Registry.builtin : Registry Generator), 9⟩
      "1 + abs((2), 3)" with
      | .error e => decide (e = .argumentCount "ABS" ⟨1, some 1⟩ 2 4)
      | .ok _ => false) = true := by
    decide +kernel
  cases hparse : Grammar.parse ⟨(Registry.builtin : Registry Generator), 9⟩ "1 + abs((2), 3)" with
  | ok expr =>
    rw [hparse] at fails
    contradiction
  | error e =>
    rw [hparse] at fails
    cases of_decide_eq_true fails
    exact ⟨rfl, (blames_of_parse_eq_error Registry.builtin 9 "1 + abs((2), 3)" _ hparse).1⟩

/-- **Parentheses are told apart rightly.** Where parentheses are unbalanced, either the first one
that closes too much is named, or the last one that is never closed. What is read is balanced. All
the way the open parentheses are those that have been taken and not been closed. -/
theorem parentheses_told_apart (registry : Registry σ) (maxDepth : Nat) (text : String) :
    let grammar := Dialect.grammar ⟨registry, maxDepth⟩
    let lexed := registry.lexicon.tokens text
    let parsed := Grammar.parse ⟨registry, maxDepth⟩ text
    let start := Descent.start registry.lexicon text
    (∀ offset, parsed = .error (.unbalanced offset) →
      lexed.StrayAt offset ∨ lexed.UnclosedAt offset) ∧
    (∀ expr, parsed = .ok expr → Balanced lexed.tokens) ∧
    start.Leads grammar parsed ∧
    ∀ descent, start.Visits grammar descent →
      ∃ taken behind, descent.stream.Ahead behind ∧ taken ++ behind.tokens = lexed.tokens ∧
        behind.ending = lexed.ending ∧ unclosed? taken = some descent.openings := by
  intro grammar lexed parsed start
  refine ⟨fun offset hparsed => ?_, fun expr hparsed => ?_,
    Descent.leads_parse registry maxDepth text, fun descent visits => ?_⟩
  · have words := Lexicon.namesWords registry text
    exact read_blames words Lexicon.token_ne_finish hparsed
  · obtain ⟨-, tree, subtree, operand, -⟩ := read_sound Lexicon.token_ne_finish hparsed
    exact operand.balanced
  · obtain ⟨taken, hasTaken⟩ := visits.hasTaken
    obtain ⟨behind, ahead, tokens, ending⟩ := hasTaken.ahead
    exact ⟨taken, behind, ahead, tokens, ending, hasTaken.openings⟩

end Grammar

end Formulary
