import Formulary.Proofs.Reading.Complete

/-!
# Formulary.Proofs.Reading.Sound

What is read is well grouped.

The invariant of a reading is about the tokens it has taken. The constructs that
wait for an operand have been begun by some of them (`Begun`), and the rest spells
what the focus of the reading says (`Reached`). An operand that takes part in this
is a well-grouped tree (`Operand`). The token behind a complete operand either
joins it, or the innermost construct takes the operand and becomes a larger one;
the rules of grouping follow from the precedences that decide between the two.
-/

namespace Formulary

variable {σ : Type}

/-- A sequence succeeds only if both of its parts do. -/
theorem exists_of_bind_eq_ok {ε α β : Type} {first : Except ε α} {next : α → Except ε β}
    {result : β} (h : (first >>= next) = .ok result) :
    ∃ value, first = .ok value ∧ next value = .ok result := by
  cases first with
  | error e => exact absurd h (by simp [bind, Except.bind])
  | ok value => exact ⟨value, rfl, h⟩

namespace Bracketed

/-! ## What tokens have begun -/

/-- The tokens spell a well-grouped tree. -/
structure Operand (registry : Registry σ) (tree : Bracketed) (spans : List Spanned)
    (subtree : Subtree) : Prop where
  reads : tree.Reads spans subtree
  grouped : tree.Grouped registry

/-- The tokens spell the left operand or the condition of an operator, which is admitted where
it stands. -/
structure Taken (registry : Registry σ) (pending : List Construct) (operator : Operator σ)
    (tree : Bracketed) (spans : List Spanned) (subtree : Subtree) : Prop
    extends tree.Operand registry spans subtree where
  fits : tree.FitsLeft registry operator
  admits : pending.head?.all (Construct.admits operator.precedence.toNat) = true

/-- The tokens have begun the constructs, innermost first, and nothing behind them. -/
inductive Begun (registry : Registry σ) : List Construct → List Spanned → Prop
  | nil : Begun registry [] []
  | unary {pending : List Construct} {before : List Spanned} {symbol : String}
      {operator : Operator σ} (begun : Begun registry pending before)
      (resolved : registry.resolve? symbol .unary = some operator) (offset : Nat) :
      Begun registry (.unary symbol offset :: pending) (before ++ [⟨.operator symbol, offset⟩])
  | binary {pending : List Construct} {before lefts : List Spanned} {symbol : String}
      {operator : Operator σ} {left : Bracketed} {l : Subtree}
      (begun : Begun registry pending before)
      (resolved : registry.resolve? symbol .binary = some operator)
      (taken : left.Taken registry pending operator lefts l) (offset : Nat) :
      Begun registry (.binary symbol offset operator.rightPrecedence l :: pending)
        (before ++ (lefts ++ [⟨.operator symbol, offset⟩]))
  | ternary {pending : List Construct} {before conditions : List Spanned}
      {symbol separator : String} {operator : Operator σ} {condition : Bracketed} {c : Subtree}
      (begun : Begun registry pending before)
      (notBinary : registry.resolve? symbol .binary = none)
      (resolved : registry.resolve? symbol .ternary = some operator)
      (separated : operator.separator? = some separator)
      (taken : condition.Taken registry pending operator conditions c) (offset : Nat) :
      Begun registry (.ternary symbol separator offset operator.rightPrecedence c :: pending)
        (before ++ (conditions ++ [⟨.operator symbol, offset⟩]))
  | alternative {pending : List Construct} {before conditions trues : List Spanned}
      {symbol separator : String} {operator : Operator σ} {condition ifTrue : Bracketed}
      {c t : Subtree} (begun : Begun registry pending before)
      (notBinary : registry.resolve? symbol .binary = none)
      (resolved : registry.resolve? symbol .ternary = some operator)
      (separated : operator.separator? = some separator)
      (taken : condition.Taken registry pending operator conditions c)
      (first : ifTrue.Operand registry trues t) (offset between : Nat) :
      Begun registry (.alternative symbol offset operator.rightPrecedence c t :: pending)
        (before ++ (conditions ++ ⟨.operator symbol, offset⟩ ::
          (trues ++ [⟨.operator separator, between⟩])))
  | group {pending : List Construct} {before : List Spanned}
      (begun : Begun registry pending before) (opening : Nat) :
      Begun registry (.group opening :: pending) (before ++ [⟨.leftParen, opening⟩])
  | call {pending : List Construct} {before : List Spanned} {name : String}
      {operator : Operator σ} {bounds : ArgBounds} (begun : Begun registry pending before)
      (resolved : registry.function? name = some operator)
      (bounded : operator.bounds? = some bounds) (offset opening : Nat) :
      Begun registry (.call (Symbol.normalize name) bounds offset opening [] :: pending)
        (before ++ [⟨.name name, offset⟩, ⟨.leftParen, opening⟩])
  | comma {pending : List Construct} {before spans : List Spanned} {name : String}
      {operator : Operator σ} {bounds : ArgBounds} {args : List Bracketed}
      {subtrees : List Subtree} (begun : Begun registry pending before)
      (resolved : registry.function? name = some operator)
      (bounded : operator.bounds? = some bounds) (reads : ReadsArgs args spans subtrees)
      (grouped : ∀ arg ∈ args, arg.Grouped registry) (offset opening between : Nat) :
      Begun registry (.call (Symbol.normalize name) bounds offset opening subtrees :: pending)
        (before ++ ⟨.name name, offset⟩ :: ⟨.leftParen, opening⟩ ::
          (spans ++ [⟨.comma, between⟩]))

/-- The tokens have led to the reading. -/
inductive Reached (registry : Registry σ) : Reading → List Spanned → Prop
  | expression {pending : List Construct} {before : List Spanned}
      (begun : Begun registry pending before) : Reached registry ⟨pending, .expression⟩ before
  | operand {pending : List Construct} {before : List Spanned}
      (begun : Begun registry pending before) : Reached registry ⟨pending, .operand⟩ before
  | name {pending : List Construct} {before : List Spanned}
      (begun : Begun registry pending before) (text : String) (offset : Nat) :
      Reached registry ⟨pending, .name text offset⟩ (before ++ [⟨.name text, offset⟩])
  | complete {pending : List Construct} {before spans : List Spanned} {tree : Bracketed}
      {subtree : Subtree} (begun : Begun registry pending before)
      (operand : tree.Operand registry spans subtree) (tight : tree.isJoined = false) :
      Reached registry ⟨pending, .complete subtree⟩ (before ++ spans)

/-- After the tokens and one more, which the reading has just taken: at the end of the text they
spell a whole expression, and else they have led to the reading. -/
def Proceeded (registry : Registry σ) (spanned : Spanned) (reading : Reading)
    (spans : List Spanned) : Prop :=
  if spanned.token = .finish then
    ∃ tree subtree, reading.focus = .complete subtree ∧ Operand registry tree spans subtree
  else Reached registry reading (spans ++ [spanned])

/-! ## Operands that become larger operands -/

variable {registry : Registry σ} {pending : List Construct} {operator : Operator σ}
  {left right condition ifTrue ifFalse inner : Bracketed}
  {lefts rights conditions trues falses spans : List Spanned} {l r c t f i : Subtree}
  {symbol separator : String}

theorem Proceeded.of_reached {spanned : Spanned} {reading : Reading}
    (more : spanned.token ≠ .finish) (reached : Reached registry reading (spans ++ [spanned])) :
    Proceeded registry spanned reading spans := by
  rw [Proceeded, if_neg more]
  exact reached

/-- A symbol and a tight operand spell a unary operation. -/
theorem Operand.unary (operand : inner.Operand registry spans i)
    (resolved : registry.resolve? symbol .unary = some operator) (tight : inner.isJoined = false)
    (offset : Nat) :
    (Bracketed.unary symbol inner).Operand registry (⟨.operator symbol, offset⟩ :: spans)
      ⟨.unary symbol i.expr offset, i.height + 1⟩ :=
  ⟨operand.reads.unary symbol offset, .unary resolved operand.grouped tight⟩

/-- A taken operand, a symbol and what fits on its right spell a binary operation. -/
theorem Taken.binary (taken : left.Taken registry pending operator lefts l)
    (resolved : registry.resolve? symbol .binary = some operator)
    (operand : right.Operand registry rights r) (fits : right.FitsRight registry operator)
    (offset : Nat) :
    (Bracketed.binary symbol left right).Operand registry
      (lefts ++ ⟨.operator symbol, offset⟩ :: rights)
      ⟨.binary symbol l.expr r.expr offset, max l.height r.height + 1⟩ :=
  ⟨taken.reads.binary operand.reads symbol offset,
    .binary resolved taken.grouped operand.grouped taken.fits fits⟩

/-- A taken condition, both branches and the symbols between spell a ternary operation. -/
theorem Taken.ternary (taken : condition.Taken registry pending operator conditions c)
    (notBinary : registry.resolve? symbol .binary = none)
    (resolved : registry.resolve? symbol .ternary = some operator)
    (separated : operator.separator? = some separator)
    (first : ifTrue.Operand registry trues t) (operand : ifFalse.Operand registry falses f)
    (fits : ifFalse.FitsRight registry operator) (offset between : Nat) :
    (Bracketed.ternary symbol separator condition ifTrue ifFalse).Operand registry
      (conditions ++ ⟨.operator symbol, offset⟩ ::
        (trues ++ ⟨.operator separator, between⟩ :: falses))
      ⟨.ternary symbol c.expr t.expr f.expr offset, max (max c.height t.height) f.height + 1⟩ :=
  ⟨taken.reads.ternary first.reads operand.reads symbol separator offset between,
    .ternary notBinary resolved separated taken.grouped first.grouped operand.grouped taken.fits
      fits⟩

/-- Parentheses around an operand spell a tight one. -/
theorem Operand.group (operand : inner.Operand registry spans i) (opening closing : Nat) :
    (Bracketed.group inner).Operand registry
      (⟨.leftParen, opening⟩ :: (spans ++ [⟨.rightParen, closing⟩])) i :=
  ⟨operand.reads.group opening closing, .group operand.grouped⟩

/-- The operator that joins a tree is admitted by the construct that waits for the tree, which
is what the rule for right operands asks for. -/
theorem fitsRight_of_admitted {construct : Construct}
    (admitted : right.Admitted registry (construct :: pending))
    (hadmits : ∀ precedence, construct.admits precedence =
      decide (operator.rightPrecedence ≤ precedence)) : right.FitsRight registry operator := by
  intro joint h
  have := admitted joint h
  simpa [hadmits] using this

/-- A prefix operator admits only a tree that no binary or ternary operator joins. -/
theorem tight_of_admitted_unary {offset : Nat} (operand : inner.Operand registry spans i)
    (admitted : inner.Admitted registry (.unary symbol offset :: pending)) :
    inner.isJoined = false := by
  cases operand.grouped with
  | binary resolved => exact absurd (admitted _ resolved) (by simp [Construct.admits])
  | ternary _ resolved => exact absurd (admitted _ resolved) (by simp [Construct.admits])
  | _ => rfl

/-- An operand that a call waits for is its next argument. -/
theorem Begun.arguments {before : List Spanned} {name : String} {bounds : ArgBounds}
    {offset opening : Nat} {subtrees : List Subtree}
    (begun : Begun registry (.call name bounds offset opening subtrees :: pending) before)
    (operand : inner.Operand registry spans i) :
    ∃ text operator args front others, Begun registry pending front ∧
      name = Symbol.normalize text ∧ registry.function? text = some operator ∧
      operator.bounds? = some bounds ∧ ReadsArgs args others (i :: subtrees) ∧
      (∀ arg ∈ args, arg.Grouped registry) ∧
      before ++ spans = front ++ ⟨.name text, offset⟩ :: ⟨.leftParen, opening⟩ :: others := by
  cases begun with
  | call begun resolved bounded =>
    refine ⟨_, _, [inner], _, spans, begun, rfl, resolved, bounded, .first operand.reads, ?_, ?_⟩
    · simpa using operand.grouped
    · simp
  | @comma _ _ _ _ _ _ args _ begun resolved bounded reads grouped _ _ between =>
    refine ⟨_, _, args ++ [inner], _, _, begun, rfl, resolved, bounded,
      .next reads between operand.reads, ?_, ?_⟩
    · intro arg member
      rcases List.mem_append.1 member with member | member
      · exact grouped arg member
      · rw [List.mem_singleton.1 member]
        exact operand.grouped
    · simp

end Bracketed

/-! ## What a step preserves -/

namespace Grammar

open Bracketed

variable {grammar : Grammar σ} {pending : List Construct} {before spans : List Spanned}
  {tree : Bracketed} {subtree : Subtree} {spanned : Spanned} {reading : Reading}

theorem eq_of_build_eq_ok {expr : Expr} {height offset : Nat}
    (h : grammar.build expr height offset = .ok subtree) : subtree = ⟨expr, height⟩ := by
  unfold build at h
  split at h
  · contradiction
  · exact (Except.ok.inj h).symm

/-- A call that is built has as many arguments as its function accepts. -/
theorem applyCall_eq_ok {name : String} {bounds : ArgBounds} {offset : Nat} {args : List Subtree}
    (h : grammar.applyCall name bounds offset args = .ok subtree) :
    (bounds.least ≤ args.length ∧ ∀ most ∈ bounds.most, args.length ≤ most) ∧
      subtree = ⟨.call name (args.reverse.map Subtree.expr) offset,
        (args.map Subtree.height).foldl max 0 + 1⟩ := by
  unfold applyCall at h
  split at h
  · next admitted => exact ⟨ArgBounds.admits_iff.1 admitted, eq_of_build_eq_ok h⟩
  · contradiction

/-- Prefix operators that take an operand make a tight operand of it. -/
theorem settle_sound {outer : List Construct} {result : Subtree}
    (begun : Begun grammar.registry pending before)
    (operand : tree.Operand grammar.registry spans subtree) (tight : tree.isJoined = false)
    (h : grammar.settle subtree pending = .ok (result, outer)) :
    ∃ other front others, Begun grammar.registry outer front ∧
      Operand grammar.registry other others result ∧ other.isJoined = false ∧
      before ++ spans = front ++ others := by
  induction begun generalizing tree spans subtree with
  | unary begun resolved offset ih =>
    rw [settle] at h
    obtain ⟨larger, happly, hsettle⟩ := exists_of_bind_eq_ok h
    cases eq_of_build_eq_ok happly
    obtain ⟨other, front, others, hbegun, hother, htight, hspans⟩ :=
      ih (operand.unary resolved tight offset) rfl hsettle
    exact ⟨other, front, others, hbegun, hother, htight, by rw [← hspans]; simp⟩
  | _ =>
    cases h
    exact ⟨tree, _, spans, by constructor <;> assumption, operand, tight, rfl⟩

/-- A complete operand leads to a reading that its tokens have reached. -/
theorem complete_sound (begun : Begun grammar.registry pending before)
    (operand : tree.Operand grammar.registry spans subtree) (tight : tree.isJoined = false)
    (h : grammar.complete subtree pending = .ok reading) :
    Reached grammar.registry reading (before ++ spans) := by
  obtain ⟨⟨result, outer⟩, hsettle, hreading⟩ := exists_of_bind_eq_ok h
  obtain ⟨other, front, others, hbegun, hother, htight, hspans⟩ :=
    settle_sound begun operand tight hsettle
  cases hreading
  rw [hspans]
  exact .complete hbegun hother htight

/-- What joins an operand is an operator that the innermost construct leaves it to. -/
theorem joins?_eq_some {token : Token} {symbol : String} {joiner : Joiner}
    (h : grammar.joins? pending token = some (symbol, joiner)) :
    token = .operator symbol ∧ grammar.joiner? symbol = some joiner ∧
      pending.head?.all (Construct.admits joiner.precedence) = true := by
  unfold joins? at h
  split at h
  · next other =>
    obtain ⟨found, hjoiner, hpair⟩ := Option.bind_eq_some_iff.1 h
    split at hpair
    · next admits =>
      cases hpair
      exact ⟨rfl, hjoiner, admits⟩
    · contradiction
  · contradiction

/-- A complete operand behind the constructs that have been begun and before a token: the
constructs admit it, and the token does not go on with its last operand. -/
structure Stands (grammar : Grammar σ) (token : Token) (pending : List Construct)
    (before : List Spanned) (tree : Bracketed) (spans : List Spanned) (subtree : Subtree) :
    Prop where
  begun : Begun grammar.registry pending before
  operand : tree.Operand grammar.registry spans subtree
  admitted : tree.Admitted grammar.registry pending
  ends : tree.EndsBefore grammar token

/-- An operator that joins a complete operand begins its construct. -/
theorem Stands.join {symbol : String} {joiner : Joiner}
    (stands : grammar.Stands spanned.token pending before tree spans subtree)
    (h : grammar.joins? pending spanned.token = some (symbol, joiner)) :
    Proceeded grammar.registry spanned (join symbol joiner spanned.offset subtree pending)
      (before ++ spans) := by
  obtain ⟨token, offset⟩ := spanned
  obtain ⟨htoken, hjoiner, admits⟩ := joins?_eq_some h
  cases htoken
  have fits (operator : Operator σ) (hprecedence : joiner.precedence = operator.precedence.toNat) :
      tree.FitsLeft grammar.registry operator := by
    intro joint hjoint
    rw [← hprecedence]
    exact stands.ends symbol joiner rfl hjoiner joint hjoint
  refine .of_reached (by simp) ?_
  rw [List.append_assoc]
  rcases joiner?_eq_some hjoiner with ⟨operator, resolved, rfl⟩ |
    ⟨operator, separator, notBinary, resolved, separated, rfl⟩
  · exact .expression
      (.binary stands.begun resolved ⟨stands.operand, fits operator rfl, admits⟩ offset)
  · exact .expression (.ternary stands.begun notBinary resolved separated
      ⟨stands.operand, fits operator rfl, admits⟩ offset)

/-- A tree stands where its construct was begun, before a token that does not join the last
operand within the construct. -/
theorem Stands.of_joins?_eq_none {construct : Construct} {outer : List Construct}
    {operator : Operator σ} {token : Token} (begun : Begun grammar.registry outer before)
    (operand : tree.Operand grammar.registry spans subtree)
    (hjoint : tree.joint? grammar.registry = some operator)
    (admits : outer.head?.all (Construct.admits operator.precedence.toNat) = true)
    (hadmits : ∀ precedence, construct.admits precedence =
      decide (operator.rightPrecedence ≤ precedence))
    (h : grammar.joins? (construct :: outer) token = none) :
    grammar.Stands token outer before tree spans subtree where
  begun := begun
  operand := operand
  admitted joint hjoint' := by
    rw [hjoint] at hjoint'
    cases hjoint'
    exact admits
  ends symbol joiner htoken hjoiner joint hjoint' := by
    rw [hjoint] at hjoint'
    cases hjoint'
    have hrefused : construct.admits joiner.precedence = false := by
      cases hadmitted : construct.admits joiner.precedence with
      | false => rfl
      | true => simp [joins?, htoken, hjoiner, hadmitted] at h
    rw [hadmits] at hrefused
    have := of_decide_eq_false hrefused
    omega

/-! ### The innermost construct takes the operand -/

section Take

variable {outer : List Construct} {token : Token} {offset floor : Nat} {larger : Subtree}
  {symbol : String}

/-- A prefix operator that takes the tree stands before the same token. -/
theorem Stands.unary
    (stands : grammar.Stands token (.unary symbol offset :: outer) before tree spans subtree)
    (happly : grammar.apply (.unary symbol offset) subtree = .ok larger) :
    ∃ whole front others, grammar.Stands token outer front whole others larger ∧
      before ++ spans = front ++ others := by
  obtain ⟨begun, operand, admitted, -⟩ := stands
  cases eq_of_build_eq_ok happly
  have tight := tight_of_admitted_unary operand admitted
  cases begun with
  | unary begun resolved =>
    have whole := operand.unary resolved tight offset
    exact ⟨_, _, _, ⟨begun, whole, admitted_of_tight rfl, endsBefore_of_tight rfl⟩, by simp⟩

/-- A binary operator that takes its right operand stands before the same token. -/
theorem Stands.binary {left : Subtree}
    (stands : grammar.Stands token (.binary symbol offset floor left :: outer) before tree spans
      subtree)
    (h : grammar.joins? (.binary symbol offset floor left :: outer) token = none)
    (happly : grammar.apply (.binary symbol offset floor left) subtree = .ok larger) :
    ∃ whole front others, grammar.Stands token outer front whole others larger ∧
      before ++ spans = front ++ others := by
  obtain ⟨begun, operand, admitted, -⟩ := stands
  cases eq_of_build_eq_ok happly
  cases begun with
  | binary begun resolved taken =>
    have fits := fitsRight_of_admitted admitted fun _ => rfl
    have whole := taken.binary resolved operand fits offset
    exact ⟨_, _, _, .of_joins?_eq_none begun whole resolved taken.admits (fun _ => rfl) h, by simp⟩

theorem Stands.alternative {condition ifTrue : Subtree}
    (stands : grammar.Stands token (.alternative symbol offset floor condition ifTrue :: outer)
      before tree spans subtree)
    (h : grammar.joins? (.alternative symbol offset floor condition ifTrue :: outer) token = none)
    (happly : grammar.apply (.alternative symbol offset floor condition ifTrue) subtree =
      .ok larger) :
    ∃ whole front others, grammar.Stands token outer front whole others larger ∧
      before ++ spans = front ++ others := by
  obtain ⟨begun, operand, admitted, -⟩ := stands
  cases eq_of_build_eq_ok happly
  cases begun with
  | alternative begun notBinary resolved separated taken first _ between =>
    have fits := fitsRight_of_admitted admitted fun _ => rfl
    have whole := taken.ternary notBinary resolved separated first operand fits offset between
    exact ⟨_, _, _, .of_joins?_eq_none begun whole resolved taken.admits (fun _ => rfl) h, by simp⟩

/-- The separator of a ternary operator ends its first branch. -/
theorem Stands.separator {separator : String} {condition : Subtree} {between : Nat}
    (stands : grammar.Stands (.operator separator)
      (.ternary symbol separator offset floor condition :: outer) before tree spans subtree) :
    Proceeded grammar.registry ⟨.operator separator, between⟩
      ⟨.alternative symbol offset floor condition subtree :: outer, .expression⟩
      (before ++ spans) := by
  obtain ⟨begun, operand, -, -⟩ := stands
  refine .of_reached (by simp) ?_
  cases begun with
  | ternary begun notBinary resolved separated taken =>
    have := begun.alternative notBinary resolved separated taken operand offset between
    simpa using Reached.expression this

/-- A closing parenthesis completes a group. -/
theorem Stands.group {opening closing : Nat}
    (stands : grammar.Stands .rightParen (.group opening :: outer) before tree spans subtree)
    (h : grammar.complete subtree outer = .ok reading) :
    Proceeded grammar.registry ⟨.rightParen, closing⟩ reading (before ++ spans) := by
  obtain ⟨begun, operand, -, -⟩ := stands
  refine .of_reached (by simp) ?_
  cases begun with
  | group begun =>
    have := complete_sound begun (operand.group opening closing) rfl h
    simpa using this

/-- A comma ends an argument of a call. -/
theorem Stands.comma {bounds : ArgBounds} {opening between : Nat} {subtrees : List Subtree}
    (stands : grammar.Stands .comma (.call symbol bounds offset opening subtrees :: outer) before
      tree spans subtree) :
    Proceeded grammar.registry ⟨.comma, between⟩
      ⟨.call symbol bounds offset opening (subtree :: subtrees) :: outer, .expression⟩
      (before ++ spans) := by
  obtain ⟨begun, operand, -, -⟩ := stands
  obtain ⟨text, operator, args, front, others, hbegun, rfl, resolved, bounded, reads, grouped,
    hspans⟩ := begun.arguments operand
  have hcomma := hbegun.comma resolved bounded reads grouped offset opening between
  refine .of_reached (by simp) ?_
  rw [hspans]
  simpa using Reached.expression hcomma

/-- A closing parenthesis completes a call, whose last argument it ends. -/
theorem Stands.call {bounds : ArgBounds} {opening closing : Nat} {subtrees : List Subtree}
    (stands : grammar.Stands .rightParen (.call symbol bounds offset opening subtrees :: outer)
      before tree spans subtree)
    (h : (grammar.applyCall symbol bounds offset (subtree :: subtrees) >>= fun whole =>
      grammar.complete whole outer) = .ok reading) :
    Proceeded grammar.registry ⟨.rightParen, closing⟩ reading (before ++ spans) := by
  obtain ⟨begun, operand, -, -⟩ := stands
  obtain ⟨text, operator, args, front, others, hbegun, rfl, resolved, bounded, reads, grouped,
    hspans⟩ := begun.arguments operand
  obtain ⟨whole, happly, hcomplete⟩ := exists_of_bind_eq_ok h
  obtain ⟨admitted, rfl⟩ := applyCall_eq_ok happly
  have hcall : (Bracketed.call text args).Grouped grammar.registry :=
    .call resolved bounded (by rw [reads.length_eq]; exact admitted) grouped
  have := complete_sound hbegun ⟨reads.call text offset opening closing, hcall⟩ rfl hcomplete
  refine .of_reached (by simp) ?_
  rw [hspans]
  simpa using this

end Take

/-- A token after a complete operand leads on as the operand and the constructs say. -/
theorem proceed_sound (stands : grammar.Stands spanned.token pending before tree spans subtree)
    (h : grammar.proceed spanned subtree pending = .ok reading) :
    Proceeded grammar.registry spanned reading (before ++ spans) := by
  induction pending generalizing tree spans subtree before with
  | nil =>
    unfold proceed at h
    split at h
    · next hjoins =>
      cases h
      exact stands.join hjoins
    · split at h
      · next hfinish =>
        cases h
        cases stands.begun
        rw [Proceeded, if_pos hfinish]
        exact ⟨tree, subtree, rfl, stands.operand⟩
      · contradiction
      · contradiction
  | cons construct outer ih =>
    unfold proceed at h
    split at h
    · next hjoins =>
      cases h
      exact stands.join hjoins
    next hjoins =>
    cases construct with
    | group opening =>
      obtain ⟨token, closing⟩ := spanned
      dsimp only at h
      split at h
      · exact stands.group h
      · contradiction
      · contradiction
    | call name bounds offset opening subtrees =>
      obtain ⟨token, between⟩ := spanned
      dsimp only at h
      split at h
      · cases h
        exact stands.comma
      · exact stands.call h
      · contradiction
      · contradiction
    | ternary symbol separator offset floor condition =>
      obtain ⟨token, between⟩ := spanned
      dsimp only at h
      split at h
      · next hseparator =>
        cases hseparator
        cases h
        exact stands.separator
      · contradiction
    | unary symbol offset =>
      obtain ⟨larger, happly, hproceed⟩ := exists_of_bind_eq_ok h
      obtain ⟨whole, front, others, hstands, hspans⟩ := stands.unary happly
      rw [hspans]
      exact ih hstands hproceed
    | binary symbol offset floor left =>
      obtain ⟨larger, happly, hproceed⟩ := exists_of_bind_eq_ok h
      obtain ⟨whole, front, others, hstands, hspans⟩ := stands.binary hjoins happly
      rw [hspans]
      exact ih hstands hproceed
    | alternative symbol offset floor condition ifTrue =>
      obtain ⟨larger, happly, hproceed⟩ := exists_of_bind_eq_ok h
      obtain ⟨whole, front, others, hstands, hspans⟩ := stands.alternative hjoins happly
      rw [hspans]
      exact ih hstands hproceed

/-! ### One token -/

/-- A token that begins an operand is what the reading says it is. -/
theorem beginOperand_sound (begun : Begun grammar.registry pending before)
    (h : grammar.beginOperand pending spanned = .ok reading) :
    Proceeded grammar.registry spanned reading before := by
  obtain ⟨token, offset⟩ := spanned
  cases token with
  | number value =>
    have operand : Operand grammar.registry (.constant value) [⟨.number value, offset⟩]
        ⟨.constant value, 1⟩ := ⟨.constant value offset, .constant value⟩
    exact .of_reached (by simp) (complete_sound begun operand rfl h)
  | name text =>
    cases h
    exact .of_reached (by simp) (.name begun text offset)
  | operator symbol =>
    simp only [beginOperand] at h
    split at h
    · next hunary =>
      obtain ⟨operator, resolved⟩ := Option.isSome_iff_exists.1 hunary
      obtain ⟨-, -, hreading⟩ := exists_of_bind_eq_ok h
      cases hreading
      exact .of_reached (by simp) (.operand (.unary begun resolved offset))
    · contradiction
  | leftParen =>
    cases h
    exact .of_reached (by simp) (.expression (.group begun offset))
  | rightParen =>
    simp only [beginOperand] at h
    split at h <;> contradiction
  | comma => contradiction
  | finish => contradiction

/-- A token that begins an expression is what the reading says it is. -/
theorem beginExpression_sound (begun : Begun grammar.registry pending before)
    (h : grammar.beginExpression pending spanned = .ok reading) :
    Proceeded grammar.registry spanned reading before := by
  unfold beginExpression at h
  split at h
  · next name bounds offset opening outer htoken =>
    obtain ⟨token, closing⟩ := spanned
    cases htoken
    obtain ⟨whole, happly, hcomplete⟩ := exists_of_bind_eq_ok h
    obtain ⟨admitted, rfl⟩ := applyCall_eq_ok happly
    refine .of_reached (by simp) ?_
    cases begun with
    | call begun resolved bounded =>
      have hcall : (Bracketed.call _ []).Grouped grammar.registry :=
        .call resolved bounded admitted (by simp)
      have := complete_sound begun ⟨ReadsArgs.nil_call _ offset opening closing, hcall⟩ rfl
        hcomplete
      simpa using this
    | comma _ _ _ reads => cases reads
  · contradiction
  · contradiction
  · contradiction
  · obtain ⟨-, -, hbegin⟩ := exists_of_bind_eq_ok h
    exact beginOperand_sound begun hbegin

/-- What a step preserves: the tokens have led to the reading. -/
theorem step_sound (reached : Reached grammar.registry reading before) {next : Reading}
    (h : grammar.step reading spanned = .ok next) :
    Proceeded grammar.registry spanned next before := by
  cases reached with
  | expression begun => exact beginExpression_sound begun h
  | operand begun => exact beginOperand_sound begun h
  | complete begun operand tight =>
    exact proceed_sound ⟨begun, operand, admitted_of_tight tight, endsBefore_of_tight tight⟩ h
  | name begun text offset =>
    simp only [step] at h
    split at h
    · next hparen =>
      obtain ⟨token, opening⟩ := spanned
      cases hparen
      split at h
      · next name bounds hsignature =>
        cases h
        obtain ⟨operator, resolved, bounded, rfl⟩ := signature?_eq_some hsignature
        have := Reached.expression (begun.call resolved bounded offset opening)
        exact .of_reached (by simp) (by simpa using this)
      · contradiction
    · obtain ⟨⟨result, outer⟩, hsettle, hproceed⟩ := exists_of_bind_eq_ok h
      have operand : Operand grammar.registry (.var text) [⟨.name text, offset⟩] ⟨.var text, 1⟩ :=
        ⟨.var text offset, .var text⟩
      obtain ⟨other, front, others, hbegun, hother, tight, hspans⟩ :=
        settle_sound begun operand rfl hsettle
      rw [hspans]
      exact proceed_sound ⟨hbegun, hother, admitted_of_tight tight, endsBefore_of_tight tight⟩
        hproceed

/-! ### All tokens -/

/-- What a run preserves. None of its tokens is the end of the text. -/
theorem foldlM_step_sound {tokens : List Spanned}
    (more : ∀ spanned ∈ tokens, spanned.token ≠ .finish)
    (reached : Reached grammar.registry reading before) {last : Reading}
    (h : tokens.foldlM grammar.step reading = .ok last) :
    Reached grammar.registry last (before ++ tokens) := by
  induction tokens generalizing reading before with
  | nil =>
    cases h
    simpa using reached
  | cons spanned tokens ih =>
    rw [List.foldlM_cons] at h
    obtain ⟨next, hstep, hrest⟩ := exists_of_bind_eq_ok h
    have hnext := step_sound reached hstep
    rw [Proceeded, if_neg (more spanned List.mem_cons_self)] at hnext
    have := ih (fun other member => more other (List.mem_cons_of_mem _ member)) hnext hrest
    simpa using this

/-- What is given at the end is spelled by all the tokens. -/
theorem finish_sound {offset : Nat} {expr : Expr}
    (reached : Reached grammar.registry reading before)
    (h : grammar.finish reading offset = .ok expr) :
    ∃ tree subtree, Operand grammar.registry tree before subtree ∧ subtree.expr = expr := by
  obtain ⟨last, hstep, hlast⟩ := exists_of_bind_eq_ok h
  have hsound := step_sound reached hstep
  rw [Proceeded, if_pos rfl] at hsound
  obtain ⟨tree, subtree, hfocus, operand⟩ := hsound
  simp only [hfocus] at hlast
  cases hlast
  exact ⟨tree, subtree, operand, rfl⟩

/-- Tokens that are read as an expression spell a well-grouped tree, which is the expression
without its parentheses. -/
theorem read_sound {lexed : Lexed} {expr : Expr}
    (more : ∀ spanned ∈ lexed.tokens, spanned.token ≠ .finish)
    (h : grammar.read lexed = .ok expr) :
    lexed.ending.isOk = true ∧ ∃ tree subtree,
      Operand grammar.registry tree lexed.tokens subtree ∧ subtree.expr = expr := by
  obtain ⟨reading, hrun, hending⟩ := exists_of_bind_eq_ok h
  have reached := foldlM_step_sound more (.expression .nil) hrun
  rw [List.nil_append] at reached
  split at hending
  · next offset hoffset =>
    have lexes : lexed.ending.isOk = true := by
      rw [hoffset]
      rfl
    exact ⟨lexes, finish_sound reached hending⟩
  · contradiction

end Grammar

/-- The end of a text is no item among its tokens. -/
theorem Lexicon.token_ne_finish {lexicon : Lexicon} {cursor : Cursor} :
    ∀ spanned ∈ (lexicon.tokensFrom cursor).tokens, spanned.token ≠ .finish := by
  fun_induction tokensFrom lexicon cursor with
  | case1 => simp
  | case2 => simp
  | case3 cursor spanned next hscan more others ih => simpa using ⟨more, ih⟩

namespace Grammar

/-- **Soundness**: what is read from a text is a well-grouped tree without its parentheses. The
tokens of the tree are those of the text, and the offset of each operator and call is where its
symbol or name stands in the text. -/
theorem exists_grouped_of_parse_eq_ok (registry : Registry σ) (maxDepth : Nat) (text : String)
    (expr : Expr) (h : Grammar.parse ⟨registry, maxDepth⟩ text = .ok expr) :
    (registry.lexicon.tokens text).ending.isOk = true ∧
    ∃ tree : Bracketed, tree.Grouped registry ∧
      (registry.lexicon.tokens text).tokens.map Spanned.token = tree.tokens ∧
      tree.expr ((registry.lexicon.tokens text).tokens.map Spanned.offset) = expr := by
  obtain ⟨lexes, tree, subtree, operand, rfl⟩ := read_sound Lexicon.token_ne_finish h
  exact ⟨lexes, tree, operand.grouped, operand.reads.tokens, operand.reads.expr.symm⟩

/-- Differences group from the left and powers from the right. -/
theorem exists_grouped_differences_and_powers :
    ∃ (expr : Expr) (tree : Bracketed),
      Grammar.parse ⟨(Registry.builtin : Registry Generator), 9⟩ "a - b - c ^ d ^ (e)" = .ok expr ∧
      tree.Grouped (Registry.builtin : Registry Generator) ∧
      tree.tokens = [.name "a", .operator "-", .name "b", .operator "-", .name "c", .operator "^",
        .name "d", .operator "^", .leftParen, .name "e", .rightParen] ∧
      tree.expr [0, 2, 4, 6, 8, 10, 12, 14, 16, 17, 18] = expr := by
  have parses : (Grammar.parse ⟨(Registry.builtin : Registry Generator), 9⟩
      "a - b - c ^ d ^ (e)").isOk = true := by
    decide +kernel
  cases hparse : Grammar.parse ⟨(Registry.builtin : Registry Generator), 9⟩
      "a - b - c ^ d ^ (e)" with
  | error e => simp [hparse, Except.isOk, Except.toBool] at parses
  | ok expr =>
    obtain ⟨-, tree, grouped, htokens, hexpr⟩ := exists_grouped_of_parse_eq_ok _ _ _ expr hparse
    have tokens : ((Registry.builtin : Registry Generator).lexicon.tokens
        "a - b - c ^ d ^ (e)").tokens.map Spanned.token = [.name "a", .operator "-", .name "b",
          .operator "-", .name "c", .operator "^", .name "d", .operator "^", .leftParen, .name "e",
          .rightParen] := by
      decide +kernel
    have offsets : ((Registry.builtin : Registry Generator).lexicon.tokens
        "a - b - c ^ d ^ (e)").tokens.map Spanned.offset =
          [0, 2, 4, 6, 8, 10, 12, 14, 16, 17, 18] := by
      decide +kernel
    exact ⟨expr, tree, rfl, grouped, htokens.symm.trans tokens, offsets ▸ hexpr⟩

end Grammar

end Formulary
