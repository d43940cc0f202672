import Formulary.Builtin
import Formulary.Expr.Reading

/-!
# Formulary.Proofs.Reading.Limits

The limits of nesting and of height refuse texts and do nothing else.

* Raising the limits changes no result but a refusal for a limit: every step of reading
  does the same with looser limits, unless a limit is what it fails for
  (`Grammar.step_liftsTo`, and `Grammar.read_liftsTo` for a whole text).
* Limits as large as the text are never met: what has been read, its pending constructs and
  their trees, weighs no more than the tokens it came from (`Reading.weight`,
  `Grammar.step_within`), and both limits are measured against that weight.

So a text has one result that no limit has a part in (`Grammar.parse_limits`).
-/

namespace Formulary

variable {σ α β : Type}

/-! ## Refusals for a limit -/

/-- The error is that a limit was exceeded. -/
def ParseError.IsTooDeep : ParseError → Prop
  | tooDeep _ _ => True
  | _ => False

/-- The result is that a limit was exceeded. -/
def OverLimit : Except ParseError α → Prop
  | .ok _ => False
  | .error e => e.IsTooDeep

instance : DecidablePred ParseError.IsTooDeep
  | .tooDeep _ _ => inferInstanceAs (Decidable True)
  | .lexical _ | .unbalanced _ | .unmatchedTernary _ _ _ | .unknownFunction _ _
  | .argumentCount _ _ _ _ | .unexpected _ _ => inferInstanceAs (Decidable False)

instance : DecidablePred (OverLimit : Except ParseError α → Prop)
  | .ok _ => inferInstanceAs (Decidable False)
  | .error e => inferInstanceAs (Decidable e.IsTooDeep)

/-- The second result, with looser limits, is that of the first, unless the first is that a limit
was exceeded. -/
def LiftsTo (strict loose : Except ParseError α) : Prop := OverLimit strict ∨ loose = strict

theorem LiftsTo.refl (result : Except ParseError α) : LiftsTo result result := .inr rfl

/-- A sequence lifts if its parts do. -/
theorem LiftsTo.bind {strict loose : Except ParseError α} {next next' : α → Except ParseError β}
    (h : LiftsTo strict loose) (h' : ∀ value, LiftsTo (next value) (next' value)) :
    LiftsTo (strict >>= next) (loose >>= next') := by
  rcases h with exceeded | rfl
  · cases strict with
    | ok value => exact exceeded.elim
    | error e => exact .inl exceeded
  · cases loose with
    | ok value => exact h' value
    | error e => exact .inr rfl

namespace Grammar

/-! ## Looser limits -/

/-- The same registry with limits that are no stricter. -/
structure Loosens (grammar loose : Grammar σ) : Prop where
  registry : loose.registry = grammar.registry
  maxDepth : grammar.maxDepth ≤ loose.maxDepth
  maxHeight : grammar.maxHeight ≤ loose.maxHeight

section Loosens

variable {grammar loose : Grammar σ} {pending : List Construct} {tree : Subtree}
  {spanned : Spanned} {reading : Reading}

/-- A level is entered with looser limits if it is entered at all. -/
theorem enter_liftsTo (h : grammar.Loosens loose) (depth offset : Nat) :
    LiftsTo (grammar.enter depth offset) (loose.enter depth offset) := by
  have := h.maxDepth
  unfold enter
  by_cases exceeded : grammar.maxDepth < depth
  · exact .inl (by simp [exceeded, OverLimit, ParseError.IsTooDeep])
  · exact .inr (by rw [if_neg exceeded, if_neg (by omega)])

theorem build_liftsTo (h : grammar.Loosens loose) (expr : Expr) (height offset : Nat) :
    LiftsTo (grammar.build expr height offset) (loose.build expr height offset) := by
  have := h.maxHeight
  unfold build
  by_cases exceeded : grammar.maxHeight < height
  · exact .inl (by simp [exceeded, OverLimit, ParseError.IsTooDeep])
  · exact .inr (by rw [if_neg exceeded, if_neg (by omega)])

theorem apply_liftsTo (h : grammar.Loosens loose) (construct : Construct) (tree : Subtree) :
    LiftsTo (grammar.apply construct tree) (loose.apply construct tree) := by
  cases construct with
  | unary symbol offset => exact build_liftsTo h _ _ _
  | binary symbol offset floor left => exact build_liftsTo h _ _ _
  | alternative symbol offset floor condition ifTrue => exact build_liftsTo h _ _ _
  | _ => exact .refl _

/-- The number of arguments is checked before the limit, so it is blamed in either case. -/
theorem applyCall_liftsTo (h : grammar.Loosens loose) (name : String) (bounds : ArgBounds)
    (offset : Nat) (args : List Subtree) :
    LiftsTo (grammar.applyCall name bounds offset args)
      (loose.applyCall name bounds offset args) := by
  unfold applyCall
  by_cases admitted : bounds.admits args.length = true
  · simp only [admitted, if_true]
    exact build_liftsTo h _ _ _
  · simp only [admitted]
    exact .refl _

theorem settle_liftsTo (h : grammar.Loosens loose) :
    LiftsTo (grammar.settle tree pending) (loose.settle tree pending) := by
  induction pending generalizing tree with
  | nil => exact .refl _
  | cons construct outer ih =>
    cases construct with
    | unary symbol offset => exact (apply_liftsTo h _ _).bind fun larger => ih
    | _ => exact .refl _

theorem complete_liftsTo (h : grammar.Loosens loose) :
    LiftsTo (grammar.complete tree pending) (loose.complete tree pending) :=
  (settle_liftsTo h).bind fun _ => .refl _

/-! ## Steps with looser limits -/

theorem beginOperand_liftsTo (h : grammar.Loosens loose) :
    LiftsTo (grammar.beginOperand pending spanned) (loose.beginOperand pending spanned) := by
  obtain ⟨token, offset⟩ := spanned
  cases token with
  | number value => exact complete_liftsTo h
  | operator symbol =>
    have same : loose.isUnary symbol = grammar.isUnary symbol := by
      unfold isUnary
      rw [h.registry]
    simp only [beginOperand, same]
    by_cases unary : grammar.isUnary symbol = true
    · simp only [unary, if_true]
      exact (enter_liftsTo h _ _).bind fun _ => .refl _
    · simp only [unary]
      exact .refl _
  | _ => exact .refl _

theorem beginExpression_liftsTo (h : grammar.Loosens loose) :
    LiftsTo (grammar.beginExpression pending spanned) (loose.beginExpression pending spanned) := by
  unfold beginExpression
  split
  · exact (applyCall_liftsTo h _ _ _ _).bind fun tree => complete_liftsTo h
  · exact .refl _
  · exact .refl _
  · exact .refl _
  · exact (enter_liftsTo h _ _).bind fun _ => beginOperand_liftsTo h

/-- No limit has a part in whether an operator joins the operand. -/
theorem joins?_of_loosens (h : grammar.Loosens loose) (token : Token) :
    loose.joins? pending token = grammar.joins? pending token := by
  unfold joins? joiner?
  rw [h.registry]

/-- Behind an operand, one construct after the other takes it, up to one that the token belongs
to. -/
theorem proceed_liftsTo (h : grammar.Loosens loose) :
    LiftsTo (grammar.proceed spanned tree pending) (loose.proceed spanned tree pending) := by
  induction pending generalizing tree with
  | nil =>
    unfold proceed
    rw [joins?_of_loosens h]
    exact .refl _
  | cons construct outer ih =>
    unfold proceed
    rw [joins?_of_loosens h]
    cases grammar.joins? (construct :: outer) spanned.token with
    | some joined => exact .refl _
    | none =>
      cases construct with
      | group opening =>
        dsimp only
        split
        · exact complete_liftsTo h
        · exact .refl _
        · exact .refl _
      | call name bounds offset opening args =>
        dsimp only
        split
        · exact .refl _
        · exact (applyCall_liftsTo h _ _ _ _).bind fun tree => complete_liftsTo h
        · exact .refl _
        · exact .refl _
      | ternary symbol separator offset floor condition => exact .refl _
      | _ => exact (apply_liftsTo h _ _).bind fun larger => ih

/-- What one token does with looser limits. -/
theorem step_liftsTo (h : grammar.Loosens loose) (reading : Reading) (spanned : Spanned) :
    LiftsTo (grammar.step reading spanned) (loose.step reading spanned) := by
  obtain ⟨pending, focus⟩ := reading
  cases focus with
  | expression => exact beginExpression_liftsTo h
  | operand => exact beginOperand_liftsTo h
  | complete tree => exact proceed_liftsTo h
  | name text offset =>
    have same : loose.signature? text = grammar.signature? text := by
      unfold signature?
      rw [h.registry]
    simp only [step, same]
    split
    · exact .refl _
    · exact (settle_liftsTo h).bind fun _ => proceed_liftsTo h

/-- What a run of tokens does with looser limits. -/
theorem foldlM_step_liftsTo (h : grammar.Loosens loose) (tokens : List Spanned) :
    LiftsTo (tokens.foldlM grammar.step reading) (tokens.foldlM loose.step reading) := by
  induction tokens generalizing reading with
  | nil => exact .refl _
  | cons spanned tokens ih =>
    rw [List.foldlM_cons, List.foldlM_cons]
    exact (step_liftsTo h reading spanned).bind fun next => ih

theorem finish_liftsTo (h : grammar.Loosens loose) (reading : Reading) (offset : Nat) :
    LiftsTo (grammar.finish reading offset) (loose.finish reading offset) :=
  (step_liftsTo h reading _).bind fun _ => .refl _

/-- A text has the same result with looser limits, unless it is refused for a limit. -/
theorem read_liftsTo (h : grammar.Loosens loose) (lexed : Lexed) :
    LiftsTo (grammar.read lexed) (loose.read lexed) := by
  refine (foldlM_step_liftsTo h lexed.tokens).bind fun reading => ?_
  cases lexed.ending with
  | ok offset => exact finish_liftsTo h reading offset
  | error e => exact .refl _

end Loosens

end Grammar

/-! ## Weights -/

/-- The tokens of a text that a token is, which is none for its end. -/
@[simp] def Token.count : Token → Nat
  | finish => 0
  | _ => 1

/-- The heights of the trees, taken together. -/
@[simp] def Subtree.total : List Subtree → Nat
  | [] => 0
  | tree :: trees => tree.height + total trees

/-- The tokens that a construct has taken at least. -/
@[simp] def Construct.weight : Construct → Nat
  | unary _ _ => 1
  | binary _ _ _ left => left.height + 1
  | ternary _ _ _ _ condition => condition.height + 1
  | alternative _ _ _ condition ifTrue => condition.height + ifTrue.height + 1
  | group _ => 1
  | call _ _ _ _ args => Subtree.total args + 1

/-- The tokens that what is read last has taken at least. -/
@[simp] def Focus.weight : Focus → Nat
  | expression | operand => 0
  | name _ _ => 1
  | complete tree => tree.height

namespace Reading

/-- The tokens that pending constructs have taken at least. -/
def load : List Construct → Nat
  | [] => 0
  | construct :: pending => construct.weight + load pending

/-- The tokens that a reading has taken at least. -/
def weight (reading : Reading) : Nat := load reading.pending + reading.focus.weight

@[simp] theorem load_cons (construct : Construct) (pending : List Construct) :
    load (construct :: pending) = construct.weight + load pending := rfl

@[simp] theorem weight_mk (pending : List Construct) (focus : Focus) :
    weight ⟨pending, focus⟩ = load pending + focus.weight := rfl

/-- Every level of nesting has taken a token. -/
theorem depth_le (pending : List Construct) : depth pending ≤ load pending + 1 := by
  unfold depth
  induction pending with
  | nil => simp
  | cons construct pending ih =>
    have : 0 < construct.weight := by cases construct <;> simp [Construct.weight]
    simp only [List.length_cons, load_cons]
    omega

end Reading

/-- No tree is higher than all of them together. -/
theorem Subtree.foldl_max_le_total (trees : List Subtree) (start : Nat) :
    (trees.map height).foldl max start ≤ start + total trees := by
  induction trees generalizing start with
  | nil => simp
  | cons tree trees ih =>
    have := ih (max start tree.height)
    simp only [List.map_cons, List.foldl_cons, total]
    omega

/-! ## Limits that are not met -/

/-- No limit is exceeded, and a value satisfies the condition. -/
def Within (condition : α → Prop) : Except ParseError α → Prop
  | .ok value => condition value
  | .error e => ¬ e.IsTooDeep

@[simp] theorem within_pure (condition : α → Prop) (value : α) :
    Within condition (pure value) = condition value := rfl

/-- The parts of a sequence are followed one after the other. -/
theorem Within.bind {condition : α → Prop} {condition' : β → Prop} {first : Except ParseError α}
    {next : α → Except ParseError β} (h : Within condition first)
    (h' : ∀ value, condition value → Within condition' (next value)) :
    Within condition' (first >>= next) := by
  cases first with
  | ok value => exact h' value h
  | error e => exact h

theorem Within.imp {condition condition' : α → Prop} {result : Except ParseError α}
    (h : Within condition result) (h' : ∀ value, condition value → condition' value) :
    Within condition' result := by
  cases result with
  | ok value => exact h' value h
  | error e => exact h

/-- What stays within the limits is not refused for one. -/
theorem Within.not_overLimit {condition : α → Prop} {result : Except ParseError α}
    (h : Within condition result) : ¬ OverLimit result := by
  cases result with
  | ok value => exact id
  | error e => exact h

namespace Grammar

/-- The limits are large enough for texts of so many tokens. -/
structure Holds (grammar : Grammar σ) (count : Nat) : Prop where
  depth : count < grammar.maxDepth
  height : count ≤ grammar.maxHeight

variable {grammar : Grammar σ} {count : Nat} {pending : List Construct} {tree : Subtree}
  {spanned : Spanned} {reading : Reading}

/-- A level that a token has paid for is entered. -/
theorem enter_within (h : grammar.Holds count) {depth offset : Nat} (deep : depth ≤ count + 1) :
    Within (fun _ => True) (grammar.enter depth offset) := by
  have := h.depth
  rw [enter, if_neg (by omega)]
  trivial

/-- A node that is no higher than the tokens are many is built. -/
theorem build_within (h : grammar.Holds count) {expr : Expr} {height offset bound : Nat}
    (high : height ≤ bound) (room : bound ≤ count) :
    Within (fun tree => tree.height ≤ bound) (grammar.build expr height offset) := by
  have := h.height
  rw [build, if_neg (by omega)]
  exact high

/-- The node of an operator weighs no more than its construct and its operand. -/
theorem apply_within (h : grammar.Holds count) {construct : Construct}
    (room : construct.weight + tree.height ≤ count) :
    Within (fun larger => larger.height ≤ construct.weight + tree.height)
      (grammar.apply construct tree) := by
  cases construct with
  | unary symbol offset => exact build_within h (by simp only [Construct.weight]; omega) room
  | binary symbol offset floor left =>
    exact build_within h (by simp only [Construct.weight]; omega) room
  | alternative symbol offset floor condition ifTrue =>
    exact build_within h (by simp only [Construct.weight]; omega) room
  | _ => exact Nat.le_add_left _ _

/-- A call is built if its arguments and its name weigh no more than the tokens. -/
theorem applyCall_within (h : grammar.Holds count) {name : String} {bounds : ArgBounds}
    {offset : Nat} {args : List Subtree} (room : Subtree.total args + 1 ≤ count) :
    Within (fun tree => tree.height ≤ Subtree.total args + 1)
      (grammar.applyCall name bounds offset args) := by
  have := Subtree.foldl_max_le_total args 0
  unfold applyCall
  by_cases admitted : bounds.admits args.length = true
  · simp only [admitted, if_true]
    exact build_within h (by omega) room
  · simp only [admitted]
    exact id

/-- A prefix operator passes its weight on to the tree that it makes. -/
theorem settle_within (h : grammar.Holds count)
    (room : Reading.load pending + tree.height ≤ count) :
    Within (fun settled =>
        Reading.load settled.2 + settled.1.height ≤ Reading.load pending + tree.height)
      (grammar.settle tree pending) := by
  induction pending generalizing tree with
  | nil => exact Nat.le_refl _
  | cons construct outer ih =>
    cases construct with
    | unary symbol offset =>
      rw [Reading.load_cons] at room ⊢
      refine (apply_within h (by omega)).bind fun larger smaller => ?_
      exact (ih (by omega)).imp fun settled le => by omega
    | _ => exact Nat.le_refl _

/-- A complete operand adds nothing to the weight. -/
theorem complete_within (h : grammar.Holds count)
    (room : Reading.load pending + tree.height ≤ count) :
    Within (fun next => next.weight ≤ Reading.load pending + tree.height)
      (grammar.complete tree pending) :=
  (settle_within h room).bind fun _ le => le

/-! ## Steps within the limits -/

/-- A token that begins an operand adds itself to the weight. -/
theorem beginOperand_within (h : grammar.Holds count)
    (room : Reading.load pending + spanned.token.count ≤ count) :
    Within (fun next => next.weight ≤ Reading.load pending + spanned.token.count)
      (grammar.beginOperand pending spanned) := by
  obtain ⟨token, offset⟩ := spanned
  cases token with
  | number value => exact complete_within h room
  | name text => exact Nat.le_refl _
  | leftParen =>
    simp [beginOperand, Within]
    omega
  | operator symbol =>
    have deep := Reading.depth_le (.unary symbol offset :: pending)
    simp only [Token.count, Reading.load_cons, Construct.weight] at room deep
    simp only [beginOperand]
    by_cases unary : grammar.isUnary symbol = true
    · simp only [unary, if_true]
      refine (enter_within h (by omega)).bind fun _ _ => ?_
      simp
      omega
    · simp only [unary]
      exact id
  | rightParen =>
    simp only [beginOperand]
    split <;> exact id
  | comma => exact id
  | finish =>
    simp only [beginOperand, Reading.unexpectedEnd]
    split <;> exact id

/-- A token that begins an expression adds itself to the weight. -/
theorem beginExpression_within (h : grammar.Holds count)
    (room : Reading.load pending + spanned.token.count ≤ count) :
    Within (fun next => next.weight ≤ Reading.load pending + spanned.token.count)
      (grammar.beginExpression pending spanned) := by
  unfold beginExpression
  split
  · next name bounds offset opening outer closes =>
    simp only [closes, Reading.load_cons, Construct.weight, Token.count,
      Subtree.total] at room ⊢
    refine (applyCall_within h (by simp; omega)).bind fun tree le => ?_
    simp only [Subtree.total] at le
    exact (complete_within h (by omega)).imp fun next le' => by omega
  · exact id
  · exact id
  · exact id
  · exact (enter_within h (Nat.le_trans (Reading.depth_le _) (by omega))).bind fun _ _ =>
      beginOperand_within h room

/-- An operator that joins an operand adds itself to the weight. -/
theorem join_weight (symbol : String) (joiner : Joiner) (offset : Nat) (tree : Subtree)
    (pending : List Construct) :
    (join symbol joiner offset tree pending).weight = Reading.load pending + tree.height + 1 := by
  unfold join
  cases joiner.separator <;>
    simp only [Reading.weight, Reading.load_cons, Construct.weight, Focus.weight] <;> omega

/-- What joins an operand is a token and not the end of the text. -/
theorem count_of_joins? {token : Token} {joined : String × Joiner}
    (h : grammar.joins? pending token = some joined) : token.count = 1 := by
  cases token with
  | operator symbol => rfl
  | _ => contradiction

/-- Every construct that takes the operand passes its weight on to the tree that it makes. -/
theorem proceed_within (h : grammar.Holds count)
    (room : Reading.load pending + tree.height + spanned.token.count ≤ count) :
    Within (fun next =>
        next.weight ≤ Reading.load pending + tree.height + spanned.token.count)
      (grammar.proceed spanned tree pending) := by
  induction pending generalizing tree with
  | nil =>
    unfold proceed
    split
    · next symbol joiner joined =>
      rw [count_of_joins? joined]
      exact Nat.le_of_eq (join_weight ..)
    · split
      · exact Nat.le_add_right _ _
      · exact id
      · exact id
  | cons construct outer ih =>
    unfold proceed
    split
    · next symbol joiner joined =>
      rw [count_of_joins? joined]
      exact Nat.le_of_eq (join_weight ..)
    · cases construct with
      | group opening =>
        rw [Reading.load_cons] at room ⊢
        dsimp only
        split
        · exact (complete_within h (by omega)).imp fun next le => by omega
        · exact id
        · exact id
      | call name bounds offset opening args =>
        simp only [Reading.load_cons, Construct.weight] at room ⊢
        split
        · next comma =>
          simp only [Within, Reading.weight, Reading.load_cons, Construct.weight, Focus.weight,
            Subtree.total]
          omega
        · refine (applyCall_within h (by simp only [Subtree.total]; omega)).bind
            fun larger le => ?_
          simp only [Subtree.total] at le
          exact (complete_within h (by omega)).imp fun next le' => by omega
        · exact id
        · exact id
      | ternary symbol separator offset floor condition =>
        simp only [Reading.load_cons, Construct.weight] at room ⊢
        split
        · simp only [Within, Reading.weight, Reading.load_cons, Construct.weight, Focus.weight]
          omega
        · exact id
      | _ =>
        rw [Reading.load_cons] at room ⊢
        refine (apply_within h (by omega)).bind fun larger le => ?_
        exact (ih (by omega)).imp fun next le' => by omega

/-- What one token adds to the weight. -/
theorem step_within (h : grammar.Holds count)
    (room : reading.weight + spanned.token.count ≤ count) :
    Within (fun next => next.weight ≤ reading.weight + spanned.token.count)
      (grammar.step reading spanned) := by
  obtain ⟨pending, focus⟩ := reading
  cases focus with
  | expression => exact beginExpression_within h room
  | operand => exact beginOperand_within h room
  | complete tree => exact proceed_within h room
  | name text offset =>
    simp only [Reading.weight_mk, Focus.weight] at room ⊢
    simp only [step]
    split
    · next paren =>
      simp only [paren, Token.count] at room ⊢
      split
      · simp [Within]
        omega
      · exact id
    · refine (settle_within h (by dsimp only; omega)).bind fun settled le => ?_
      dsimp only at le
      exact (proceed_within h (by omega)).imp fun next le' => by omega

/-- What a run of tokens adds to the weight. -/
theorem foldlM_step_within (h : grammar.Holds count) {tokens : List Spanned}
    (room : reading.weight + tokens.length ≤ count) :
    Within (fun next => next.weight ≤ reading.weight + tokens.length)
      (tokens.foldlM grammar.step reading) := by
  induction tokens generalizing reading with
  | nil => exact Nat.le_refl _
  | cons spanned tokens ih =>
    have one : spanned.token.count ≤ 1 := by cases spanned.token <;> simp [Token.count]
    rw [List.length_cons] at room ⊢
    rw [List.foldlM_cons]
    refine (step_within h (by omega)).bind fun next le => ?_
    exact (ih (by omega)).imp fun last le' => by omega

/-- The end of the text is within the limits, since it takes no token. -/
theorem finish_within (h : grammar.Holds count) (room : reading.weight ≤ count) (offset : Nat) :
    Within (fun _ => True) (grammar.finish reading offset) := by
  refine (step_within h (by simpa [Token.count] using room)).bind fun next _ => ?_
  split
  · trivial
  · simp only [Reading.unexpectedEnd]
    split <;> exact id

/-- Limits as large as the number of tokens are never met. -/
theorem read_within {lexed : Lexed} (h : grammar.Holds lexed.tokens.length) :
    Within (fun _ => True) (grammar.read lexed) := by
  have start : Reading.start.weight = 0 := rfl
  refine (foldlM_step_within h (by omega)).bind fun reading le => ?_
  cases lexed.ending with
  | ok offset => exact finish_within h (by omega) offset
  | error e => exact id

end Grammar

/-! ## Texts -/

/-- A character takes a byte at least. -/
theorem Text.length_le_byteLength (text : List Char) : text.length ≤ byteLength text := by
  induction text with
  | nil => exact Nat.le_refl _
  | cons c rest ih =>
    have := c.utf8Size_pos
    rw [List.length_cons, byteLength_cons]
    omega

/-- A token takes a character at least. -/
theorem Lexicon.length_tokensFrom (lexicon : Lexicon) (cursor : Cursor) :
    (lexicon.tokensFrom cursor).tokens.length ≤ cursor.rest.length := by
  fun_induction tokensFrom lexicon cursor with
  | case1 => simp
  | case2 => simp
  | case3 cursor spanned next hscan more others ih =>
    have := length_rest_scan hscan more
    have : others.tokens.length ≤ next.rest.length := ih
    simp only [List.length_cons]
    omega

namespace Grammar

/-- Without a refusal for a limit the result does not depend on the limits. -/
theorem read_unique {grammar other : Grammar σ} {lexed : Lexed}
    (same : other.registry = grammar.registry) (h : ¬ OverLimit (grammar.read lexed))
    (h' : ¬ OverLimit (other.read lexed)) : other.read lexed = grammar.read lexed := by
  -- Both are the result with the larger of the two limits each.
  let loose : Grammar σ := ⟨grammar.registry, max grammar.maxDepth other.maxDepth,
    max grammar.maxHeight other.maxHeight⟩
  have loosens : grammar.Loosens loose := ⟨rfl, Nat.le_max_left .., Nat.le_max_left ..⟩
  have loosens' : other.Loosens loose := ⟨same.symm, Nat.le_max_right .., Nat.le_max_right ..⟩
  rw [← (read_liftsTo loosens lexed).resolve_left h,
    (read_liftsTo loosens' lexed).resolve_left h']

/-- A larger nesting limit loosens both limits of the grammar. -/
theorem loosens_grammar {registry : Registry σ} {maxDepth larger : Nat}
    (le : maxDepth ≤ larger) :
    (Dialect.grammar ⟨registry, maxDepth⟩).Loosens (Dialect.grammar ⟨registry, larger⟩) where
  registry := rfl
  maxDepth := le
  maxHeight := by
    simp only [Dialect.grammar]
    omega

/-- A text is read without meeting a limit if it has fewer bytes than levels to nest in, and no
more than trees may be high. -/
theorem not_overLimit_read {grammar : Grammar σ} {text : String}
    (deep : Text.byteLength text.toList < grammar.maxDepth)
    (high : Text.byteLength text.toList ≤ grammar.maxHeight) :
    ¬ OverLimit (grammar.read (grammar.registry.lexicon.tokens text)) := by
  have tokens : (grammar.registry.lexicon.tokens text).tokens.length ≤ text.toList.length :=
    Lexicon.length_tokensFrom _ (Cursor.ofText text)
  have bytes := Text.length_le_byteLength text.toList
  exact (read_within ⟨by omega, by omega⟩).not_overLimit

/-- **The limits are transparent.** A result that is no refusal for a limit stays the same with
every larger limit. A text that is shorter than the limit, and whose length is a number of 64
bits, is not refused for it. So the text has one result that no limit has a part in: it is what is
read with any limits as large as the text, and with other limits that or a refusal. -/
theorem parse_limits (registry : Registry σ) (text : String) :
    (∀ maxDepth larger, maxDepth ≤ larger → ¬ OverLimit (parse ⟨registry, maxDepth⟩ text) →
      parse ⟨registry, larger⟩ text = parse ⟨registry, maxDepth⟩ text) ∧
    (Text.byteLength text.toList ≤ 0xFFFFFFFFFFFFFFFF →
      (∀ maxDepth, Text.byteLength text.toList < maxDepth →
        ¬ OverLimit (parse ⟨registry, maxDepth⟩ text)) ∧
      ∃ free : Except ParseError Expr, ¬ OverLimit free ∧
        (∀ maxDepth, Text.byteLength text.toList < maxDepth →
          parse ⟨registry, maxDepth⟩ text = free) ∧
        (∀ maxDepth, OverLimit (parse ⟨registry, maxDepth⟩ text) ∨
          parse ⟨registry, maxDepth⟩ text = free) ∧
        ∀ maxDepth maxHeight, Text.byteLength text.toList < maxDepth →
          Text.byteLength text.toList ≤ maxHeight →
          read ⟨registry, maxDepth, maxHeight⟩ (registry.lexicon.tokens text) = free) := by
  constructor
  · intro maxDepth larger le below
    exact (read_liftsTo (loosens_grammar le) _).resolve_left below
  · intro counted
    have enough (maxDepth : Nat) (deep : Text.byteLength text.toList < maxDepth) :
        ¬ OverLimit (parse ⟨registry, maxDepth⟩ text) := by
      have high : Text.byteLength text.toList ≤ min (4 * maxDepth) 0xFFFFFFFFFFFFFFFF := by omega
      exact @not_overLimit_read σ (Dialect.grammar ⟨registry, maxDepth⟩) text deep high
    have least := enough _ (Nat.lt_succ_self _)
    refine ⟨enough, parse ⟨registry, Text.byteLength text.toList + 1⟩ text, least, ?_, ?_, ?_⟩
    · intro maxDepth deep
      exact read_unique rfl least (enough maxDepth deep)
    · intro maxDepth
      by_cases exceeded : OverLimit (parse ⟨registry, maxDepth⟩ text)
      · exact .inl exceeded
      · exact .inr (read_unique rfl least exceeded)
    · intro maxDepth maxHeight deep high
      exact read_unique rfl least (not_overLimit_read deep high)

/-- Two signs, two parentheses and the formula itself are five levels. -/
theorem parse_limits_signs :
    OverLimit (parse ⟨(Registry.builtin : Registry Generator), 4⟩ "-(-(a))") ∧
    ¬ OverLimit (parse ⟨(Registry.builtin : Registry Generator), 5⟩ "-(-(a))") ∧
    ¬ OverLimit (parse ⟨(Registry.builtin : Registry Generator), 8⟩ "-(-(a))") ∧
    (parse ⟨(Registry.builtin : Registry Generator), 1000000⟩ "-(-(a))").toOption.map Expr.render =
      some "(-(-a))" := by
  have fits : ¬ OverLimit (parse ⟨(Registry.builtin : Registry Generator), 5⟩ "-(-(a))") := by
    decide +kernel
  obtain ⟨stays, enough⟩ := parse_limits (Registry.builtin : Registry Generator) "-(-(a))"
  refine ⟨by decide +kernel, fits, (enough (by decide)).1 8 (by decide), ?_⟩
  rw [stays 5 1000000 (by decide) fits]
  decide +kernel

end Grammar

end Formulary
