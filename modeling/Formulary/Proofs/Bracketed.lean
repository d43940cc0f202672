import Formulary.Proofs.Expr
import Formulary.Proofs.Lookup

/-!
# Formulary.Proofs.Bracketed

Expressions as they are written, and the rules by which operators group.

A `Bracketed` is an expression with the parentheses that stand in the text and
with function names in the letter case of the text. It determines the tokens of
the text (`Bracketed.tokens`), and with the offsets of these tokens also the
expression without parentheses (`Bracketed.expr`). `Bracketed.Grouped` says that
every operator and function is one of a registry and that each operand without
parentheses may stand where it stands, by precedence and associativity;
`Bracketed.isGrouped` checks it.

`Bracketed.Reads` joins the three: some tokens with offsets spell a tree, and a
subtree is what it amounts to. Its lemmas have one case for each constructor.
-/

namespace Formulary

variable {σ : Type}

/-- A call finds the tallest of its arguments by the heights that are kept beside them. -/
theorem Subtree.foldl_max_height {subtrees : List Subtree}
    (heights : ∀ subtree ∈ subtrees, subtree.height = subtree.expr.height) (start : Nat) :
    (subtrees.map Subtree.height).foldl max start =
      max start (Expr.heightAll (subtrees.reverse.map Subtree.expr)) := by
  induction subtrees generalizing start with
  | nil => simp [Expr.heightAll]
  | cons first rest ih =>
    obtain ⟨hfirst, hrest⟩ := List.forall_mem_cons.1 heights
    simp only [List.map_cons, List.foldl_cons, ih hrest, List.reverse_cons, List.map_append,
      Expr.heightAll_append, List.map_nil, Expr.heightAll]
    omega

/-- An expression as it is written. -/
inductive Bracketed where
  | constant (value : Float)
  | var (name : String)
  | unary (symbol : String) (operand : Bracketed)
  | binary (symbol : String) (left right : Bracketed)
  | ternary (symbol separator : String) (condition ifTrue ifFalse : Bracketed)
  | call (name : String) (args : List Bracketed)
  /-- A pair of parentheses around an expression. -/
  | group (inner : Bracketed)

namespace Bracketed

/-- What holds of a tree whenever it holds of its parts holds of every tree. -/
@[elab_as_elim, induction_eliminator]
theorem induction {motive : Bracketed → Prop}
    (constant : ∀ value, motive (.constant value))
    (var : ∀ name, motive (.var name))
    (unary : ∀ symbol operand, motive operand → motive (.unary symbol operand))
    (binary : ∀ symbol left right, motive left → motive right →
      motive (.binary symbol left right))
    (ternary : ∀ symbol separator condition ifTrue ifFalse, motive condition → motive ifTrue →
      motive ifFalse → motive (.ternary symbol separator condition ifTrue ifFalse))
    (call : ∀ name args, (∀ arg ∈ args, motive arg) → motive (.call name args))
    (group : ∀ inner, motive inner → motive (.group inner))
    (tree : Bracketed) : motive tree := by
  refine @Bracketed.rec motive (fun args => ∀ arg ∈ args, motive arg)
    constant var unary binary ternary call group ?_ ?_ tree
  · intro arg member
    exact absurd member List.not_mem_nil
  · intro first rest hfirst hrest arg member
    rcases List.mem_cons.1 member with rfl | member
    · exact hfirst
    · exact hrest arg member

/-! ## Tokens -/

mutual

/-- The tokens from left to right. -/
def tokens : Bracketed → List Token
  | constant value => [.number value]
  | var name => [.name name]
  | unary symbol operand => .operator symbol :: operand.tokens
  | binary symbol left right => left.tokens ++ .operator symbol :: right.tokens
  | ternary symbol separator condition ifTrue ifFalse =>
    condition.tokens ++ .operator symbol ::
      (ifTrue.tokens ++ .operator separator :: ifFalse.tokens)
  | call name [] => [.name name, .leftParen, .rightParen]
  | call name (arg :: args) =>
    .name name :: .leftParen :: (arg.tokens ++ tokensRest args ++ [.rightParen])
  | group inner => .leftParen :: (inner.tokens ++ [.rightParen])

/-- The tokens of the arguments after the first, each with the comma before it. -/
def tokensRest : List Bracketed → List Token
  | [] => []
  | arg :: args => .comma :: (arg.tokens ++ tokensRest args)

end

/-! ## The expression without parentheses -/

mutual

/-- The expression without parentheses, in a text where the tokens have these offsets: the offset
of a node is that of its operator or name. -/
def expr : Bracketed → List Nat → Expr
  | constant value, _ => .constant value
  | var name, _ => .var name
  | unary symbol operand, offsets => .unary symbol (operand.expr offsets.tail) (offsets.headD 0)
  | binary symbol left right, offsets =>
    let rest := offsets.drop left.tokens.length
    .binary symbol (left.expr offsets) (right.expr rest.tail) (rest.headD 0)
  | ternary symbol _ condition ifTrue ifFalse, offsets =>
    let rest := offsets.drop condition.tokens.length
    let last := rest.tail.drop ifTrue.tokens.length
    .ternary symbol (condition.expr offsets) (ifTrue.expr rest.tail) (ifFalse.expr last.tail)
      (rest.headD 0)
  | call name args, offsets =>
    .call (Symbol.normalize name) (exprAll args offsets.tail) (offsets.headD 0)
  | group inner, offsets => inner.expr offsets.tail

/-- The arguments without parentheses; before each of them stands one more token, the opening
parenthesis or a comma. -/
def exprAll : List Bracketed → List Nat → List Expr
  | [], _ => []
  | arg :: args, offsets =>
    arg.expr offsets.tail :: exprAll args (offsets.tail.drop arg.tokens.length)

end

/-! ## Grouping -/

/-- The operator that joins the whole, unless the whole is in parentheses. -/
def joint? (registry : Registry σ) : Bracketed → Option (Operator σ)
  | binary symbol _ _ => registry.resolve? symbol .binary
  | ternary symbol _ _ _ _ => registry.resolve? symbol .ternary
  | _ => none

/-- The whole is joined by a binary or ternary operator without parentheses around it. -/
def isJoined : Bracketed → Bool
  | binary .. | ternary .. => true
  | _ => false

/-- What may be the left operand or the condition of an operator as it stands. -/
def FitsLeft (registry : Registry σ) (operator : Operator σ) (operand : Bracketed) : Prop :=
  ∀ joint, operand.joint? registry = some joint →
    operator.precedence.toNat < joint.rightPrecedence

/-- What may be the right operand or the last branch of an operator as it stands. -/
def FitsRight (registry : Registry σ) (operator : Operator σ) (operand : Bracketed) : Prop :=
  ∀ joint, operand.joint? registry = some joint →
    operator.rightPrecedence ≤ joint.precedence.toNat

/-- All operators and functions are registered, calls have as many arguments as their functions
accept, and all operands may stand where they stand. -/
inductive Grouped (registry : Registry σ) : Bracketed → Prop
  | constant (value : Float) : Grouped registry (.constant value)
  | var (name : String) : Grouped registry (.var name)
  | unary {symbol : String} {operator : Operator σ} {operand : Bracketed}
      (resolved : registry.resolve? symbol .unary = some operator)
      (grouped : Grouped registry operand) (tight : operand.isJoined = false) :
      Grouped registry (.unary symbol operand)
  | binary {symbol : String} {operator : Operator σ} {left right : Bracketed}
      (resolved : registry.resolve? symbol .binary = some operator)
      (groupedLeft : Grouped registry left) (groupedRight : Grouped registry right)
      (fitsLeft : left.FitsLeft registry operator)
      (fitsRight : right.FitsRight registry operator) :
      Grouped registry (.binary symbol left right)
  | ternary {symbol separator : String} {operator : Operator σ}
      {condition ifTrue ifFalse : Bracketed}
      (notBinary : registry.resolve? symbol .binary = none)
      (resolved : registry.resolve? symbol .ternary = some operator)
      (separated : operator.separator? = some separator)
      (groupedCondition : Grouped registry condition) (groupedTrue : Grouped registry ifTrue)
      (groupedFalse : Grouped registry ifFalse)
      (fitsLeft : condition.FitsLeft registry operator)
      (fitsRight : ifFalse.FitsRight registry operator) :
      Grouped registry (.ternary symbol separator condition ifTrue ifFalse)
  | call {name : String} {operator : Operator σ} {bounds : ArgBounds} {args : List Bracketed}
      (resolved : registry.function? name = some operator)
      (bounded : operator.bounds? = some bounds)
      (admitted : bounds.least ≤ args.length ∧ ∀ most ∈ bounds.most, args.length ≤ most)
      (grouped : ∀ arg ∈ args, Grouped registry arg) : Grouped registry (.call name args)
  | group {inner : Bracketed} (grouped : Grouped registry inner) :
      Grouped registry (.group inner)

/-! ### Checking the rules -/

section Check

variable (registry : Registry σ)

instance (operator : Operator σ) (operand : Bracketed) :
    Decidable (operand.FitsLeft registry operator) :=
  decidable_of_iff ((operand.joint? registry).all fun joint =>
    decide (operator.precedence.toNat < joint.rightPrecedence)) (by
      simp only [FitsLeft, Option.all_eq_true, decide_eq_true_eq])

instance (operator : Operator σ) (operand : Bracketed) :
    Decidable (operand.FitsRight registry operator) :=
  decidable_of_iff ((operand.joint? registry).all fun joint =>
    decide (operator.rightPrecedence ≤ joint.precedence.toNat)) (by
      simp only [FitsRight, Option.all_eq_true, decide_eq_true_eq])

mutual

/-- Check the rules of grouping. -/
def isGrouped : Bracketed → Bool
  | constant _ | var _ => true
  | unary symbol operand =>
    (registry.resolve? symbol .unary).isSome && operand.isGrouped && !operand.isJoined
  | binary symbol left right =>
    (registry.resolve? symbol .binary).any (fun operator =>
      decide (left.FitsLeft registry operator ∧ right.FitsRight registry operator)) &&
    left.isGrouped && right.isGrouped
  | ternary symbol separator condition ifTrue ifFalse =>
    (registry.resolve? symbol .binary).isNone &&
    (registry.resolve? symbol .ternary).any (fun operator =>
      decide (operator.separator? = some separator ∧ condition.FitsLeft registry operator ∧
        ifFalse.FitsRight registry operator)) &&
    condition.isGrouped && ifTrue.isGrouped && ifFalse.isGrouped
  | call name args =>
    ((registry.function? name).bind Operator.bounds?).any (·.admits args.length) &&
    areGrouped args
  | group inner => inner.isGrouped

/-- Check the rules of grouping in several trees. -/
def areGrouped : List Bracketed → Bool
  | [] => true
  | arg :: args => arg.isGrouped && areGrouped args

end

/-- Several trees are checked one by one. -/
theorem areGrouped_eq_true_iff {args : List Bracketed} :
    areGrouped registry args = true ↔ ∀ arg ∈ args, arg.isGrouped registry = true := by
  induction args with
  | nil => simp [areGrouped]
  | cons arg args ih => simp [areGrouped, ih]

variable {registry}

/-- What passes the check is grouped by the rules. -/
theorem Grouped.of_isGrouped {tree : Bracketed} (h : tree.isGrouped registry = true) :
    tree.Grouped registry := by
  induction tree with
  | constant value => exact .constant value
  | var name => exact .var name
  | unary symbol operand ih =>
    simp only [isGrouped, Bool.and_eq_true, Option.isSome_iff_exists, Bool.not_eq_true'] at h
    obtain ⟨⟨⟨operator, resolved⟩, grouped⟩, tight⟩ := h
    exact .unary resolved (ih grouped) tight
  | binary symbol left right ihl ihr =>
    simp only [isGrouped, Bool.and_eq_true, Option.any_eq_true, decide_eq_true_eq] at h
    obtain ⟨⟨⟨operator, resolved, fitsLeft, fitsRight⟩, groupedLeft⟩, groupedRight⟩ := h
    exact .binary resolved (ihl groupedLeft) (ihr groupedRight) fitsLeft fitsRight
  | ternary symbol separator condition ifTrue ifFalse ihc iht ihf =>
    simp only [isGrouped, Bool.and_eq_true, Option.any_eq_true, decide_eq_true_eq,
      Option.isNone_iff_eq_none] at h
    obtain ⟨⟨⟨⟨notBinary, operator, resolved, separated, fitsLeft, fitsRight⟩, hc⟩, ht⟩, hf⟩ := h
    exact .ternary notBinary resolved separated (ihc hc) (iht ht) (ihf hf) fitsLeft fitsRight
  | call name args ih =>
    simp only [isGrouped, Bool.and_eq_true, Option.any_eq_true, Option.bind_eq_some_iff,
      areGrouped_eq_true_iff] at h
    obtain ⟨⟨bounds, ⟨operator, resolved, bounded⟩, admitted⟩, grouped⟩ := h
    exact .call resolved bounded (ArgBounds.admits_iff.1 admitted) fun arg member =>
      ih arg member (grouped arg member)
  | group inner ih => exact .group (ih h)

/-- What is grouped by the rules passes the check. -/
theorem Grouped.isGrouped {tree : Bracketed} (h : tree.Grouped registry) :
    tree.isGrouped registry = true := by
  induction h with
  | constant value => rfl
  | var name => rfl
  | unary resolved _ tight ih => simp [Bracketed.isGrouped, resolved, tight, ih]
  | binary resolved _ _ fitsLeft fitsRight ihl ihr =>
    simp [Bracketed.isGrouped, resolved, fitsLeft, fitsRight, ihl, ihr]
  | ternary notBinary resolved separated _ _ _ fitsLeft fitsRight ihc iht ihf =>
    simp [Bracketed.isGrouped, notBinary, resolved, separated, fitsLeft, fitsRight, ihc, iht, ihf]
  | call resolved bounded admitted _ ih =>
    simpa [Bracketed.isGrouped, resolved, bounded, ArgBounds.admits_iff.2 admitted,
      areGrouped_eq_true_iff] using ih
  | group _ ih => simpa [Bracketed.isGrouped] using ih

instance (tree : Bracketed) : Decidable (tree.Grouped registry) :=
  decidable_of_iff (tree.isGrouped registry = true) ⟨.of_isGrouped, Grouped.isGrouped⟩

end Check

/-! ## Height and levels -/

mutual

/-- The height without parentheses. -/
def height : Bracketed → Nat
  | constant _ | var _ => 1
  | unary _ operand => operand.height + 1
  | binary _ left right => max left.height right.height + 1
  | ternary _ _ condition ifTrue ifFalse =>
    max (max condition.height ifTrue.height) ifFalse.height + 1
  | call _ args => heightAll args + 1
  | group inner => inner.height

/-- The height of the tallest of several trees. -/
def heightAll : List Bracketed → Nat
  | [] => 0
  | arg :: args => max arg.height (heightAll args)

end

mutual

/-- The levels of nesting that reading the tree takes: parentheses, prefix operators and all
operands behind an operator are one level further in. -/
def levels : Bracketed → Nat
  | constant _ | var _ => 1
  | unary _ operand => operand.levels + 1
  | binary _ left right => max left.levels (right.levels + 1)
  | ternary _ _ condition ifTrue ifFalse =>
    max condition.levels (max ifTrue.levels ifFalse.levels + 1)
  | call _ args => levelsAll args + 1
  | group inner => inner.levels + 1

/-- The levels of the deepest of several trees. -/
def levelsAll : List Bracketed → Nat
  | [] => 0
  | arg :: args => max arg.levels (levelsAll args)

end

theorem levels_pos (tree : Bracketed) : 0 < tree.levels := by
  induction tree <;> simp only [levels] <;> omega

/-- The arguments are as high as the expressions that they stand for, whatever their offsets. -/
theorem heightAll_expr {args : List Bracketed}
    (ih : ∀ arg ∈ args, ∀ offsets, (arg.expr offsets).height = arg.height) (offsets : List Nat) :
    Expr.heightAll (exprAll args offsets) = heightAll args := by
  induction args generalizing offsets with
  | nil => rfl
  | cons arg args iht =>
    simp only [exprAll, Expr.heightAll, heightAll, ih arg List.mem_cons_self]
    rw [iht fun other member => ih other (List.mem_cons_of_mem _ member)]

/-- Parentheses add nothing to the height. -/
theorem height_expr (tree : Bracketed) (offsets : List Nat) :
    (tree.expr offsets).height = tree.height := by
  induction tree generalizing offsets with
  | constant value => rfl
  | var name => rfl
  | unary symbol operand ih => simp only [expr, Expr.height, height, ih]
  | binary symbol left right ihl ihr => simp only [expr, Expr.height, height, ihl, ihr]
  | ternary symbol separator condition ifTrue ifFalse ihc iht ihf =>
    simp only [expr, Expr.height, height, ihc, iht, ihf]
  | call name args ih => simp only [expr, Expr.height, height, heightAll_expr ih]
  | group inner ih => simp only [expr, height, ih]

/-- Some measure of the arguments is at most the number of their tokens, if it is so for each of
them. -/
theorem measureAll_le (measure : Bracketed → Nat) (all : List Bracketed → Nat)
    (hnil : all [] = 0) (hcons : ∀ arg args, all (arg :: args) = max (measure arg) (all args))
    {args : List Bracketed} (ih : ∀ arg ∈ args, measure arg ≤ arg.tokens.length) :
    all args ≤ (tokensRest args).length := by
  induction args with
  | nil => simp [hnil]
  | cons arg args iht =>
    have hfirst := ih arg List.mem_cons_self
    have hrest := iht fun other member => ih other (List.mem_cons_of_mem _ member)
    rw [hcons]
    simp only [tokensRest, List.length_cons, List.length_append]
    omega

/-- A call has at least two tokens more than its arguments with their commas. -/
theorem length_tokensRest_add_two_le (name : String) (args : List Bracketed) :
    (tokensRest args).length + 2 ≤ (call name args).tokens.length := by
  cases args with
  | nil => simp [tokens, tokensRest]
  | cons arg args =>
    simp only [tokens, tokensRest, List.length_cons, List.length_append, List.length_nil]
    omega

/-- Each level of nodes takes a token. -/
theorem height_le_length_tokens (tree : Bracketed) : tree.height ≤ tree.tokens.length := by
  induction tree with
  | constant value => simp [height, tokens]
  | var name => simp [height, tokens]
  | unary symbol operand ih => simpa [height, tokens] using ih
  | binary symbol left right ihl ihr => simp [height, tokens]; omega
  | ternary symbol separator condition ifTrue ifFalse ihc iht ihf =>
    simp [height, tokens]; omega
  | call name args ih =>
    have hargs := measureAll_le height heightAll rfl (fun _ _ => rfl) ih
    have hcall := length_tokensRest_add_two_le name args
    simp only [height]
    omega
  | group inner ih => simp [height, tokens]; omega

/-- Each level of nesting takes a token. -/
theorem levels_le_length_tokens (tree : Bracketed) : tree.levels ≤ tree.tokens.length := by
  induction tree with
  | constant value => simp [levels, tokens]
  | var name => simp [levels, tokens]
  | unary symbol operand ih => simpa [levels, tokens] using ih
  | binary symbol left right ihl ihr => simp [levels, tokens]; omega
  | ternary symbol separator condition ifTrue ifFalse ihc iht ihf =>
    simp [levels, tokens]; omega
  | call name args ih =>
    have hargs := measureAll_le levels levelsAll rfl (fun _ _ => rfl) ih
    have hcall := length_tokensRest_add_two_le name args
    simp only [levels]
    omega
  | group inner ih => simp [levels, tokens]; omega

/-! ## Only its own offsets matter to a tree -/

section Congruence

variable {α : Type} {xs ys : List α}

private theorem take_eq_of_le {m n : Nat} (h : xs.take n = ys.take n) (le : m ≤ n) :
    xs.take m = ys.take m := by
  rw [← Nat.min_eq_left le, ← List.take_take, ← List.take_take, h]

private theorem take_drop_eq {m n k : Nat} (h : xs.take k = ys.take k) (le : n + m ≤ k) :
    (xs.drop n).take m = (ys.drop n).take m := by
  have h := take_eq_of_le h le
  rw [List.take_drop, List.take_drop, h]

private theorem take_tail_eq {m k : Nat} (h : xs.take k = ys.take k) (le : m + 1 ≤ k) :
    xs.tail.take m = ys.tail.take m := by
  rw [← List.drop_one, ← List.drop_one]
  exact take_drop_eq h (by omega)

private theorem headD_eq_of_take {k : Nat} (h : xs.take k = ys.take k) (pos : 0 < k) (d : α) :
    xs.headD d = ys.headD d := by
  have h := take_eq_of_le h pos
  cases xs <;> cases ys <;> simp_all

end Congruence

/-- The arguments use no more offsets than they have tokens. -/
theorem exprAll_congr {args : List Bracketed}
    (ih : ∀ arg ∈ args, ∀ {xs ys : List Nat},
      xs.take arg.tokens.length = ys.take arg.tokens.length → arg.expr xs = arg.expr ys)
    {xs ys : List Nat} (h : xs.take (tokensRest args).length = ys.take (tokensRest args).length) :
    exprAll args xs = exprAll args ys := by
  induction args generalizing xs ys with
  | nil => rfl
  | cons arg args iht =>
    simp only [tokensRest, List.length_cons, List.length_append] at h
    simp only [exprAll, List.cons.injEq]
    have htail := take_tail_eq h (Nat.le_refl _)
    constructor
    · exact ih arg List.mem_cons_self (take_eq_of_le htail (by omega))
    · exact iht (fun other member => ih other (List.mem_cons_of_mem _ member))
        (take_drop_eq htail (Nat.le_refl _))

/-- Offsets that are the same as far as the tokens of the tree go give the same expression. -/
theorem expr_congr (tree : Bracketed) {xs ys : List Nat}
    (h : xs.take tree.tokens.length = ys.take tree.tokens.length) :
    tree.expr xs = tree.expr ys := by
  induction tree generalizing xs ys with
  | constant value => rfl
  | var name => rfl
  | unary symbol operand ih =>
    simp only [tokens, List.length_cons] at h
    simp only [expr, ih (take_tail_eq h (Nat.le_refl _)), headD_eq_of_take h (by omega)]
  | binary symbol left right ihl ihr =>
    simp only [tokens, List.length_append, List.length_cons] at h
    have hrest := take_drop_eq h (Nat.le_refl _)
    simp only [expr, ihl (take_eq_of_le h (by omega)), ihr (take_tail_eq hrest (Nat.le_refl _)),
      headD_eq_of_take hrest (by omega)]
  | ternary symbol separator condition ifTrue ifFalse ihc iht ihf =>
    simp only [tokens, List.length_append, List.length_cons] at h
    have hrest := take_drop_eq h (Nat.le_refl _)
    have htail := take_tail_eq hrest (Nat.le_refl _)
    have hlast := take_drop_eq htail (Nat.le_refl _)
    simp only [expr, ihc (take_eq_of_le h (by omega)), iht (take_eq_of_le htail (by omega)),
      ihf (take_tail_eq hlast (Nat.le_refl _)), headD_eq_of_take hrest (by omega)]
  | call name args ih =>
    cases args with
    | nil =>
      simp only [tokens, List.length_cons] at h
      simp only [expr, exprAll, headD_eq_of_take h (by omega)]
    | cons arg args =>
      simp only [tokens, List.length_append, List.length_cons] at h
      have hall := exprAll_congr ih
        (take_eq_of_le (take_tail_eq h (Nat.le_refl _)) (by simp [tokensRest]))
      simp only [expr, hall, headD_eq_of_take h (by omega)]
  | group inner ih =>
    simp only [tokens, List.length_append, List.length_cons] at h
    simp only [expr, ih (take_eq_of_le (take_tail_eq h (Nat.le_refl _)) (by omega))]

/-- Offsets beyond the tokens of a tree are not used. -/
theorem expr_append (tree : Bracketed) {xs : List Nat} (h : xs.length = tree.tokens.length)
    (ys : List Nat) : tree.expr (xs ++ ys) = tree.expr xs := by
  apply expr_congr
  rw [← h, List.take_left, List.take_length]

theorem exprAll_append (args others : List Bracketed) (offsets : List Nat) :
    exprAll (args ++ others) offsets =
      exprAll args offsets ++ exprAll others (offsets.drop (tokensRest args).length) := by
  induction args generalizing offsets with
  | nil => rfl
  | cons arg args ih =>
    simp only [List.cons_append, exprAll, ih, tokensRest, List.length_cons, List.length_append,
      List.drop_drop, ← List.drop_one]
    rw [Nat.add_comm _ 1, Nat.add_assoc]

theorem tokensRest_append (args others : List Bracketed) :
    tokensRest (args ++ others) = tokensRest args ++ tokensRest others := by
  induction args with
  | nil => rfl
  | cons arg args ih => simp [tokensRest, ih]

/-- A call with arguments has no comma before the first. -/
theorem tokens_call (name : String) {args : List Bracketed} {tokens : List Token}
    (h : tokensRest args = .comma :: tokens) :
    (call name args).tokens = .name name :: .leftParen :: (tokens ++ [.rightParen]) := by
  cases args with
  | nil => simp [tokensRest] at h
  | cons arg args =>
    simp only [tokensRest, List.cons.injEq, true_and] at h
    rw [Bracketed.tokens, h]

/-! ## What tokens with offsets amount to -/

/-- The tokens spell the tree, and the subtree is the tree without parentheses. -/
structure Reads (tree : Bracketed) (spans : List Spanned) (subtree : Subtree) : Prop where
  tokens : spans.map Spanned.token = tree.tokens
  expr : subtree.expr = tree.expr (spans.map Spanned.offset)
  height : subtree.height = subtree.expr.height

/-- The tokens spell the arguments, with commas between them; the last of the subtrees comes
first. -/
inductive ReadsArgs : List Bracketed → List Spanned → List Subtree → Prop
  | first {arg : Bracketed} {spans : List Spanned} {subtree : Subtree}
      (reads : arg.Reads spans subtree) : ReadsArgs [arg] spans [subtree]
  | next {args : List Bracketed} {arg : Bracketed} {spans others : List Spanned}
      {subtrees : List Subtree} {subtree : Subtree} (before : ReadsArgs args spans subtrees)
      (offset : Nat) (reads : arg.Reads others subtree) :
      ReadsArgs (args ++ [arg]) (spans ++ ⟨.comma, offset⟩ :: others) (subtree :: subtrees)

namespace Reads

variable {tree left right condition ifTrue ifFalse operand inner : Bracketed}
  {spans lefts rights conditions trues falses : List Spanned} {subtree other : Subtree}

/-- Whatever spells a tree is read as some expression. -/
theorem exists_of_tokens (h : spans.map Spanned.token = tree.tokens) :
    ∃ subtree, tree.Reads spans subtree :=
  ⟨⟨tree.expr (spans.map Spanned.offset), (tree.expr (spans.map Spanned.offset)).height⟩,
    h, rfl, rfl⟩

/-- The height that is counted on reading is that of the tree. -/
theorem height_eq (h : tree.Reads spans subtree) : subtree.height = tree.height := by
  rw [h.height, h.expr, height_expr]

/-- A tree is read in one way only. -/
theorem unique (h : tree.Reads spans subtree) (h' : tree.Reads spans other) : subtree = other := by
  obtain ⟨expr, height⟩ := subtree
  obtain ⟨expr', height'⟩ := other
  have hexpr : expr = expr' := h.expr.trans h'.expr.symm
  have hheight : height = expr.height := h.height
  have hheight' : height' = expr'.height := h'.height
  rw [hheight, hheight', hexpr]

theorem length_offsets (h : tree.Reads spans subtree) :
    (spans.map Spanned.offset).length = tree.tokens.length := by
  rw [← h.tokens, List.length_map, List.length_map]

/-- Offsets behind those of the tree do not matter. -/
theorem expr_append (h : tree.Reads spans subtree) (offsets : List Nat) :
    tree.expr (spans.map Spanned.offset ++ offsets) = subtree.expr := by
  rw [Bracketed.expr_append tree h.length_offsets, h.expr]

/-- Behind the offsets of a tree come those of what follows. -/
theorem drop_append (h : tree.Reads spans subtree) (offsets : List Nat) :
    (spans.map Spanned.offset ++ offsets).drop tree.tokens.length = offsets :=
  List.drop_left' h.length_offsets

theorem constant (value : Float) (offset : Nat) :
    (Bracketed.constant value).Reads [⟨.number value, offset⟩] ⟨.constant value, 1⟩ :=
  ⟨rfl, rfl, rfl⟩

theorem var (name : String) (offset : Nat) :
    (Bracketed.var name).Reads [⟨.name name, offset⟩] ⟨.var name, 1⟩ :=
  ⟨rfl, rfl, rfl⟩

/-- A symbol before what is read as an operand is read as a unary operation. -/
theorem unary (h : operand.Reads spans subtree) (symbol : String) (offset : Nat) :
    (Bracketed.unary symbol operand).Reads (⟨.operator symbol, offset⟩ :: spans)
      ⟨.unary symbol subtree.expr offset, subtree.height + 1⟩ where
  tokens := by simp [Bracketed.tokens, h.tokens]
  expr := by simp [Bracketed.expr, h.expr]
  height := by simp [Expr.height, h.height]

/-- A symbol between what is read as two operands is read as a binary operation. -/
theorem binary {l r : Subtree} (hl : left.Reads lefts l) (hr : right.Reads rights r)
    (symbol : String) (offset : Nat) :
    (Bracketed.binary symbol left right).Reads (lefts ++ ⟨.operator symbol, offset⟩ :: rights)
      ⟨.binary symbol l.expr r.expr offset, max l.height r.height + 1⟩ where
  tokens := by simp [Bracketed.tokens, hl.tokens, hr.tokens]
  expr := by simp [Bracketed.expr, hl.expr_append, hl.drop_append, hr.expr]
  height := by simp [Expr.height, hl.height, hr.height]

/-- A symbol and a separator between what is read as three operands are read as a ternary
operation. -/
theorem ternary {c t f : Subtree} (hc : condition.Reads conditions c)
    (ht : ifTrue.Reads trues t) (hf : ifFalse.Reads falses f) (symbol separator : String)
    (offset between : Nat) :
    (Bracketed.ternary symbol separator condition ifTrue ifFalse).Reads
      (conditions ++ ⟨.operator symbol, offset⟩ ::
        (trues ++ ⟨.operator separator, between⟩ :: falses))
      ⟨.ternary symbol c.expr t.expr f.expr offset,
        max (max c.height t.height) f.height + 1⟩ where
  tokens := by simp [Bracketed.tokens, hc.tokens, ht.tokens, hf.tokens]
  expr := by
    simp [Bracketed.expr, hc.expr_append, hc.drop_append, ht.expr_append, ht.drop_append, hf.expr]
  height := by simp [Expr.height, hc.height, ht.height, hf.height]

/-- Parentheses leave no trace in what is read. -/
theorem group (h : inner.Reads spans subtree) (opening closing : Nat) :
    (Bracketed.group inner).Reads (⟨.leftParen, opening⟩ :: (spans ++ [⟨.rightParen, closing⟩]))
      subtree where
  tokens := by simp [Bracketed.tokens, h.tokens]
  expr := by simp [Bracketed.expr, h.expr_append]
  height := h.height

end Reads

namespace ReadsArgs

variable {args : List Bracketed} {spans : List Spanned} {subtrees : List Subtree}

theorem length_eq (h : ReadsArgs args spans subtrees) : args.length = subtrees.length := by
  induction h with
  | first reads => rfl
  | next before offset reads ih => simp [ih]

/-- The tokens of the arguments, with a comma set before the first. -/
theorem tokens (h : ReadsArgs args spans subtrees) :
    tokensRest args = .comma :: spans.map Spanned.token := by
  induction h with
  | first reads => simp [tokensRest, reads.tokens]
  | next before offset reads ih => simp [tokensRest_append, tokensRest, ih, reads.tokens]

/-- The arguments that are read, the last one first, are the expressions that they stand for. -/
theorem exprs (h : ReadsArgs args spans subtrees) (opening : Nat) (offsets : List Nat) :
    exprAll args (opening :: (spans.map Spanned.offset ++ offsets)) =
      subtrees.reverse.map Subtree.expr := by
  induction h generalizing offsets with
  | first reads => simp [exprAll, reads.expr_append]
  | @next args arg spans others subtrees subtree before offset reads ih =>
    have hlen : (opening :: spans.map Spanned.offset).length = (tokensRest args).length := by
      simp [before.tokens]
    rw [exprAll_append]
    simp only [List.map_append, List.map_cons, List.append_assoc, List.cons_append, ih]
    rw [← List.cons_append, List.drop_left' hlen]
    simp [exprAll, reads.expr_append]

theorem heights (h : ReadsArgs args spans subtrees) :
    ∀ subtree ∈ subtrees, subtree.height = subtree.expr.height := by
  induction h with
  | first reads => simp [reads.height]
  | next before offset reads ih => exact List.forall_mem_cons.2 ⟨reads.height, ih⟩

/-- A call without arguments. -/
theorem nil_call (name : String) (offset opening closing : Nat) :
    (call name []).Reads [⟨.name name, offset⟩, ⟨.leftParen, opening⟩, ⟨.rightParen, closing⟩]
      ⟨.call (Symbol.normalize name) [] offset, 1⟩ :=
  ⟨rfl, rfl, rfl⟩

/-- A name before parentheses around what is read as arguments is read as a call. -/
theorem call (h : ReadsArgs args spans subtrees) (name : String) (offset opening closing : Nat) :
    (Bracketed.call name args).Reads
      (⟨.name name, offset⟩ :: ⟨.leftParen, opening⟩ :: (spans ++ [⟨.rightParen, closing⟩]))
      ⟨.call (Symbol.normalize name) (subtrees.reverse.map Subtree.expr) offset,
        (subtrees.map Subtree.height).foldl max 0 + 1⟩ where
  tokens := by simp [tokens_call name h.tokens]
  expr := by simp [Bracketed.expr, h.exprs]
  height := by rw [Expr.height, Subtree.foldl_max_height h.heights, Nat.zero_max]

end ReadsArgs

end Bracketed

end Formulary
