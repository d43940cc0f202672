import Formulary.Proofs.Compile
import Formulary.Proofs.Reading.Sound

/-!
# Formulary.Proofs.Reading.Compiles

What is read with a registry compiles with it.

Reading looks up the operators of the tokens, compiling those of the expression.
Both find the same ones, since the only symbol that reading changes is the name of
a function, which is normalized as it is in every look-up.
-/

namespace Formulary

variable {σ : Type} {registry : Registry σ}

namespace Registry

/-- An operator is found under its name in any letter case. -/
theorem resolve?_normalize (symbol : String) (arity : Arity) :
    registry.resolve? (Symbol.normalize symbol) arity = registry.resolve? symbol arity := by
  rw [resolve?, Symbol.normalize_normalize, resolve?]

end Registry

namespace Expr

/-- A unary operation has no fault if its operator is registered and its operand has none. -/
theorem fault?_unary {symbol : String} {operand : Expr} {offset : Nat} {operator : Operator σ}
    (resolved : registry.resolve? symbol .unary = some operator)
    (h : operand.fault? registry = none) :
    (unary symbol operand offset).fault? registry = none := by
  have hown : ownFault? registry (unary symbol operand offset) = none := by
    simp [ownFault?, missing?, resolved]
  rw [fault?, nodes, firstFault?_cons, hown]
  exact h

theorem fault?_binary {symbol : String} {left right : Expr} {offset : Nat} {operator : Operator σ}
    (resolved : registry.resolve? symbol .binary = some operator)
    (hl : left.fault? registry = none) (hr : right.fault? registry = none) :
    (binary symbol left right offset).fault? registry = none := by
  have hown : ownFault? registry (binary symbol left right offset) = none := by
    simp [ownFault?, missing?, resolved]
  unfold fault? at hl hr
  rw [fault?, nodes, firstFault?_cons, hown, firstFault?_append, hl, hr]
  rfl

theorem fault?_ternary {symbol : String} {condition ifTrue ifFalse : Expr} {offset : Nat}
    {operator : Operator σ} (resolved : registry.resolve? symbol .ternary = some operator)
    (hc : condition.fault? registry = none) (ht : ifTrue.fault? registry = none)
    (hf : ifFalse.fault? registry = none) :
    (ternary symbol condition ifTrue ifFalse offset).fault? registry = none := by
  have hown : ownFault? registry (ternary symbol condition ifTrue ifFalse offset) = none := by
    simp [ownFault?, missing?, resolved]
  unfold fault? at hc ht hf
  rw [fault?, nodes, firstFault?_cons, hown, firstFault?_append, firstFault?_append, hc, ht, hf]
  rfl

/-- Arguments without faults have none together. -/
theorem firstFault?_nodesAll {args : List Expr} (h : ∀ arg ∈ args, arg.fault? registry = none) :
    firstFault? registry (nodesAll args) = none := by
  induction args with
  | nil => rfl
  | cons arg args ih =>
    have hfirst := h arg List.mem_cons_self
    have hrest := ih fun other member => h other (List.mem_cons_of_mem _ member)
    unfold fault? at hfirst
    rw [nodesAll, firstFault?_append, hfirst, hrest]
    rfl

/-- A call has no fault if its function accepts as many arguments and none of them has one. -/
theorem fault?_call {name : String} {args : List Expr} {offset : Nat} {operator : Operator σ}
    {bounds : ArgBounds} (resolved : registry.function? name = some operator)
    (bounded : operator.bounds? = some bounds) (admitted : bounds.admits args.length = true)
    (h : ∀ arg ∈ args, arg.fault? registry = none) :
    (call name args offset).fault? registry = none := by
  have hown : ownFault? registry (call name args offset) = none := by
    simp [ownFault?, resolved, bounded, admitted]
  rw [fault?, nodes, firstFault?_cons, hown, firstFault?_nodesAll h]
  rfl

end Expr

namespace Bracketed

/-- There are as many expressions as arguments. -/
theorem length_exprAll (args : List Bracketed) (offsets : List Nat) :
    (exprAll args offsets).length = args.length := by
  induction args generalizing offsets with
  | nil => rfl
  | cons arg args ih => rw [exprAll, List.length_cons, ih, List.length_cons]

/-- Each of these expressions is that of an argument. -/
theorem exists_of_mem_exprAll {args : List Bracketed} {offsets : List Nat} {expr : Expr}
    (h : expr ∈ exprAll args offsets) : ∃ arg ∈ args, ∃ others, expr = arg.expr others := by
  induction args generalizing offsets with
  | nil => exact absurd h List.not_mem_nil
  | cons arg args ih =>
    rw [exprAll] at h
    rcases List.mem_cons.1 h with rfl | h
    · exact ⟨arg, List.mem_cons_self, _, rfl⟩
    · obtain ⟨other, member, others, same⟩ := ih h
      exact ⟨other, List.mem_cons_of_mem _ member, others, same⟩

/-- A well-grouped tree has no fault. -/
theorem Grouped.fault?_expr {tree : Bracketed} (h : tree.Grouped registry) (offsets : List Nat) :
    (tree.expr offsets).fault? registry = none := by
  induction h generalizing offsets with
  | constant value => rfl
  | var name => rfl
  | unary resolved _ _ ih => exact Expr.fault?_unary resolved (ih _)
  | binary resolved _ _ _ _ ihl ihr => exact Expr.fault?_binary resolved (ihl _) (ihr _)
  | ternary _ resolved _ _ _ _ _ _ ihc iht ihf =>
    exact Expr.fault?_ternary resolved (ihc _) (iht _) (ihf _)
  | @call name operator bounds args resolved bounded admitted _ ih =>
    have resolved : registry.function? (Symbol.normalize name) = some operator :=
      (Registry.resolve?_normalize name .function).trans resolved
    refine Expr.fault?_call resolved bounded ?_ ?_
    · rw [length_exprAll]
      exact ArgBounds.admits_iff.2 admitted
    · intro expr member
      obtain ⟨arg, hmember, others, rfl⟩ := exists_of_mem_exprAll member
      exact ih arg hmember others
  | group _ ih => exact ih _

end Bracketed

/-- What is parsed with a registry has no fault in it. -/
theorem Grammar.fault?_of_parse {dialect : Dialect σ} {text : String} {expr : Expr}
    (h : Grammar.parse dialect text = .ok expr) : expr.fault? dialect.registry = none := by
  obtain ⟨-, tree, subtree, operand, rfl⟩ := read_sound Lexicon.token_ne_finish h
  rw [operand.reads.expr]
  exact operand.grouped.fault?_expr _

end Formulary
