import Formulary.Expr

/-!
# Formulary.Proofs.Expr

Expression trees: induction, height, and the nodes in preorder.

`Expr.induction` is the induction that later proofs use; for a call it gives
the statement for every argument. `Expr.nodes` lists a tree node by node, every
node before its operands and the operands from left to right.
-/

namespace Formulary.Expr

/-! ## Induction -/

/-- What holds of a node whenever it holds of its operands holds of every expression. -/
@[elab_as_elim, induction_eliminator]
theorem induction {motive : Expr → Prop}
    (constant : ∀ value, motive (.constant value))
    (var : ∀ name, motive (.var name))
    (unary : ∀ symbol operand offset, motive operand → motive (.unary symbol operand offset))
    (binary : ∀ symbol left right offset, motive left → motive right →
      motive (.binary symbol left right offset))
    (ternary : ∀ symbol condition ifTrue ifFalse offset, motive condition → motive ifTrue →
      motive ifFalse → motive (.ternary symbol condition ifTrue ifFalse offset))
    (call : ∀ name args offset, (∀ arg ∈ args, motive arg) → motive (.call name args offset))
    (expr : Expr) : motive expr := by
  refine @Expr.rec motive (fun args => ∀ arg ∈ args, motive arg)
    constant var unary binary ternary call ?_ ?_ expr
  · intro arg member
    exact absurd member List.not_mem_nil
  · intro first rest hfirst hrest arg member
    rcases List.mem_cons.1 member with rfl | member
    · exact hfirst
    · exact hrest arg member

/-! ## Height -/

mutual

/-- The number of nodes on the longest way down. -/
def height : Expr → Nat
  | constant _ | var _ => 1
  | unary _ operand _ => operand.height + 1
  | binary _ left right _ => max left.height right.height + 1
  | ternary _ condition ifTrue ifFalse _ =>
    max (max condition.height ifTrue.height) ifFalse.height + 1
  | call _ args _ => heightAll args + 1

/-- The height of the tallest of several expressions. -/
def heightAll : List Expr → Nat
  | [] => 0
  | arg :: args => max arg.height (heightAll args)

end

/-- The height of two lists of expressions together is that of the higher one. -/
theorem heightAll_append (args others : List Expr) :
    heightAll (args ++ others) = max (heightAll args) (heightAll others) := by
  induction args with
  | nil => simp [heightAll]
  | cons arg args ih => simp only [List.cons_append, heightAll, ih]; omega

/-! ## Nodes -/

mutual

/-- The nodes in preorder. -/
def nodes : Expr → List Expr
  | constant value => [constant value]
  | var name => [var name]
  | unary symbol operand offset => unary symbol operand offset :: operand.nodes
  | binary symbol left right offset =>
    binary symbol left right offset :: (left.nodes ++ right.nodes)
  | ternary symbol condition ifTrue ifFalse offset =>
    ternary symbol condition ifTrue ifFalse offset ::
      (condition.nodes ++ ifTrue.nodes ++ ifFalse.nodes)
  | call name args offset => call name args offset :: nodesAll args

/-- The nodes of a list of expressions in preorder. -/
def nodesAll : List Expr → List Expr
  | [] => []
  | arg :: args => arg.nodes ++ nodesAll args

end

/-- The nodes of an argument are among those of the arguments. -/
theorem mem_nodesAll {args : List Expr} {arg node : Expr} (member : arg ∈ args)
    (h : node ∈ arg.nodes) : node ∈ nodesAll args := by
  induction args with
  | nil => simp at member
  | cons first rest ih =>
    rw [nodesAll, List.mem_append]
    rcases List.mem_cons.1 member with rfl | member
    · exact .inl h
    · exact .inr (ih member)

end Formulary.Expr
