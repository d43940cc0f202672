import Formulary.Evaluator
import Formulary.Proofs.Expr
import Formulary.Proofs.Lookup

/-!
# Formulary.Proofs.Interpreter

What an expression means, without slots and without compiling it.

`Expr.interpret` evaluates an expression with the operators of a registry, looked
up by symbol at each node, and with variables that are read by name. It goes from
left to right; the branches of a ternary operator are evaluated as its body asks
for them.

An expression has a fault if one of its nodes uses an operator that is missing or
a number of arguments that its function refuses. The fault is that of the first
such node in preorder (`Expr.fault?`), and the variables before that node are the
ones that compiling reaches (`Expr.reached`).
-/

namespace Formulary

variable {σ : Type}

/-! ## Bodies by symbol -/

namespace Registry

/-- The body of a prefix operator. -/
def unaryBody? (registry : Registry σ) (symbol : String) : Option (Body σ Float) :=
  (registry.resolve? symbol .unary).bind fun operator =>
    match operator.implementation with
    | .unary body => some body
    | _ => none

/-- The body of a binary operator. -/
def binaryBody? (registry : Registry σ) (symbol : String) : Option (Body σ (Float × Float)) :=
  (registry.resolve? symbol .binary).bind fun operator =>
    match operator.implementation with
    | .binary body => some body
    | _ => none

/-- The body of a ternary operator. -/
def ternaryBody? (registry : Registry σ) (symbol : String) : Option (TernaryBody σ) :=
  (registry.resolve? symbol .ternary).bind fun operator =>
    match operator.implementation with
    | .ternary _ body => some body
    | _ => none

/-- The body of a function. -/
def functionBody? (registry : Registry σ) (name : String) : Option (Body σ (List Float)) :=
  (registry.function? name).bind fun operator =>
    match operator.implementation with
    | .function _ body => some body
    | _ => none

variable {registry : Registry σ} {symbol name : String} {operator : Operator σ}

/-- What is found as a unary operator has a unary body. -/
theorem exists_unaryBody (h : registry.resolve? symbol .unary = some operator) :
    ∃ body, operator.implementation = .unary body ∧ registry.unaryBody? symbol = some body := by
  have harity : operator.implementation.arity = .unary := (resolve?_eq_some_iff.1 h).2.2
  cases himplementation : operator.implementation with
  | unary body => exact ⟨body, rfl, by simp [unaryBody?, h, himplementation]⟩
  | _ => simp [himplementation, Implementation.arity] at harity

theorem exists_binaryBody (h : registry.resolve? symbol .binary = some operator) :
    ∃ body, operator.implementation = .binary body ∧ registry.binaryBody? symbol = some body := by
  have harity : operator.implementation.arity = .binary := (resolve?_eq_some_iff.1 h).2.2
  cases himplementation : operator.implementation with
  | binary body => exact ⟨body, rfl, by simp [binaryBody?, h, himplementation]⟩
  | _ => simp [himplementation, Implementation.arity] at harity

theorem exists_ternaryBody (h : registry.resolve? symbol .ternary = some operator) :
    ∃ separator body, operator.implementation = .ternary separator body ∧
      registry.ternaryBody? symbol = some body := by
  have harity : operator.implementation.arity = .ternary := (resolve?_eq_some_iff.1 h).2.2
  cases himplementation : operator.implementation with
  | ternary separator body =>
    exact ⟨separator, body, rfl, by simp [ternaryBody?, h, himplementation]⟩
  | _ => simp [himplementation, Implementation.arity] at harity

theorem exists_functionBody (h : registry.function? name = some operator) :
    ∃ bounds body, operator.implementation = .function bounds body ∧
      operator.bounds? = some bounds ∧ registry.functionBody? name = some body := by
  have harity : operator.implementation.arity = .function := (resolve?_eq_some_iff.1 h).2.2
  cases himplementation : operator.implementation with
  | function bounds body =>
    exact ⟨bounds, body, rfl, by simp [Operator.bounds?, himplementation],
      by simp [functionBody?, h, himplementation]⟩
  | _ => simp [himplementation, Implementation.arity] at harity

end Registry

/-! ## Interpreting -/

/-- What a node without an operator evaluates to. No expression without a fault has one. -/
def Eval.absent : Eval σ Float := throw (.failed "")

namespace Expr

section Interpret

variable (registry : Registry σ) (read : String → Eval σ Float)

mutual

/-- Evaluate with the operators of a registry, and with variables read as given. -/
def interpret : Expr → Eval σ Float
  | constant value => pure value
  | var name => read name
  | unary symbol operand _ => do
    let operand ← operand.interpret
    (registry.unaryBody? symbol).elim Eval.absent fun body => body.apply operand
  | binary symbol left right _ => do
    let left ← left.interpret
    let right ← right.interpret
    (registry.binaryBody? symbol).elim Eval.absent fun body => body.apply (left, right)
  | ternary symbol condition ifTrue ifFalse _ => do
    let condition ← condition.interpret
    (registry.ternaryBody? symbol).elim Eval.absent fun body =>
      body.apply condition ifTrue.interpret ifFalse.interpret
  | call name args _ => do
    let args ← interpretAll args
    (registry.functionBody? name).elim Eval.absent fun body => body.apply args

/-- Evaluate a list of expressions from left to right. -/
def interpretAll : List Expr → Eval σ (List Float)
  | [] => pure []
  | arg :: args => do
    let value ← arg.interpret
    let values ← interpretAll args
    return value :: values

end

end Interpret

/-- Arguments are interpreted alike if the variables in them are read alike. -/
theorem interpretAll_congr {registry : Registry σ} {read other : String → Eval σ Float}
    {args : List Expr}
    (ih : ∀ arg ∈ args, (∀ name ∈ arg.occurrences, read name = other name) →
      arg.interpret registry read = arg.interpret registry other)
    (same : ∀ name ∈ occurrencesAll args, read name = other name) :
    interpretAll registry read args = interpretAll registry other args := by
  induction args with
  | nil => rfl
  | cons arg args iht =>
    simp only [occurrencesAll, List.forall_mem_append] at same
    have hrest := iht (fun arg member => ih arg (List.mem_cons_of_mem _ member)) same.2
    rw [interpretAll, interpretAll, ih arg List.mem_cons_self same.1, hrest]

/-- Only the variables of the expression are read. -/
theorem interpret_congr {registry : Registry σ} {read other : String → Eval σ Float} {expr : Expr}
    (same : ∀ name ∈ expr.occurrences, read name = other name) :
    expr.interpret registry read = expr.interpret registry other := by
  induction expr with
  | constant value => rfl
  | var name => exact same name (by simp [occurrences])
  | unary symbol operand offset ih => rw [interpret, interpret, ih same]
  | binary symbol left right offset ihl ihr =>
    simp only [occurrences, List.forall_mem_append] at same
    rw [interpret, interpret, ihl same.1, ihr same.2]
  | ternary symbol condition ifTrue ifFalse offset ihc iht ihf =>
    simp only [occurrences, List.forall_mem_append] at same
    rw [interpret, interpret, ihc same.1.1, iht same.1.2, ihf same.2]
  | call name args offset ih => rw [interpret, interpret, interpretAll_congr ih same]

/-! ## Faults -/

section Fault

variable (registry : Registry σ)

/-- An operator that is missing. -/
def missing? (symbol : String) (arity : Arity) (offset : Nat) : Option CompileError :=
  if (registry.resolve? symbol arity).isSome then none
  else some (.missingOperator symbol arity offset)

/-- What is wrong with a node itself, its operands apart. -/
def ownFault? : Expr → Option CompileError
  | constant _ | var _ => none
  | unary symbol _ offset => missing? registry symbol .unary offset
  | binary symbol _ _ offset => missing? registry symbol .binary offset
  | ternary symbol _ _ _ offset => missing? registry symbol .ternary offset
  | call name args offset =>
    match registry.function? name with
    | none => some (.missingOperator name .function offset)
    | some operator =>
      (operator.bounds?.filter fun bounds => !bounds.admits args.length).map fun bounds =>
        .argumentCount operator.symbol bounds args.length offset

/-- The fault of the first node that has one. -/
def firstFault? (nodes : List Expr) : Option CompileError := nodes.findSome? (ownFault? registry)

/-- The variable that a node is. -/
def ownName? : Expr → Option String
  | var name => some name
  | _ => none

/-- The variables before the first node that has a fault. -/
def reachedIn (nodes : List Expr) : List String :=
  (nodes.takeWhile fun node => (ownFault? registry node).isNone).filterMap ownName?

/-- The fault of an expression, that of its first node in preorder that has one. -/
def fault? (expr : Expr) : Option CompileError := firstFault? registry expr.nodes

/-- The variables in preorder before the first node that has a fault. -/
def reached (expr : Expr) : List String := reachedIn registry expr.nodes

end Fault

section Nodes

variable {registry : Registry σ} {nodes others : List Expr} {node : Expr} {e : CompileError}

theorem firstFault?_append : firstFault? registry (nodes ++ others) =
    (firstFault? registry nodes).or (firstFault? registry others) :=
  List.findSome?_append

theorem firstFault?_cons : firstFault? registry (node :: nodes) =
    (ownFault? registry node).or (firstFault? registry nodes) := by
  rw [firstFault?, List.findSome?_cons]
  cases ownFault? registry node <;> rfl

/-- Behind a node without a fault the rest is reached. -/
theorem reachedIn_cons_of_none (h : ownFault? registry node = none) :
    reachedIn registry (node :: nodes) = (ownName? node).toList ++ reachedIn registry nodes := by
  rw [reachedIn, List.takeWhile_cons_of_pos (by rw [h]; rfl), List.filterMap_cons]
  cases ownName? node <;> rfl

/-- Nothing is reached behind a fault. -/
theorem reachedIn_cons_of_some (h : ownFault? registry node = some e) :
    reachedIn registry (node :: nodes) = [] := by
  rw [reachedIn, List.takeWhile_cons_of_neg (by simp [h]), List.filterMap_nil]

theorem reachedIn_append_of_none (h : firstFault? registry nodes = none) :
    reachedIn registry (nodes ++ others) =
      reachedIn registry nodes ++ reachedIn registry others := by
  induction nodes with
  | nil => rfl
  | cons node nodes ih =>
    rw [firstFault?_cons, Option.or_eq_none_iff] at h
    rw [List.cons_append, reachedIn_cons_of_none h.1, reachedIn_cons_of_none h.1, ih h.2,
      List.append_assoc]

/-- Nothing behind a fault is reached. -/
theorem reachedIn_append_of_some (h : firstFault? registry nodes = some e) :
    reachedIn registry (nodes ++ others) = reachedIn registry nodes := by
  induction nodes with
  | nil => simp [firstFault?] at h
  | cons node nodes ih =>
    rw [List.cons_append]
    cases hown : ownFault? registry node with
    | some e => rw [reachedIn_cons_of_some hown, reachedIn_cons_of_some hown]
    | none =>
      rw [firstFault?_cons, hown, Option.none_or] at h
      rw [reachedIn_cons_of_none hown, reachedIn_cons_of_none hown, ih h]

/-- Without a fault all variables are reached. -/
theorem reachedIn_of_none (h : firstFault? registry nodes = none) :
    reachedIn registry nodes = nodes.filterMap ownName? := by
  induction nodes with
  | nil => rfl
  | cons node nodes ih =>
    rw [firstFault?_cons, Option.or_eq_none_iff] at h
    rw [reachedIn_cons_of_none h.1, ih h.2, List.filterMap_cons]
    cases ownName? node <;> rfl

/-- The variables among the nodes of a list are those that occur in it, if it is so for each
argument. -/
theorem filterMap_ownName?_nodesAll {args : List Expr}
    (ih : ∀ arg ∈ args, arg.nodes.filterMap ownName? = arg.occurrences) :
    (nodesAll args).filterMap ownName? = occurrencesAll args := by
  induction args with
  | nil => rfl
  | cons arg args iht =>
    rw [nodesAll, List.filterMap_append, ih arg List.mem_cons_self,
      iht fun other member => ih other (List.mem_cons_of_mem _ member), occurrencesAll]

/-- The variables among the nodes are those that occur, in the same order. -/
theorem filterMap_ownName?_nodes (expr : Expr) :
    expr.nodes.filterMap ownName? = expr.occurrences := by
  induction expr with
  | constant value => rfl
  | var name => rfl
  | unary symbol operand offset ih => exact ih
  | binary symbol left right offset ihl ihr =>
    rw [nodes, List.filterMap_cons, List.filterMap_append, ihl, ihr]
    rfl
  | ternary symbol condition ifTrue ifFalse offset ihc iht ihf =>
    rw [nodes, List.filterMap_cons, List.filterMap_append, List.filterMap_append, ihc, iht, ihf]
    rfl
  | call name args offset ih =>
    rw [nodes, List.filterMap_cons, filterMap_ownName?_nodesAll ih]
    rfl

/-- Without a fault all variables are reached. -/
theorem reached_of_fault?_eq_none {expr : Expr} (h : expr.fault? registry = none) :
    expr.reached registry = expr.occurrences := by
  rw [reached, reachedIn_of_none h, filterMap_ownName?_nodes]

end Nodes

end Expr

end Formulary
