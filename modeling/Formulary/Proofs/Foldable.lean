import Mathlib.Algebra.GroupWithZero.Nat
import Formulary.Proofs.Agreement
import Formulary.Proofs.Folding
import Formulary.Proofs.Recursion

/-!
# Formulary.Proofs.Foldable

Which nodes of an expression are folded.

Compiling decides bottom-up whether to fold: an operation is folded if its operands have been
compiled to constants, its body is steady and it has a value. What this comes to is a property of
the expression (`Expr.Foldable`): there is no variable and no volatile operator below the operation
or in it, and every operation among them has a value, also one in a branch that is not taken.

`Compile.Folds` is a logic for what compiling counts, with one rule for each way to go on.
`Expr.Condensed` relates an expression to what it is compiled to, and carries the induction: the
node is a constant exactly if the expression is a literal or folded.
-/

namespace Formulary

variable {σ : Type}

namespace Expr

/-! ## Foldable expressions -/

/-- The node is an operator or a call, and not a leaf. -/
def isOperation (node : Expr) : Bool := node.ownKey?.isSome

/-- The operator of the node, if it has one, is not volatile. -/
def isSteady (registry : Registry σ) (node : Expr) : Bool :=
  node.ownKey?.all fun (symbol, arity) =>
    (registry.resolve? symbol arity).all fun operator => !operator.isVolatile

section Foldable

variable (registry : Registry σ) (read : String → Eval σ Float) (world : σ)

/-- Interpreting the expression does not end with an error. -/
def hasValue (expr : Expr) : Bool :=
  match expr.interpret registry read world with
  | .ok _ _ => true
  | .error _ _ => false

/-- The node does not keep what it is a part of from being folded: it is no variable, its operator
is not volatile, and as an operation it has a value. -/
structure Permits (node : Expr) : Prop where
  closed : node.ownName? = none
  steady : node.isSteady registry = true
  valued : node.isOperation = true → node.hasValue registry read world = true

/-- The expression is an operation, and none of its nodes keeps it from being folded. -/
structure Foldable (expr : Expr) : Prop where
  operation : expr.isOperation = true
  permits : ∀ node ∈ expr.nodes, Permits registry read world node

instance (node : Expr) : Decidable (Permits registry read world node) :=
  decidable_of_iff (node.ownName? = none ∧ node.isSteady registry = true ∧
      (node.isOperation = true → node.hasValue registry read world = true))
    ⟨fun h => ⟨h.1, h.2.1, h.2.2⟩, fun h => ⟨h.closed, h.steady, h.valued⟩⟩

instance (expr : Expr) : Decidable (Foldable registry read world expr) :=
  decidable_of_iff (expr.isOperation = true ∧
      ∀ node ∈ expr.nodes, Permits registry read world node)
    ⟨fun h => ⟨h.1, h.2⟩, fun h => ⟨h.operation, h.permits⟩⟩

/-- The expression is a literal, or it is folded. -/
def Settles (folding : Bool) (expr : Expr) : Prop :=
  (∃ value, expr = .constant value) ∨ folding = true ∧ Foldable registry read world expr

end Foldable

/-! ### Operands -/

theorem nodesAll_eq_flatMap (args : List Expr) : nodesAll args = args.flatMap nodes := by
  induction args with
  | nil => rfl
  | cons arg args ih => rw [nodesAll, ih, List.flatMap_cons]

theorem nodes_eq (expr : Expr) : expr.nodes = expr :: expr.operands.flatMap nodes := by
  cases expr <;> simp [nodes, operands, nodesAll_eq_flatMap]

variable {registry : Registry σ} {read : String → Eval σ Float} {world : σ} {folding : Bool}
  {expr : Expr}

/-- With folding, an expression is a literal or folded if none of its nodes objects. -/
theorem settles_iff : expr.Settles registry read world true ↔
    ∀ node ∈ expr.nodes, Permits registry read world node := by
  constructor
  · rintro (⟨value, rfl⟩ | ⟨-, foldable⟩)
    · intro node member
      rw [List.mem_singleton.1 member]
      exact ⟨rfl, rfl, nofun⟩
    · exact foldable.permits
  · intro permits
    have own := permits expr (by rw [nodes_eq]; exact List.mem_cons_self)
    cases expr with
    | constant value => exact .inl ⟨value, rfl⟩
    | var name => exact absurd own.closed (by simp [ownName?])
    | _ => exact .inr ⟨rfl, rfl, permits⟩

/-- An operation is foldable if its operator is not volatile, it has a value, and its operands are
literals or foldable themselves. -/
theorem foldable_iff (operation : expr.isOperation = true) :
    Foldable registry read world expr ↔
      (expr.isSteady registry = true ∧
        ∀ operand ∈ expr.operands, operand.Settles registry read world true) ∧
      expr.hasValue registry read world = true := by
  have closed : expr.ownName? = none := by
    cases expr with
    | var name => contradiction
    | _ => rfl
  simp only [settles_iff]
  constructor
  · rintro ⟨-, permits⟩
    rw [nodes_eq, List.forall_mem_cons, List.forall_mem_flatMap] at permits
    exact ⟨⟨permits.1.steady, permits.2⟩, permits.1.valued operation⟩
  · rintro ⟨⟨steady, operands⟩, valued⟩
    refine ⟨operation, ?_⟩
    rw [nodes_eq, List.forall_mem_cons, List.forall_mem_flatMap]
    exact ⟨⟨closed, steady, fun _ => valued⟩, operands⟩

end Expr

/-! ## Counting while compiling -/

namespace Compile

variable {α β : Type} {computation : Compile σ α} {count more : Nat} {post : α → Prop}
  {post' : β → Prop}

/-- When the computation succeeds, it has folded so many operations, and its value is like this. -/
def Folds (computation : Compile σ α) (count : Nat) (post : α → Prop) : Prop :=
  ∀ progress value after, computation progress = .ok value after →
    after.folded = progress.folded + count ∧ post value

namespace Folds

theorem pure {value : α} (h : post value) : Folds (σ := σ) (pure value) 0 post := by
  rintro progress value' after ⟨⟩
  exact ⟨rfl, h⟩

theorem throw (e : CompileError) : Folds (σ := σ) (throw e) count post := by
  intro progress value after h
  contradiction

/-- What the parts of a sequence fold adds up. -/
theorem bind {next : α → Compile σ β} (first : computation.Folds count post)
    (rest : ∀ value, post value → (next value).Folds more post') :
    (computation >>= next).Folds (count + more) post' := by
  intro progress value after h
  change EStateM.bind computation next progress = .ok value after at h
  unfold EStateM.bind at h
  split at h
  · next middle between hfirst =>
    obtain ⟨hbetween, hmiddle⟩ := first _ _ _ hfirst
    obtain ⟨hafter, hvalue⟩ := rest middle hmiddle _ _ _ h
    exact ⟨by omega, hvalue⟩
  · contradiction

/-- Looking an operator up folds nothing, and what follows may rely on the operator. -/
theorem resolve {registry : Registry σ} {symbol : String} {arity : Arity} {offset : Nat}
    {next : Operator σ → Compile σ α}
    (rest : ∀ operator, registry.resolve? symbol arity = some operator →
      (next operator).Folds count post) :
    (Compile.resolve registry symbol arity offset >>= next).Folds count post := by
  unfold Compile.resolve
  cases found : registry.resolve? symbol arity with
  | none => exact .throw _
  | some operator => exact rest operator found

end Folds

theorem folds_reserve (name : String) : (reserve (σ := σ) name).Folds 0 fun _ => True := by
  rintro progress slot after ⟨⟩
  exact ⟨rfl, trivial⟩

end Compile

/-! ## What expressions are compiled to -/

/-- The node is a constant exactly if the expression is a literal or folded, and then it is the
value of the expression. -/
structure Expr.Condensed (registry : Registry σ) (read : String → Eval σ Float) (world : σ)
    (folding : Bool) (expr : Expr) (node : Node σ) : Prop where
  value : ∀ value, node.value? = some value → expr.interpret registry read = pure value
  isConstant_iff : node.isConstant = true ↔ expr.Settles registry read world folding

namespace Compile

open Formulary.Expr

variable {registry : Registry σ} {read : String → Eval σ Float} {world : σ} {folding : Bool}
  {expr : Expr} {node : Node σ} {symbol : String}

/-- The nodes of the expression that are folded. -/
def foldedNodes (registry : Registry σ) (read : String → Eval σ Float) (world : σ)
    (folding : Bool) (expr : Expr) : Nat :=
  expr.nodes.countP fun node => folding && decide (Foldable registry read world node)

/-- The nodes that are folded are those in the operands and perhaps the node itself. -/
theorem foldedNodes_eq : foldedNodes registry read world folding expr =
    (expr.operands.map (foldedNodes registry read world folding)).sum +
      if folding && decide (Foldable registry read world expr) then 1 else 0 := by
  rw [foldedNodes, nodes_eq, List.countP_cons, List.countP_flatMap]
  rfl

/-- In a leaf nothing is folded. -/
theorem foldedNodes_of_leaf (leaf : expr.isOperation = false) :
    foldedNodes registry read world folding expr = 0 := by
  have bare : expr.operands = [] := by
    cases expr with
    | constant value => rfl
    | var name => rfl
    | _ => contradiction
  have unfoldable : ¬ Foldable registry read world expr := by
    intro h
    rw [h.operation] at leaf
    contradiction
  simp [foldedNodes_eq, bare, unfoldable]

/-- An operation is folded if it is foldable. For that it has to be known what its operands were
compiled to, and that evaluating the node is interpreting the expression. -/
theorem folds_fold (operation : expr.isOperation = true) (apart : node.value? = none)
    (ready : node.isReady = true ↔ expr.isSteady registry = true ∧
      ∀ operand ∈ expr.operands, operand.Settles registry read world folding)
    (evaluates : ∀ outcome, node.outcome? = some outcome →
      expr.interpret registry read = Eval.ofExcept outcome) :
    (fold folding symbol node).Folds
      (if folding && decide (Foldable registry read world expr) then 1 else 0)
      (Condensed registry read world folding expr) := by
  have literal : ¬ ∃ value, expr = .constant value := by
    rintro ⟨value, rfl⟩
    contradiction
  -- The node stays as it is unless the operation is foldable.
  have stays (h : ¬ (folding = true ∧ Foldable registry read world expr)) :
      Condensed registry read world folding expr node := by
    refine ⟨fun value hvalue => ?_, ?_⟩
    · rw [apart] at hvalue
      contradiction
    · simp [Node.isConstant, apart, Settles, literal, h]
  cases folding with
  | false => exact .pure (stays (by simp))
  | true =>
    rw [foldable_iff operation] at stays
    simp only [Bool.true_and, foldable_iff operation, ← ready, ← node.isSome_outcome?] at stays ⊢
    unfold fold
    cases houtcome : node.outcome? with
    | none => simpa [houtcome] using Folds.pure (stays (by simp [houtcome]))
    | some outcome =>
      have hinterpret := evaluates outcome houtcome
      cases outcome with
      | ok value =>
        have valued : expr.hasValue registry read world = true := by
          rw [hasValue, hinterpret]
          rfl
        have foldable : Foldable registry read world expr := by
          rw [foldable_iff operation, ← ready, ← node.isSome_outcome?, houtcome]
          exact ⟨rfl, valued⟩
        rintro progress folded after ⟨⟩
        refine ⟨by simp [valued], fun value' h => ?_, ?_⟩
        · cases h
          exact hinterpret
        · exact ⟨fun _ => .inr ⟨rfl, foldable⟩, fun _ => rfl⟩
      | error e =>
        have valueless : expr.hasValue registry read world = false := by
          rw [hasValue, hinterpret]
          rfl
        rintro progress folded after ⟨⟩
        exact ⟨by simp [valueless], stays (by simp [valueless])⟩

/-! ### Node by node -/

section Nodes

variable {name : String} {operand left right condition ifTrue ifFalse : Expr} {args : List Expr}
  {offset : Nat}

/-- What is known of compiling an operand. -/
def FoldsExactly (registry : Registry σ) (read : String → Eval σ Float) (world : σ)
    (folding : Bool) (expr : Expr) : Prop :=
  (Compile.node registry folding expr).Folds (foldedNodes registry read world folding expr)
    (Condensed registry read world folding expr)

/-- A node is steady if the operator that is found for it is. -/
theorem isSteady_of_resolve? (expr : Expr) {arity : Arity} {operator : Operator σ}
    (key : expr.ownKey? = some (symbol, arity))
    (resolved : registry.resolve? symbol arity = some operator) :
    expr.isSteady registry = !operator.isVolatile := by
  simp [isSteady, key, resolved]

theorem folds_unary (ih : FoldsExactly registry read world folding operand) :
    FoldsExactly registry read world folding (.unary symbol operand offset) := by
  rw [FoldsExactly, Compile.node, foldedNodes_eq]
  refine .resolve fun operator resolved => ?_
  obtain ⟨body, himplementation, hbody⟩ := Registry.exists_unaryBody resolved
  have steady := isSteady_of_resolve? (.unary symbol operand offset) rfl resolved
  simp only [himplementation]
  refine ih.bind fun o ho => folds_fold rfl rfl ?_ fun outcome h => ?_
  · cases body <;> simp [steady, Operator.isVolatile, himplementation, Implementation.isVolatile,
      Node.isReady, ho.isConstant_iff, operands]
  · cases body with
    | volatile run => contradiction
    | steady run =>
      obtain ⟨value, hvalue, houtcome⟩ := Option.bind_eq_some_iff.1 h
      cases houtcome
      rw [interpret, ho.value value hvalue, hbody]
      rfl

theorem folds_binary (ihl : FoldsExactly registry read world folding left)
    (ihr : FoldsExactly registry read world folding right) :
    FoldsExactly registry read world folding (.binary symbol left right offset) := by
  rw [FoldsExactly, Compile.node, foldedNodes_eq]
  refine .resolve fun operator resolved => ?_
  obtain ⟨body, himplementation, hbody⟩ := Registry.exists_binaryBody resolved
  have steady := isSteady_of_resolve? (.binary symbol left right offset) rfl resolved
  simp only [himplementation]
  simp only [operands, List.map_cons, List.map_nil, List.sum_cons, List.sum_nil, Nat.add_assoc]
  refine ihl.bind fun l hl => ihr.bind fun r hr => ?_
  rw [Nat.zero_add]
  refine folds_fold rfl rfl ?_ fun outcome h => ?_
  · cases body <;> simp [steady, Operator.isVolatile, himplementation, Implementation.isVolatile,
      Node.isReady, hl.isConstant_iff, hr.isConstant_iff, operands]
  · cases body with
    | volatile run => contradiction
    | steady run =>
      obtain ⟨a, ha, hrest⟩ := Option.bind_eq_some_iff.1 h
      obtain ⟨b, hb, houtcome⟩ := Option.bind_eq_some_iff.1 hrest
      cases houtcome
      rw [interpret, hl.value a ha, hr.value b hb, hbody]
      rfl

/-- The case of a ternary operation. A branch that is not taken counts as well. -/
theorem folds_ternary (ihc : FoldsExactly registry read world folding condition)
    (iht : FoldsExactly registry read world folding ifTrue)
    (ihf : FoldsExactly registry read world folding ifFalse) :
    FoldsExactly registry read world folding
      (.ternary symbol condition ifTrue ifFalse offset) := by
  rw [FoldsExactly, Compile.node, foldedNodes_eq]
  refine .resolve fun operator resolved => ?_
  obtain ⟨separator, body, himplementation, hbody⟩ := Registry.exists_ternaryBody resolved
  have steady :=
    isSteady_of_resolve? (.ternary symbol condition ifTrue ifFalse offset) rfl resolved
  simp only [himplementation]
  simp only [operands, List.map_cons, List.map_nil, List.sum_cons, List.sum_nil, Nat.add_assoc]
  refine ihc.bind fun c hc => iht.bind fun t ht => ihf.bind fun f hf => ?_
  rw [Nat.zero_add]
  refine folds_fold rfl rfl ?_ fun outcome h => ?_
  · cases body <;> simp [steady, Operator.isVolatile, himplementation, Implementation.isVolatile,
      Node.isReady, hc.isConstant_iff, ht.isConstant_iff, hf.isConstant_iff, operands, and_assoc]
  · cases body with
    | volatile run => contradiction
    | steady run =>
      obtain ⟨a, ha, hrest⟩ := Option.bind_eq_some_iff.1 h
      obtain ⟨b, hb, hrest⟩ := Option.bind_eq_some_iff.1 hrest
      obtain ⟨b', hb', houtcome⟩ := Option.bind_eq_some_iff.1 hrest
      cases houtcome
      rw [interpret, hc.value a ha, ht.value b hb, hf.value b' hb', hbody]
      exact Deferred.run_ofExcept (run a) (.ok b) (.ok b')

/-- Arguments that were compiled to constants are interpreted as their values. -/
theorem interpretAll_of_condensed {nodes : List (Node σ)} {values : List Float}
    (all : List.Forall₂ (Condensed registry read world folding) args nodes)
    (h : nodes.mapM Node.value? = some values) :
    interpretAll registry read args = pure values := by
  induction all generalizing values with
  | nil =>
    cases h
    rfl
  | cons first _ ih =>
    rw [List.mapM_cons] at h
    obtain ⟨value, hvalue, hrest⟩ := Option.bind_eq_some_iff.1 h
    obtain ⟨others, hothers, hvalues⟩ := Option.bind_eq_some_iff.1 hrest
    cases hvalues
    rw [interpretAll, first.value value hvalue, ih hothers]
    rfl

/-- Arguments are compiled to constants exactly if each is a literal or folded. -/
theorem all_isConstant_iff {nodes : List (Node σ)}
    (all : List.Forall₂ (Condensed registry read world folding) args nodes) :
    nodes.all Node.isConstant = true ↔
      ∀ arg ∈ args, arg.Settles registry read world folding := by
  induction all with
  | nil => simp
  | cons first _ ih =>
    rw [List.all_cons, Bool.and_eq_true, ih, first.isConstant_iff, List.forall_mem_cons]

/-- What is folded in several arguments adds up. -/
theorem folds_args (ih : ∀ arg ∈ args, FoldsExactly registry read world folding arg) :
    (nodes registry folding args).Folds
      (args.map (foldedNodes registry read world folding)).sum
      (List.Forall₂ (Condensed registry read world folding) args) := by
  induction args with
  | nil => exact .pure .nil
  | cons arg args iht =>
    obtain ⟨hfirst, hrest⟩ := List.forall_mem_cons.1 ih
    rw [nodes, List.map_cons, List.sum_cons,
      ← Nat.add_zero (args.map (foldedNodes registry read world folding)).sum]
    exact hfirst.bind fun first h => (iht hrest).bind fun rest h' => .pure (.cons h h')

theorem folds_call (ih : ∀ arg ∈ args, FoldsExactly registry read world folding arg) :
    FoldsExactly registry read world folding (.call name args offset) := by
  rw [FoldsExactly, Compile.node, foldedNodes_eq]
  refine .resolve fun operator resolved => ?_
  obtain ⟨bounds, body, himplementation, -, hbody⟩ := Registry.exists_functionBody resolved
  have steady := isSteady_of_resolve? (.call name args offset) rfl resolved
  simp only [himplementation]
  split
  · refine (folds_args ih).bind fun values hall => folds_fold rfl rfl ?_ fun outcome h => ?_
    · cases body <;> simp [steady, Operator.isVolatile, himplementation,
        Implementation.isVolatile, Node.isReady, ← all_isConstant_iff hall, operands]
    · cases body with
      | volatile run => contradiction
      | steady run =>
        obtain ⟨others, hothers, houtcome⟩ := Option.bind_eq_some_iff.1 h
        cases houtcome
        rw [interpret, interpretAll_of_condensed hall hothers, hbody]
        rfl
  · exact .throw _

/-- Compiling folds the foldable nodes of the expression and no others. -/
theorem folds_node (expr : Expr) : FoldsExactly registry read world folding expr := by
  induction expr with
  | constant value =>
    rw [FoldsExactly, Compile.node, foldedNodes_of_leaf rfl]
    refine .pure ⟨fun other h => ?_, fun _ => .inl ⟨value, rfl⟩, fun _ => rfl⟩
    cases h
    rfl
  | var name =>
    rw [FoldsExactly, Compile.node, foldedNodes_of_leaf rfl]
    refine (folds_reserve name).bind fun slot _ => .pure ⟨fun value h => ?_, ?_⟩
    · contradiction
    · refine ⟨fun h => ?_, ?_⟩
      · contradiction
      · rintro (⟨value, h⟩ | ⟨-, h⟩)
        · contradiction
        · exact absurd h.operation (by simp [isOperation, ownKey?])
  | unary symbol operand offset ih => exact folds_unary ih
  | binary symbol left right offset ihl ihr => exact folds_binary ihl ihr
  | ternary symbol condition ifTrue ifFalse offset ihc iht ihf => exact folds_ternary ihc iht ihf
  | call name args offset ih => exact folds_call ih

end Nodes

end Compile

/-! ## The whole -/

namespace Expr

/-- **What is folded**: with folding, an evaluator has folded as many operations as the expression
has foldable nodes, and it is a constant if the expression is a literal or foldable. Without
folding, nothing is folded, and the evaluator is a constant if the expression is a literal. In what
world a node is said to have a value, and how variables are read, does not matter. -/
theorem compile_folds (expr : Expr) (registry : Registry σ) (folding : Bool)
    (start after : Variables σ) (evaluator : Evaluator σ) (read : String → Eval σ Float) (world : σ)
    (compiled : expr.compile registry folding start = (.ok evaluator, after)) :
    (folding = true →
      evaluator.folded =
        expr.nodes.countP (fun node => decide (Foldable registry read world node)) ∧
      (evaluator.isConstant = true ↔
        (∃ value, expr = .constant value) ∨ Foldable registry read world expr)) ∧
    (folding = false →
      evaluator.folded = 0 ∧
      (evaluator.isConstant = true ↔ ∃ value, expr = .constant value)) := by
  unfold compile at compiled
  split at compiled
  · next root progress hrun =>
    cases compiled
    obtain ⟨count, condensed⟩ :=
      @Compile.folds_node σ registry read world folding expr _ _ _ hrun
    constructor
    · rintro rfl
      exact ⟨by simpa [Compile.foldedNodes] using count,
        by simpa [Evaluator.isConstant, Settles] using condensed.isConstant_iff⟩
    · rintro rfl
      exact ⟨by simpa [Compile.foldedNodes] using count,
        by simpa [Evaluator.isConstant, Settles] using condensed.isConstant_iff⟩
  · simp at compiled

/-- The sum and the quotient are evaluated ahead of time, and only the sum has a value. The
conditional would select it, but has an operand that is not folded. -/
theorem compile_folds_untaken_branch :
    let registry : Registry Unit :=
      ⟨[.binary "THEN" 0 .left fun _ b => .ok b,
        .binary "//" 0 .left fun _ _ => .error .divisionByZero,
        .ternary "?" ":" 0 fun _ => Deferred.ifTrue], by decide +kernel, by decide +kernel⟩
    let expr := Expr.ternary "?" (.constant 1)
      (.binary "THEN" (.constant 2) (.binary "THEN" (.constant 3) (.constant 4) 11) 6)
      (.binary "//" (.constant 5) (.constant 0) 25) 2
    ∃ evaluator after, expr.compile registry true .empty = (.ok evaluator, after) ∧
      evaluator.folded = 2 ∧ evaluator.isConstant = false := by
  intro registry expr
  have faultless : expr.fault? registry = none := by
    decide +kernel
  obtain ⟨evaluator, hcompile, -⟩ := @compile_eq_ok Unit registry true .empty expr faultless
  obtain ⟨folded, isConstant⟩ :=
    (compile_folds expr registry true .empty _ evaluator (fun _ => Eval.absent) () hcompile).1 rfl
  refine ⟨evaluator, _, hcompile, ?_, ?_⟩
  · rw [folded]
    decide +kernel
  · rw [Bool.eq_false_iff, Ne, isConstant]
    have unfoldable : ¬ Foldable registry (fun _ => Eval.absent) () expr := by
      decide +kernel
    rintro (⟨value, h⟩ | h)
    · contradiction
    · exact unfoldable h

end Expr

end Formulary
