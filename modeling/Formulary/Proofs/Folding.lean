import Formulary.Proofs.Compile

/-!
# Formulary.Proofs.Folding

Folding cannot be noticed.

With and without folding, an expression compiles to evaluators that evaluate alike
with every table and in every world, or fails to compile for the same reason. As
the world is arbitrary, it may note down what suppliers are read and what volatile
operators are called, in which order and with which operands (`Registry.observed`,
`Variables.observed`), and the notes are the same.

To fold, an operation is evaluated. `Expr.compileIn` does that in the world that
the expression is compiled in and with the table that it is compiled with, and the
world is the same afterwards: compiling reads no supplier and calls no volatile
operator.
-/

namespace Formulary

variable {σ : Type}

/-! ## Taking notes -/

/-- What a world may note down. -/
inductive Event
  /-- The supplier of a variable is read. -/
  | read (name : String)
  /-- A volatile operator is called. Of a ternary operator, only its condition is known then. -/
  | call (symbol : String) (operands : List Float)
deriving Repr

section Observed

variable (note : Event → σ → σ)

/-- The binding of a variable, whose supplier is noted down whenever it is read. -/
def Binding.observed (name : String) : Binding σ → Binding σ
  | static value => static value
  | dynamic supplier => dynamic fun world => supplier (note (.read name) world)

/-- The table with all reads of suppliers noted down. -/
def Variables.observed (table : Variables σ) : Variables σ where
  entries := table.entries.map fun entry =>
    { entry with binding := entry.binding.map (Binding.observed note entry.name) }
  distinct := by simpa [List.map_map, Function.comp_def] using table.distinct

/-- The body, whose calls are noted down if it is volatile. -/
def Body.observed {α : Type} (event : α → Event) : Body σ α → Body σ α
  | steady run => steady run
  | volatile run => volatile fun operands world => run operands (note (event operands) world)

/-- The body of a ternary operator, whose calls are noted down if it is volatile. -/
def TernaryBody.observed (event : Float → Event) : TernaryBody σ → TernaryBody σ
  | steady run => steady run
  | volatile run => volatile fun condition ifTrue ifFalse world =>
    run condition ifTrue ifFalse (note (event condition) world)

/-- The implementation of an operator with its volatile calls noted down. -/
def Implementation.observed (symbol : String) : Implementation σ → Implementation σ
  | unary body => unary (body.observed note fun operand => .call symbol [operand])
  | binary body => binary (body.observed note fun (left, right) => .call symbol [left, right])
  | ternary separator body =>
    ternary separator (body.observed note fun condition => .call symbol [condition])
  | function bounds body => function bounds (body.observed note fun args => .call symbol args)

/-- The operator with its volatile calls noted down. -/
def Operator.observed (operator : Operator σ) : Operator σ :=
  { operator with implementation := operator.implementation.observed note operator.symbol }

/-- An operator is spelled the same when its calls are noted down. -/
theorem Operator.spelling_observed (operator : Operator σ) :
    (operator.observed note).spelling = operator.spelling := by
  unfold spelling arity separator? observed
  cases operator.implementation <;> rfl

/-- The registry with all calls of volatile operators noted down. -/
def Registry.observed (registry : Registry σ) : Registry σ where
  operators := registry.operators.map (Operator.observed note)
  valid := by
    intro other member
    obtain ⟨operator, registered, rfl⟩ := List.mem_map.1 member
    rw [Operator.invalidName?, Operator.spelling_observed]
    exact registry.valid operator registered
  distinct := by
    have same : Operator.key ∘ Operator.observed note = (Operator.key : Operator σ → _) := by
      funext operator
      rw [Function.comp_apply, Operator.key, Operator.spelling_observed, Operator.key]
    rw [List.map_map, same]
    exact registry.distinct

end Observed

/-! ## Compiling in a world -/

namespace Node

/-- The body is steady and the operands are constants. -/
def isReady : Node σ → Bool
  | unary (.steady _) operand => operand.isConstant
  | binary (.steady _) left right => left.isConstant && right.isConstant
  | ternary (.steady _) condition ifTrue ifFalse =>
    condition.isConstant && ifTrue.isConstant && ifFalse.isConstant
  | call (.steady _) args => args.all isConstant
  | _ => false

/-- The values of several nodes are told exactly if all of them are constants. -/
theorem isSome_mapM_value? (args : List (Node σ)) :
    (args.mapM value?).isSome = args.all isConstant := by
  induction args with
  | nil => rfl
  | cons arg args ih =>
    rw [List.mapM_cons, List.all_cons, ← ih, isConstant]
    cases arg.value? with
    | none => rfl
    | some value => cases args.mapM value? <;> rfl

/-- What is ready has an outcome that can be told ahead of time. -/
theorem isSome_outcome? (node : Node σ) : node.outcome?.isSome = node.isReady := by
  cases node with
  | constant value => rfl
  | read slot => rfl
  | unary body operand =>
    cases body with
    | volatile run => rfl
    | steady run =>
      simp only [outcome?, isReady, isConstant]
      cases operand.value? <;> rfl
  | binary body left right =>
    cases body with
    | volatile run => rfl
    | steady run =>
      simp only [outcome?, isReady, isConstant]
      cases left.value? <;> cases right.value? <;> rfl
  | ternary body condition ifTrue ifFalse =>
    cases body with
    | volatile run => rfl
    | steady run =>
      simp only [outcome?, isReady, isConstant]
      cases condition.value? <;> cases ifTrue.value? <;> cases ifFalse.value? <;> rfl
  | call body args =>
    cases body with
    | volatile run => rfl
    | steady run =>
      simp only [outcome?, isReady, ← isSome_mapM_value?]
      cases args.mapM value? <;> rfl

end Node

namespace Compile

variable {α β : Type}

/-- A step of compiling as one that has a world at hand and leaves it alone. -/
def beside (computation : Compile σ α) : EStateM CompileError (Progress σ × σ) α :=
  fun (progress, world) =>
    match computation progress with
    | .ok value progress => .ok value (progress, world)
    | .error e progress => .error e (progress, world)

/-- Replace an operation that is ready by its value, which is found by evaluating it now. -/
def foldIn (folding : Bool) (symbol : String) (node : Node σ) :
    EStateM CompileError (Progress σ × σ) (Node σ) := fun (progress, world) =>
  if folding && node.isReady then
    match node.eval progress.table world with
    | .ok value world =>
      .ok (.constant value) ({ progress with folded := progress.folded + 1 }, world)
    | .error e world =>
      .ok node ({ progress with refused := progress.refused ++ [(symbol, e)] }, world)
  else .ok node (progress, world)

mutual

/-- Compile an expression in a world, in which operations that are ready are evaluated. -/
def nodeIn (registry : Registry σ) (folding : Bool) :
    Expr → EStateM CompileError (Progress σ × σ) (Node σ)
  | .constant value => pure (.constant value)
  | .var name => do
    let slot ← beside (reserve name)
    return .read slot
  | .unary symbol operand offset => do
    let operator ← beside (resolve registry symbol .unary offset)
    match operator.implementation with
    | .unary body =>
      let operand ← nodeIn registry folding operand
      foldIn folding operator.symbol (.unary body operand)
    | _ => throw (.missingOperator symbol .unary offset)
  | .binary symbol left right offset => do
    let operator ← beside (resolve registry symbol .binary offset)
    match operator.implementation with
    | .binary body =>
      let left ← nodeIn registry folding left
      let right ← nodeIn registry folding right
      foldIn folding operator.symbol (.binary body left right)
    | _ => throw (.missingOperator symbol .binary offset)
  | .ternary symbol condition ifTrue ifFalse offset => do
    let operator ← beside (resolve registry symbol .ternary offset)
    match operator.implementation with
    | .ternary _ body =>
      let condition ← nodeIn registry folding condition
      let ifTrue ← nodeIn registry folding ifTrue
      let ifFalse ← nodeIn registry folding ifFalse
      foldIn folding operator.symbol (.ternary body condition ifTrue ifFalse)
    | _ => throw (.missingOperator symbol .ternary offset)
  | .call name args offset => do
    let operator ← beside (resolve registry name .function offset)
    match operator.implementation with
    | .function bounds body =>
      if bounds.admits args.length then
        let args ← nodesIn registry folding args
        foldIn folding operator.symbol (.call body args)
      else throw (.argumentCount operator.symbol bounds args.length offset)
    | _ => throw (.missingOperator name .function offset)

/-- Compile a list of expressions in a world, from left to right. -/
def nodesIn (registry : Registry σ) (folding : Bool) :
    List Expr → EStateM CompileError (Progress σ × σ) (List (Node σ))
  | [] => pure []
  | arg :: args => do
    let arg ← nodeIn registry folding arg
    let args ← nodesIn registry folding args
    return arg :: args

end

/-- Sequences leave the world alone if their parts do. -/
theorem beside_bind (computation : Compile σ α) (next : α → Compile σ β) :
    beside (computation >>= next) = beside computation >>= fun value => beside (next value) := by
  funext ⟨progress, world⟩
  show beside (EStateM.bind computation next) (progress, world) =
    EStateM.bind (beside computation) (fun value => beside (next value)) (progress, world)
  simp only [beside, EStateM.bind]
  cases computation progress <;> rfl

/-- Evaluating an operation that is ready gives its outcome, in every world. -/
theorem foldIn_eq (folding : Bool) (symbol : String) (node : Node σ) :
    foldIn folding symbol node = beside (fold folding symbol node) := by
  funext ⟨progress, world⟩
  have hready := node.isSome_outcome?
  cases folding with
  | false => rfl
  | true =>
    cases houtcome : node.outcome? with
    | none =>
      have hready : node.isReady = false := by rw [← hready, houtcome]; rfl
      simp only [foldIn, beside, fold, hready, houtcome]
      rfl
    | some outcome =>
      have hready : node.isReady = true := by rw [← hready, houtcome]; rfl
      have heval := Node.eval_of_outcome? houtcome progress.table
      simp only [foldIn, beside, fold, hready, houtcome, heval]
      cases outcome <;> rfl

variable {registry : Registry σ} {folding : Bool}

/-- Compiling a list leaves the world alone if compiling each argument does. -/
theorem nodesIn_eq {args : List Expr}
    (ih : ∀ arg ∈ args, nodeIn registry folding arg = beside (node registry folding arg)) :
    nodesIn registry folding args = beside (nodes registry folding args) := by
  induction args with
  | nil => rfl
  | cons arg args iht =>
    have hrest := iht fun other member => ih other (List.mem_cons_of_mem _ member)
    simp only [nodesIn, nodes, beside_bind, ih arg List.mem_cons_self, hrest]
    rfl

/-- Compiling leaves the world alone, and the world has no part in what is compiled. -/
theorem nodeIn_eq (expr : Expr) :
    nodeIn registry folding expr = beside (node registry folding expr) := by
  induction expr with
  | constant value => rfl
  | var name =>
    simp only [nodeIn, node, beside_bind]
    rfl
  | unary symbol operand offset ih =>
    simp only [nodeIn, node, beside_bind, ih, foldIn_eq]
    congr 1
    funext operator
    cases operator.implementation with
    | unary body => rw [beside_bind]
    | _ => rfl
  | binary symbol left right offset ihl ihr =>
    simp only [nodeIn, node, beside_bind, ihl, ihr, foldIn_eq]
    congr 1
    funext operator
    cases operator.implementation with
    | binary body => simp only [beside_bind]
    | _ => rfl
  | ternary symbol condition ifTrue ifFalse offset ihc iht ihf =>
    simp only [nodeIn, node, beside_bind, ihc, iht, ihf, foldIn_eq]
    congr 1
    funext operator
    cases operator.implementation with
    | ternary separator body => simp only [beside_bind]
    | _ => rfl
  | call name args offset ih =>
    simp only [nodeIn, node, beside_bind, nodesIn_eq ih, foldIn_eq]
    congr 1
    funext operator
    cases operator.implementation with
    | function bounds body =>
      cases admitted : bounds.admits args.length with
      | true => simp only [admitted, if_true, beside_bind]
      | false =>
        simp only [admitted]
        rfl
    | _ => rfl

end Compile

/-! ## Folding and not folding -/

namespace Expr

/-- Make an expression ready for evaluation in a world, in which operations that can be folded are
evaluated. -/
def compileIn (expr : Expr) (registry : Registry σ) (folding : Bool) (table : Variables σ)
    (world : σ) : (Except CompileError (Evaluator σ) × Variables σ) × σ :=
  match Compile.nodeIn registry folding expr (⟨table, [], 0, []⟩, world) with
  | .ok root (progress, world) =>
    ((.ok ⟨root, progress.slots.length, progress.folded, progress.refused⟩, progress.table),
      world)
  | .error e (progress, world) => ((.error e, progress.table), world)

/-- Compiling with a world at hand is compiling, and the world stays as it is. -/
theorem compileIn_eq (expr : Expr) (registry : Registry σ) (folding : Bool)
    (table : Variables σ) (world : σ) :
    expr.compileIn registry folding table world =
      (expr.compile registry folding table, world) := by
  simp only [compileIn, compile, Compile.nodeIn_eq, Compile.beside]
  cases Compile.node registry folding expr ⟨table, [], 0, []⟩ <;> rfl

/-- With and without folding compiling does the same to the table, and fails alike or gives
evaluators that evaluate alike. -/
theorem map_evaluate_compile (expr : Expr) (registry : Registry σ) (start : Variables σ) :
    (expr.compile registry true start).2 = (expr.compile registry false start).2 ∧
    ∀ table : Variables σ,
      (expr.compile registry true start).1.map (·.evaluate table) =
        (expr.compile registry false start).1.map (·.evaluate table) := by
  cases hfault : expr.fault? registry with
  | some e =>
    rw [compile_eq_error hfault, compile_eq_error hfault]
    exact ⟨rfl, fun _ => rfl⟩
  | none =>
    obtain ⟨folded, hfolded, fits⟩ := @compile_eq_ok σ registry true start expr hfault
    obtain ⟨plain, hplain, fits'⟩ := @compile_eq_ok σ registry false start expr hfault
    rw [hfolded, hplain]
    refine ⟨rfl, fun table => congrArg Except.ok ?_⟩
    exact (fits.denotes _ List.prefix_rfl table).trans (fits'.denotes _ List.prefix_rfl table).symm

/-- **Folding cannot be noticed.** With and without it, compiling does the same to the table and
fails for the same reason or not at all. The evaluators then give the same result and the same
world afterwards, in every world and with every table, whatever has been bound and unbound since.
Compiling leaves the world alone, even if operations are evaluated for it. The notes that a world
takes are the same, too: what suppliers are read and what volatile operators are called, in which
order and with which operands; and none is taken while compiling. -/
theorem compile_folding (expr : Expr) (registry : Registry σ) (start : Variables σ) :
    (expr.compile registry true start).2 = (expr.compile registry false start).2 ∧
    (∀ table : Variables σ,
      (expr.compile registry true start).1.map (·.evaluate table) =
        (expr.compile registry false start).1.map (·.evaluate table)) ∧
    (∀ (folding : Bool) (world : σ),
      expr.compileIn registry folding start world =
        (expr.compile registry folding start, world)) ∧
    ∀ note : Event → σ → σ,
      (∀ table : Variables σ,
        (expr.compile (registry.observed note) true start).1.map
            (·.evaluate (table.observed note)) =
          (expr.compile (registry.observed note) false start).1.map
            (·.evaluate (table.observed note))) ∧
      ∀ (folding : Bool) (world : σ),
        (expr.compileIn (registry.observed note) folding (start.observed note) world).2 =
          world := by
  obtain ⟨htable, hevaluate⟩ := map_evaluate_compile expr registry start
  refine ⟨htable, hevaluate, ?_, fun note => ⟨?_, ?_⟩⟩
  · intro folding world
    exact compileIn_eq expr registry folding start world
  · intro table
    exact (map_evaluate_compile expr (registry.observed note) start).2 (table.observed note)
  · intro folding world
    rw [compileIn_eq]

end Expr

end Formulary
