import Formulary.Expr.ParseError
import Formulary.Expr
import Formulary.Variables

/-!
# Formulary.Evaluator

Expressions made ready for evaluation.

An `Evaluator` is an expression whose operators have been looked up and whose
variables have been given slots, so that it can be evaluated again and again
while bindings change. `Expr.compile` makes one. On the way it may *fold*: an
operation with a steady body and constant operands is replaced by its value.
An operation that fails is left in place, so that the error arises when the
formula is evaluated, and only if it is evaluated.
-/

namespace Formulary

variable {σ : Type}

/-! ## Nodes -/

/-- An expression with bodies for operators and slots for variables. -/
inductive Node (σ : Type) where
  | constant (value : Float)
  | read (slot : Slot)
  | unary (body : Body σ Float) (operand : Node σ)
  | binary (body : Body σ (Float × Float)) (left right : Node σ)
  | ternary (body : TernaryBody σ) (condition ifTrue ifFalse : Node σ)
  | call (body : Body σ (List Float)) (args : List (Node σ))

namespace Node

mutual

/-- Evaluate from left to right. The first error ends the evaluation, and the branches of a
ternary operator are evaluated as it asks for them. -/
def eval (table : Variables σ) : Node σ → Eval σ Float
  | constant value => pure value
  | read slot => table.read slot
  | unary body operand => do
    let operand ← operand.eval table
    body.apply operand
  | binary body left right => do
    let left ← left.eval table
    let right ← right.eval table
    body.apply (left, right)
  | ternary body condition ifTrue ifFalse => do
    let condition ← condition.eval table
    body.apply condition (ifTrue.eval table) (ifFalse.eval table)
  | call body args => do
    let args ← evalAll table args
    body.apply args

/-- Evaluate a list from left to right. -/
def evalAll (table : Variables σ) : List (Node σ) → Eval σ (List Float)
  | [] => pure []
  | arg :: args => do
    let value ← arg.eval table
    let values ← evalAll table args
    return value :: values

end

/-- The value of a constant. -/
def value? : Node σ → Option Float
  | constant value => some value
  | _ => none

/-- The node is a constant. -/
def isConstant (node : Node σ) : Bool := node.value?.isSome

/-- The outcome of an operation that can be told ahead of time: its body is steady and its
operands are constants. -/
def outcome? : Node σ → Option (Except EvalError Float)
  | unary (.steady run) operand => do
    let operand ← operand.value?
    return run operand
  | binary (.steady run) left right => do
    let left ← left.value?
    let right ← right.value?
    return run (left, right)
  | ternary (.steady run) condition ifTrue ifFalse => do
    let condition ← condition.value?
    let ifTrue ← ifTrue.value?
    let ifFalse ← ifFalse.value?
    return (run condition).answer (.ok ifTrue) (.ok ifFalse)
  | call (.steady run) args => do
    let args ← args.mapM value?
    return run args
  | _ => none

end Node

/-! ## Compiling -/

/-- Why an expression cannot be compiled. It was read with other operators than it is compiled
with, or was not read at all. -/
inductive CompileError
  /-- An operator is not in the registry. -/
  | missingOperator (symbol : String) (arity : Arity) (offset : Nat)
  /-- A function is called with a number of arguments that it does not accept. -/
  | argumentCount (function : String) (bounds : ArgBounds) (actual : Nat) (offset : Nat)
deriving DecidableEq, Repr

namespace CompileError

/-- The wording of the error. -/
def message : CompileError → String
  | missingOperator symbol arity offset =>
    s!"Operator '{symbol}' ({arity.name}) used at offset {offset} is not registered"
  | argumentCount function bounds actual _ => argumentCountMessage function bounds actual

/-- The place in the text that the error points to. -/
def offset : CompileError → Nat
  | missingOperator _ _ offset
  | argumentCount _ _ _ offset => offset

end CompileError

/-- What compiling an expression keeps track of. -/
structure Progress (σ : Type) where
  table : Variables σ
  /-- The slots in use, each once. -/
  slots : List Slot
  /-- The number of operations replaced by their values. -/
  folded : Nat
  /-- The operations that could have been folded, had they not failed, in order. -/
  refused : List (String × EvalError)

/-- A step of compiling. What it did to the table is not undone by an error. -/
abbrev Compile (σ : Type) := EStateM CompileError (Progress σ)

namespace Compile

/-- The slot of a variable. -/
def reserve (name : String) : Compile σ Slot :=
  modifyGet fun progress =>
    let (slot, table) := progress.table.slot name
    (slot, { progress with table, slots := progress.slots.insert slot })

/-- The operator of a node. -/
def resolve (registry : Registry σ) (symbol : String) (arity : Arity) (offset : Nat) :
    Compile σ (Operator σ) :=
  match registry.resolve? symbol arity with
  | some operator => pure operator
  | none => throw (.missingOperator symbol arity offset)

/-- Replace an operation by its value, if that is wanted and can be done ahead of time. -/
def fold (folding : Bool) (symbol : String) (node : Node σ) : Compile σ (Node σ) :=
  match if folding then node.outcome? else none with
  | none => pure node
  | some (.ok value) => modifyGet fun progress =>
      (.constant value, { progress with folded := progress.folded + 1 })
  | some (.error e) => modifyGet fun progress =>
      (node, { progress with refused := progress.refused ++ [(symbol, e)] })

mutual

/-- Compile an expression: first its operator is looked up, then its operands are compiled from
left to right. -/
def node (registry : Registry σ) (folding : Bool) : Expr → Compile σ (Node σ)
  | .constant value => pure (.constant value)
  | .var name => do
    let slot ← reserve name
    return .read slot
  | .unary symbol operand offset => do
    let operator ← resolve registry symbol .unary offset
    match operator.implementation with
    | .unary body =>
      let operand ← node registry folding operand
      fold folding operator.symbol (.unary body operand)
    | _ => throw (.missingOperator symbol .unary offset)
  | .binary symbol left right offset => do
    let operator ← resolve registry symbol .binary offset
    match operator.implementation with
    | .binary body =>
      let left ← node registry folding left
      let right ← node registry folding right
      fold folding operator.symbol (.binary body left right)
    | _ => throw (.missingOperator symbol .binary offset)
  | .ternary symbol condition ifTrue ifFalse offset => do
    let operator ← resolve registry symbol .ternary offset
    match operator.implementation with
    | .ternary _ body =>
      let condition ← node registry folding condition
      let ifTrue ← node registry folding ifTrue
      let ifFalse ← node registry folding ifFalse
      fold folding operator.symbol (.ternary body condition ifTrue ifFalse)
    | _ => throw (.missingOperator symbol .ternary offset)
  | .call name args offset => do
    let operator ← resolve registry name .function offset
    match operator.implementation with
    | .function bounds body =>
      if bounds.admits args.length then
        let args ← nodes registry folding args
        fold folding operator.symbol (.call body args)
      else throw (.argumentCount operator.symbol bounds args.length offset)
    | _ => throw (.missingOperator name .function offset)

/-- Compile a list of expressions from left to right. -/
def nodes (registry : Registry σ) (folding : Bool) : List Expr → Compile σ (List (Node σ))
  | [] => pure []
  | arg :: args => do
    let arg ← node registry folding arg
    let args ← nodes registry folding args
    return arg :: args

end

end Compile

/-! ## Evaluators -/

/-- An expression that is ready for evaluation. -/
structure Evaluator (σ : Type) where
  root : Node σ
  /-- The number of distinct variables. -/
  slotCount : Nat
  /-- The number of operations replaced by their values. -/
  folded : Nat
  /-- The operations that were not folded because they failed, and how, in order. -/
  refused : List (String × EvalError)

namespace Evaluator

/-- Evaluate with the bindings of a table. -/
def evaluate (evaluator : Evaluator σ) (table : Variables σ) : Eval σ Float :=
  evaluator.root.eval table

/-- The whole expression is a constant. -/
def isConstant (evaluator : Evaluator σ) : Bool := evaluator.root.isConstant

end Evaluator

/-- Make an expression ready for evaluation. Its variables are given slots in the table, bound
or not, up to the point of failure if there is one. -/
def Expr.compile (expr : Expr) (registry : Registry σ) (folding : Bool)
    (table : Variables σ) : Except CompileError (Evaluator σ) × Variables σ :=
  match Compile.node registry folding expr ⟨table, [], 0, []⟩ with
  | .ok root progress =>
    (.ok ⟨root, progress.slots.length, progress.folded, progress.refused⟩, progress.table)
  | .error e progress => (.error e, progress.table)

end Formulary
