/-!
# Formulary.Eval

Evaluations: what may go wrong, and what may be touched.

An evaluation runs in a *world* `σ`, whatever that is for the caller: the
state of the suppliers that variables are bound to, a source of randomness, a
trace. Suppliers and volatile operators may read and change it, and what they
changed stays changed when the evaluation fails later on. All else is a
function of its operands.
-/

namespace Formulary

/-- Why an evaluation failed. A failure belongs to one evaluation; the next one may succeed. -/
inductive EvalError
  /-- A variable was read while nothing was bound to it. -/
  | unbound (name : String)
  /-- A strict division by zero. -/
  | divisionByZero
  /-- An operator refused its operands. -/
  | failed (message : String)
deriving DecidableEq, Repr

/-- The wording of the error. -/
def EvalError.message : EvalError → String
  | .unbound name => s!"Unbound variable: {name}"
  | .divisionByZero => "Division by zero"
  | .failed message => s!"Evaluation error: {message}"

/-- An evaluation in the world `σ`. The world outlives a failure. -/
abbrev Eval (σ : Type) := EStateM EvalError σ

/-- The evaluation that has the given outcome and leaves the world alone. -/
def Eval.ofExcept {σ α : Type} : Except EvalError α → Eval σ α
  | .ok value => pure value
  | .error e => throw e

/-- A source of values, asked anew at every read. -/
abbrev Supplier (σ : Type) := σ → Float × σ

/-- The evaluation that asks a supplier once. -/
def Supplier.read {σ : Type} (supplier : Supplier σ) : Eval σ Float := fun world =>
  let (value, world) := supplier world
  .ok value world

end Formulary
