import Formulary.Eval

/-!
# Formulary.Deferred

Computations over two operands that are not evaluated yet.

The two branches of a ternary operator are evaluated when the operator asks
for them, as often as it asks, and not at all if it does not. A steady ternary
operator is therefore a `Deferred` computation: a tree of requests, each of
which goes on with the outcome of the branch it asked for. `Deferred.run`
answers the requests by evaluations in a world, `Deferred.answer` by outcomes
that are known already.
-/

namespace Formulary

/-- One of the two operands that are not evaluated yet. -/
inductive Branch
  | ifTrue
  | ifFalse
deriving DecidableEq, Repr

/-- A computation that may ask for the branches of a ternary operator. -/
inductive Deferred (α : Type) where
  /-- The computation has ended. -/
  | done (outcome : Except EvalError α)
  /-- It asks for a branch and goes on with its outcome, be that a value or an error. -/
  | ask (branch : Branch) (next : Except EvalError Float → Deferred α)

namespace Deferred

variable {α β σ : Type}

/-- Go on with the value of a computation; its error, if it has one, is passed on. -/
def bind : Deferred α → (α → Deferred β) → Deferred β
  | done (.ok a), f => f a
  | done (.error e), _ => done (.error e)
  | ask branch next, f => ask branch fun outcome => (next outcome).bind f

/-- Go on from the error of a computation; its value, if it has one, is kept. -/
def recover : Deferred α → (EvalError → Deferred α) → Deferred α
  | done (.ok a), _ => done (.ok a)
  | done (.error e), f => f e
  | ask branch next, f => ask branch fun outcome => (next outcome).recover f

instance : Monad Deferred where
  pure a := done (.ok a)
  bind := bind

instance : MonadExceptOf EvalError Deferred where
  throw e := done (.error e)
  tryCatch := recover

/-- The value of the first branch. -/
def ifTrue : Deferred Float := ask .ifTrue done

/-- The value of the second branch. -/
def ifFalse : Deferred Float := ask .ifFalse done

/-- The outcome when those of both branches are known. -/
def answer (computation : Deferred α) (ifTrue ifFalse : Except EvalError Float) :
    Except EvalError α :=
  match computation with
  | done outcome => outcome
  | ask .ifTrue next => (next ifTrue).answer ifTrue ifFalse
  | ask .ifFalse next => (next ifFalse).answer ifTrue ifFalse

/-- Run the computation: each request evaluates its branch in the world as it is then. -/
def run (computation : Deferred α) (ifTrue ifFalse : Eval σ Float) : Eval σ α :=
  match computation with
  | done outcome => Eval.ofExcept outcome
  | ask branch next => fun world =>
    let operand := match branch with
      | .ifTrue => ifTrue
      | .ifFalse => ifFalse
    match operand world with
    | .ok value world => (next (.ok value)).run ifTrue ifFalse world
    | .error e world => (next (.error e)).run ifTrue ifFalse world

/-- Branches whose outcomes are known are answered alike by both. -/
theorem run_ofExcept (computation : Deferred α) (ifTrue ifFalse : Except EvalError Float) :
    computation.run (σ := σ) (Eval.ofExcept ifTrue) (Eval.ofExcept ifFalse)
      = Eval.ofExcept (computation.answer ifTrue ifFalse) := by
  induction computation with
  | done outcome => rfl
  | ask branch next ih =>
    funext world
    cases branch with
    | ifTrue => rw [run, answer, ← ih]; cases ifTrue <;> rfl
    | ifFalse => rw [run, answer, ← ih]; cases ifFalse <;> rfl

end Deferred

end Formulary
