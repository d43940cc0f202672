import Formulary.Decimal
import Formulary.Deferred
import Formulary.Symbol

/-!
# Formulary.Operator

Operators: how they are written, how they group, and what they compute.

Functions are operators too, those of arity `function`. The body of an
operator is *steady* or *volatile*. A steady body is a function of its
operands and of nothing else, so it may be evaluated ahead of time. A volatile
body may use the world, and is run only when the formula is evaluated.
-/

namespace Formulary

/-! ## Arity and argument counts -/

/-- The number of operands an operator takes. -/
inductive Arity
  | unary
  | binary
  | ternary
  /-- A function call, with as many arguments as the function accepts. -/
  | function
deriving DecidableEq, Repr

/-- The arity as messages call it. -/
def Arity.name : Arity → String
  | .unary => "unary"
  | .binary => "binary"
  | .ternary => "ternary"
  | .function => "function"

/-- The argument counts a function accepts. -/
structure ArgBounds where
  least : Nat
  /-- No upper bound if absent. -/
  most : Option Nat
deriving DecidableEq, Repr

namespace ArgBounds

/-- The bounds that only `count` meets. -/
def exactly (count : Nat) : ArgBounds := ⟨count, some count⟩

/-- The bounds without an upper one. -/
def atLeast (count : Nat) : ArgBounds := ⟨count, none⟩

/-- The function may be called with so many arguments. -/
def admits (bounds : ArgBounds) (count : Nat) : Bool :=
  bounds.least ≤ count && bounds.most.all (count ≤ ·)

/-- The counts that are accepted lie between the bounds. -/
theorem admits_iff {bounds : ArgBounds} {count : Nat} :
    bounds.admits count = true ↔ bounds.least ≤ count ∧ ∀ most ∈ bounds.most, count ≤ most := by
  rw [admits, Bool.and_eq_true, decide_eq_true_eq, Option.all_eq_true]
  simp only [Option.mem_def, decide_eq_true_eq]

/-- The counts that are refused lie below the least or above the most. -/
theorem admits_eq_false_iff {bounds : ArgBounds} {count : Nat} :
    bounds.admits count = false ↔ count < bounds.least ∨ ∃ most ∈ bounds.most, most < count := by
  rw [Bool.eq_false_iff, Ne, admits_iff, Classical.not_and_iff_not_or_not, Nat.not_le]
  simp only [Classical.not_forall, Nat.not_le, exists_prop]

/-- What was expected in the place of `count`, which the bounds do not admit. -/
def expectation (bounds : ArgBounds) (count : Nat) : String :=
  match bounds.most with
  | none => s!"at least {bounds.least}"
  | some most =>
    if most = bounds.least then s!"exactly {most}"
    else if count < bounds.least then s!"at least {bounds.least}"
    else s!"at most {most}"

end ArgBounds

/-! ## Spelling -/

/-- How an operator is written. -/
structure Spelling where
  symbol : String
  arity : Arity
  /-- The closing symbol of a ternary operator. -/
  separator : Option String
deriving DecidableEq, Repr

namespace Spelling

/-- What an operator is registered under: one symbol may serve once per arity. -/
def key (spelling : Spelling) : String × Arity := (spelling.symbol, spelling.arity)

/-- The symbols that are lexed as operators; a function is called by name instead. -/
def symbols (spelling : Spelling) : List String :=
  match spelling.arity with
  | .function => []
  | _ => spelling.symbol :: spelling.separator.toList

/-- The name by which nothing can be written, if there is one: a symbol that cannot be lexed, a
function whose name is no word, or a separator that cannot be lexed or told from the symbol. -/
def invalidName? (spelling : Spelling) : Option String :=
  let named := match spelling.arity with
    | .function => Symbol.isWord spelling.symbol
    | _ => Symbol.isSymbol spelling.symbol
  if !named then some spelling.symbol
  else spelling.separator.filter fun separator =>
    separator == spelling.symbol || !Symbol.isSymbol separator

end Spelling

/-! ## Operators -/

/-- Grouping of operators of equal precedence. -/
inductive Associativity
  | left
  | right
deriving DecidableEq, Repr

/-- What an operator computes from operands of type `α`. -/
inductive Body (σ α : Type) where
  | steady (run : α → Except EvalError Float)
  | volatile (run : α → Eval σ Float)

/-- What a ternary operator computes from its condition and its two branches. -/
inductive TernaryBody (σ : Type) where
  | steady (run : Float → Deferred Float)
  | volatile (run : Float → Eval σ Float → Eval σ Float → Eval σ Float)

/-- The part of an operator that depends on its arity. -/
inductive Implementation (σ : Type) where
  /-- Written before its operand. -/
  | unary (body : Body σ Float)
  /-- Written between its operands. -/
  | binary (body : Body σ (Float × Float))
  /-- Written between a condition and a branch, with the separator before the other branch. -/
  | ternary (separator : String) (body : TernaryBody σ)
  /-- Called by name. -/
  | function (bounds : ArgBounds) (body : Body σ (List Float))

/-- An operator under a normalized symbol. -/
structure Operator (σ : Type) where
  symbol : String
  /-- How tightly a binary or ternary operator binds. -/
  precedence : UInt8
  associativity : Associativity
  implementation : Implementation σ
  symbol_normal : Symbol.normalize symbol = symbol

variable {σ : Type}

/-- Evaluate a body. -/
def Body.apply {α : Type} : Body σ α → α → Eval σ Float
  | .steady run, operands => Eval.ofExcept (run operands)
  | .volatile run, operands => run operands

/-- Evaluate a ternary body; the branches are evaluated as it asks for them. -/
def TernaryBody.apply : TernaryBody σ → Float → Eval σ Float → Eval σ Float → Eval σ Float
  | .steady run, condition, ifTrue, ifFalse => (run condition).run ifTrue ifFalse
  | .volatile run, condition, ifTrue, ifFalse => run condition ifTrue ifFalse

namespace Implementation

/-- The number of operands. -/
def arity : Implementation σ → Arity
  | unary _ => .unary
  | binary _ => .binary
  | ternary _ _ => .ternary
  | function _ _ => .function

/-- The body may use the world. -/
def isVolatile : Implementation σ → Bool
  | unary (.volatile _) | binary (.volatile _) | ternary _ (.volatile _)
  | function _ (.volatile _) => true
  | _ => false

/-- The same implementation, never evaluated ahead of time. -/
def asVolatile : Implementation σ → Implementation σ
  | unary body => unary (.volatile body.apply)
  | binary body => binary (.volatile body.apply)
  | ternary separator body => ternary separator (.volatile body.apply)
  | function bounds body => function bounds (.volatile body.apply)

end Implementation

namespace Operator

/-! ## Making operators -/

/-- An operator under the normalized form of a symbol. -/
def make (symbol : String) (precedence : UInt8) (associativity : Associativity)
    (implementation : Implementation σ) : Operator σ where
  symbol := Symbol.normalize symbol
  precedence
  associativity
  implementation
  symbol_normal := Symbol.normalize_normalize symbol

/-- An operator written before its operand. -/
def unary (symbol : String) (precedence : UInt8) (run : Float → Except EvalError Float) :
    Operator σ :=
  make symbol precedence .right (.unary (.steady run))

/-- An operator written between its operands. -/
def binary (symbol : String) (precedence : UInt8) (associativity : Associativity)
    (run : Float → Float → Except EvalError Float) : Operator σ :=
  make symbol precedence associativity (.binary (.steady fun (a, b) => run a b))

/-- An operator written `a symbol b separator c`, which groups to the right. -/
def ternary (symbol separator : String) (precedence : UInt8) (run : Float → Deferred Float) :
    Operator σ :=
  make symbol precedence .right (.ternary (Symbol.normalize separator) (.steady run))

/-- A function called as `name(arg, ...)`. -/
def function (name : String) (bounds : ArgBounds) (run : List Float → Except EvalError Float) :
    Operator σ :=
  make name 255 .left (.function bounds (.steady run))

/-- The same operator, never evaluated ahead of time. -/
def asVolatile (operator : Operator σ) : Operator σ :=
  { operator with implementation := operator.implementation.asVolatile }

/-! ## Reading operators -/

/-- The number of operands. -/
def arity (operator : Operator σ) : Arity := operator.implementation.arity

/-- The operator may use the world. -/
def isVolatile (operator : Operator σ) : Bool := operator.implementation.isVolatile

/-- The closing symbol of a ternary operator. -/
def separator? (operator : Operator σ) : Option String :=
  match operator.implementation with
  | .ternary separator _ => some separator
  | _ => none

/-- The argument counts of a function. -/
def bounds? (operator : Operator σ) : Option ArgBounds :=
  match operator.implementation with
  | .function bounds _ => some bounds
  | _ => none

/-- The least precedence of an operator that may stand unparenthesised in the right operand. -/
def rightPrecedence (operator : Operator σ) : Nat :=
  match operator.associativity with
  | .left => operator.precedence.toNat + 1
  | .right => operator.precedence.toNat

/-- Apply the operator to values. Operands that are missing are undefined numbers, and those in
excess are ignored; a function sees the arguments as they are. -/
def apply (operator : Operator σ) (operands : List Float) : Eval σ Float :=
  let operand (i : Nat) : Float := operands[i]?.getD undefinedNumber
  match operator.implementation with
  | .unary body => body.apply (operand 0)
  | .binary body => body.apply (operand 0, operand 1)
  | .ternary _ body => body.apply (operand 0) (pure (operand 1)) (pure (operand 2))
  | .function _ body => body.apply operands

/-! ## Validity -/

/-- How the operator is written. -/
def spelling (operator : Operator σ) : Spelling :=
  ⟨operator.symbol, operator.arity, operator.separator?⟩

/-- What the operator is registered under. -/
def key (operator : Operator σ) : String × Arity := operator.spelling.key

/-- The symbols by which the operator is written. -/
def symbols (operator : Operator σ) : List String := operator.spelling.symbols

/-- The name that keeps the operator from being registered, if there is one. -/
def invalidName? (operator : Operator σ) : Option String := operator.spelling.invalidName?

end Operator

end Formulary
