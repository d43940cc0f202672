import Formulary.Decimal.Text
import Formulary.Symbol

/-!
# Formulary.Expr

Expression trees, and their rendering with all parentheses.

Operator and call nodes keep the byte offset of their operator or name in the
text, so that errors found later can still point there.
-/

namespace Formulary

/-- An expression. -/
inductive Expr where
  /-- A literal. -/
  | constant (value : Float)
  /-- A reference to a variable. -/
  | var (name : String)
  /-- An operator before its operand. -/
  | unary (symbol : String) (operand : Expr) (offset : Nat)
  /-- An operator between its operands. -/
  | binary (symbol : String) (left right : Expr) (offset : Nat)
  /-- A condition, a symbol, a branch, a separator and the other branch. -/
  | ternary (symbol : String) (condition ifTrue ifFalse : Expr) (offset : Nat)
  /-- A function call. -/
  | call (name : String) (args : List Expr) (offset : Nat)
deriving Repr, Inhabited

namespace Expr

/-! ## Variables -/

mutual

/-- The variables as they appear from left to right, each as often as it appears. -/
def occurrences : Expr → List String
  | constant _ => []
  | var name => [name]
  | unary _ operand _ => operand.occurrences
  | binary _ left right _ => left.occurrences ++ right.occurrences
  | ternary _ condition ifTrue ifFalse _ =>
    condition.occurrences ++ ifTrue.occurrences ++ ifFalse.occurrences
  | call _ args _ => occurrencesAll args

/-- The variables of a list of expressions. -/
def occurrencesAll : List Expr → List String
  | [] => []
  | arg :: args => arg.occurrences ++ occurrencesAll args

end

/-- The distinct variables, in order of first appearance. -/
def «variables» (expr : Expr) : List String := expr.occurrences.eraseDups

/-! ## Rendering -/

/-- A prefix operator that would melt into its operand stands apart from it. -/
def needsSpace (symbol : String) : Bool := symbol.toList.all Symbol.isWordPart

mutual

/-- The characters of the rendering: every operation in parentheses, a ternary one as a call of
its symbol. -/
def chars : Expr → List Char
  | constant value => floatChars .plain value
  | var name => name.toList
  | unary symbol operand _ =>
    '(' :: symbol.toList ++ (if needsSpace symbol then [' '] else []) ++ operand.chars ++ [')']
  | binary symbol left right _ =>
    '(' :: left.chars ++ ' ' :: symbol.toList ++ ' ' :: right.chars ++ [')']
  | ternary symbol condition ifTrue ifFalse _ =>
    symbol.toList ++ '(' :: condition.chars ++ ',' :: ' ' :: ifTrue.chars
      ++ ',' :: ' ' :: ifFalse.chars ++ [')']
  | call name [] _ => name.toList ++ ['(', ')']
  | call name (arg :: args) _ => name.toList ++ '(' :: arg.chars ++ charsRest args ++ [')']

/-- The characters of the arguments after the first, each with the comma before it. -/
def charsRest : List Expr → List Char
  | [] => []
  | arg :: args => ',' :: ' ' :: arg.chars ++ charsRest args

end

/-- The expression with all parentheses, such as `(2 + (3 * 4))`. -/
def render (expr : Expr) : String := String.ofList expr.chars

end Expr

end Formulary
