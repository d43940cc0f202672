import Formulary.Decimal.Text

/-!
# Formulary.Token

The tokens of a formula, and where they stand in its text.
-/

namespace Formulary

/-- A token. -/
inductive Token
  /-- An unsigned literal. -/
  | number (value : Float)
  /-- The name of a variable or a function. -/
  | name (text : String)
  /-- The symbol of an operator, or the separator of a ternary one. -/
  | operator (symbol : String)
  | leftParen
  | rightParen
  | comma
  /-- The end of the text. -/
  | finish
deriving DecidableEq, Repr

/-- The token as messages and listings call it. -/
def Token.describe : Token → String
  | .number value => s!"number {floatText .plain value}"
  | .name text => s!"identifier '{text}'"
  | .operator symbol => s!"operator '{symbol}'"
  | .leftParen => "'('"
  | .rightParen => "')'"
  | .comma => "','"
  | .finish => "end of input"

/-- A token and the byte offset at which it starts. -/
structure Spanned where
  token : Token
  offset : Nat
deriving DecidableEq, Repr

end Formulary
