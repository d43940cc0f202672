import Formulary.Token.Scan

/-!
# Formulary.Expr.ParseError

Why a text is not a formula. Every error knows the byte offset in the text
that it points to.
-/

namespace Formulary

/-- Why a text is not a formula. -/
inductive ParseError
  /-- No token starts at a character. -/
  | lexical (e : LexError)
  /-- A parenthesis is closed and was never opened, or opened and never closed. -/
  | unbalanced (offset : Nat)
  /-- The separator of a ternary operator is missing. -/
  | unmatchedTernary (symbol separator : String) (offset : Nat)
  /-- A name is called that is no function. -/
  | unknownFunction (name : String) (offset : Nat)
  /-- A function is called with a number of arguments that it does not accept. -/
  | argumentCount (function : String) (bounds : ArgBounds) (actual : Nat) (offset : Nat)
  /-- A token stands where it cannot. -/
  | unexpected (found : Token) (offset : Nat)
  /-- The formula nests deeper, or its tree is higher, than the limit. -/
  | tooDeep (limit : Nat) (offset : Nat)
deriving DecidableEq, Repr

/-- The wording of a wrong number of arguments. -/
def argumentCountMessage (function : String) (bounds : ArgBounds) (actual : Nat) : String :=
  let expected := bounds.expectation actual
  s!"Wrong number of arguments for {function}: expected {expected}, got {actual}"

namespace ParseError

/-- The wording of the error. -/
def message : ParseError → String
  | lexical e => e.message
  | unbalanced offset => s!"Unbalanced parentheses at offset {offset}"
  | unmatchedTernary symbol separator offset =>
    s!"Operator '{symbol}' at offset {offset} has no matching '{separator}'"
  | unknownFunction name offset => s!"Unknown function '{name}' at offset {offset}"
  | argumentCount function bounds actual _ => argumentCountMessage function bounds actual
  | unexpected found offset => s!"Unexpected {found.describe} at offset {offset}"
  | tooDeep limit offset => s!"Formula nests deeper than {limit} levels at offset {offset}"

/-- The place in the text that the error points to. -/
def offset : ParseError → Nat
  | lexical e => e.offset
  | unbalanced offset
  | unmatchedTernary _ _ offset
  | unknownFunction _ offset
  | argumentCount _ _ _ offset
  | unexpected _ offset
  | tooDeep _ offset => offset

end ParseError

end Formulary
