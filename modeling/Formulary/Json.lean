import Formulary.Expr

/-!
# Formulary.Json

JSON values, their indented text, and the JSON of an expression.
-/

namespace Formulary

/-- A JSON value. -/
inductive Json where
  | null
  | number (value : Float)
  | count (value : Nat)
  | string (text : String)
  | array (items : List Json)
  | object (fields : List (String × Json))

namespace Json

/-- One character of a JSON string. -/
def escape (c : Char) : List Char :=
  match c with
  | '"' => ['\\', '"']
  | '\\' => ['\\', '\\']
  | '\n' => ['\\', 'n']
  | '\r' => ['\\', 'r']
  | '\t' => ['\\', 't']
  | '\x08' => ['\\', 'b']
  | '\x0c' => ['\\', 'f']
  | c =>
    if c < ' ' then
      let digits := Nat.toDigits 16 c.toNat
      ['\\', 'u'] ++ List.replicate (4 - digits.length) '0' ++ digits
    else [c]

/-- A JSON string. -/
def quoted (text : String) : String :=
  String.ofList ('"' :: (text.toList.flatMap escape ++ ['"']))

/-- A line break and the indentation of a level. -/
def newline (level : Nat) : String := "\n" ++ String.ofList (List.replicate (2 * level) ' ')

mutual

/-- The text of a value, one item or field a line, each level indented by two spaces. What is
not finite is null, as JSON has no number for it. -/
def text (level : Nat) : Json → String
  | null => "null"
  | number value => if value.isFinite then floatText .json value else "null"
  | count value => toString value
  | string text => quoted text
  | array [] => "[]"
  | array (item :: items) =>
    "[" ++ newline (level + 1) ++ item.text (level + 1) ++ itemsText (level + 1) items
      ++ newline level ++ "]"
  | object [] => "\x7b\x7d"
  | object (field :: fields) =>
    "\x7b" ++ newline (level + 1) ++ fieldText (level + 1) field
      ++ fieldsText (level + 1) fields ++ newline level ++ "\x7d"

/-- The items after the first. -/
def itemsText (level : Nat) : List Json → String
  | [] => ""
  | item :: items => "," ++ newline level ++ item.text level ++ itemsText level items

/-- A name and its value. -/
def fieldText (level : Nat) : String × Json → String
  | (name, value) => quoted name ++ ": " ++ value.text level

/-- The fields after the first. -/
def fieldsText (level : Nat) : List (String × Json) → String
  | [] => ""
  | field :: fields => "," ++ newline level ++ fieldText level field ++ fieldsText level fields

end

end Json

namespace Expr

mutual

/-- The expression as JSON: an object whose one field is named for the kind of node. -/
def toJson : Expr → Json
  | constant value => .object [("Constant", .number value)]
  | var name => .object [("Variable", .string name)]
  | unary symbol operand offset => .object [("Unary", .object [
      ("op", .string symbol),
      ("operand", operand.toJson),
      ("offset", .count offset)])]
  | binary symbol left right offset => .object [("Binary", .object [
      ("op", .string symbol),
      ("left", left.toJson),
      ("right", right.toJson),
      ("offset", .count offset)])]
  | ternary symbol condition ifTrue ifFalse offset => .object [("Ternary", .object [
      ("op", .string symbol),
      ("condition", condition.toJson),
      ("if_true", ifTrue.toJson),
      ("if_false", ifFalse.toJson),
      ("offset", .count offset)])]
  | call name args offset => .object [("Call", .object [
      ("name", .string name),
      ("args", .array (toJsonAll args)),
      ("offset", .count offset)])]

/-- A list of expressions as JSON. -/
def toJsonAll : List Expr → List Json
  | [] => []
  | arg :: args => arg.toJson :: toJsonAll args

end

end Expr

end Formulary
