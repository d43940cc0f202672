import Formulary.Formula
import Formulary.Text.Quoted

/-!
# Formulary.Inspect

One-line descriptions of values for inspection, such as
`Slot(0)` or `FormulaOptions { compile_mode: Lazy, .. }`.

Texts are quoted, numbers have a fraction, and what cannot be shown, such as
the body of an operator, is two dots.
-/

namespace Formulary

variable {σ : Type}

/-! ## Layout -/

/-- Items between brackets. -/
def bracketed (left right : String) (items : List String) : String :=
  left ++ ", ".intercalate items ++ right

/-- A list of items. -/
def listing (items : List String) : String := bracketed "[" "]" items

/-- A value with named fields; the last of them may be two dots. -/
def record (name : String) (fields : List String) : String :=
  name ++ bracketed " \x7b " " \x7d" fields

/-- A named field of a value. -/
def field (name value : String) : String := name ++ ": " ++ value

/-- A value with one field that has no name. -/
def wrapped (name value : String) : String := bracketed (name ++ "(") ")" [value]

/-- A value that may be absent. -/
def optional (value : Option String) : String :=
  match value with
  | some value => wrapped "Some" value
  | none => "None"

/-- What is not shown. -/
def hidden : String := ".."

def inspectBool (b : Bool) : String := if b then "true" else "false"

/-! ## Operators -/

def Arity.inspect : Arity → String
  | .unary => "Unary"
  | .binary => "Binary"
  | .ternary => "Ternary"
  | .function => "NAry"

/-- The place of an arity among those of one symbol. -/
def Arity.rank : Arity → Nat
  | .unary => 0
  | .binary => 1
  | .ternary => 2
  | .function => 3

def Associativity.inspect : Associativity → String
  | .left => "Left"
  | .right => "Right"

def Implementation.inspect (implementation : Implementation σ) : String :=
  let name := implementation.arity.inspect
  match implementation with
  | .unary _ | .binary _ => wrapped name hidden
  | .ternary separator _ => record name [field "separator" (Text.quoted separator), hidden]
  | .function bounds _ =>
    record name [
      field "min_args" (toString bounds.least),
      field "max_args" (optional (bounds.most.map toString)),
      hidden]

def Operator.inspect (operator : Operator σ) : String :=
  record "OperatorDescriptor" [
    field "symbol" (Text.quoted operator.symbol),
    field "precedence" (toString operator.precedence),
    field "associativity" operator.associativity.inspect,
    field "volatile" (inspectBool operator.isVolatile),
    field "apply" operator.implementation.inspect]

/-- Keys in order of symbols, those of one symbol in order of arities. -/
def keyOrder (a b : String × Arity) : Bool :=
  a.1 < b.1 || (a.1 == b.1 && a.2.rank ≤ b.2.rank)

/-- The keys of the operators, in order. -/
def Registry.inspect (registry : Registry σ) : String :=
  let key := fun (symbol, arity) => bracketed "(" ")" [Text.quoted symbol, Arity.inspect arity]
  record "OperatorRegistry" [
    field "operators" (listing ((registry.keys.mergeSort keyOrder).map key))]

/-! ## Variables -/

def Binding.inspect : Binding σ → String
  | .static value => wrapped "Static" (floatText .exact value)
  | .dynamic _ => wrapped "Dynamic" hidden

def Slot.inspect (slot : Slot) : String := wrapped "Slot" (toString slot.index)

def Variables.inspect (table : Variables σ) : String :=
  let names := table.entries.map fun entry => Text.quoted entry.name
  let slots := table.entries.map fun entry => optional (entry.binding.map Binding.inspect)
  let index := names.zipIdx.map fun (name, i) => field name (Slot.inspect ⟨i⟩)
  record "Variables" [
    field "names" (listing names),
    field "slots" (listing slots),
    field "index" (bracketed "\x7b" "\x7d" index)]

/-! ## Formulas -/

def Evaluator.inspect (evaluator : Evaluator σ) : String :=
  record "CompiledExpr" [
    field "slots" (toString evaluator.slotCount),
    field "folded" (toString evaluator.folded),
    field "constant" (inspectBool evaluator.isConstant)]

def CompileMode.inspect : CompileMode → String
  | .onDemand => "Lazy"
  | .eager => "Eager"

def Options.inspect (options : Options) : String :=
  record "FormulaOptions" [
    field "compile_mode" options.mode.inspect,
    field "constant_folding" (inspectBool options.folding),
    field "max_nesting_depth" (toString options.maxDepth)]

def Phase.inspect : Phase → String
  | .blank => "Uninitialized"
  | .parsed => "Parsed"
  | .compiled => "Compiled"

def Formula.inspect (formula : Formula σ) : String :=
  record "Formula" [
    field "text" (Text.quoted formula.text),
    field "state" formula.phase.inspect,
    field "variables" formula.variables.inspect,
    hidden]

end Formulary
