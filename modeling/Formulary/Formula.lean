import Formulary.Builtin
import Formulary.Evaluator
import Formulary.Expr.Reading

/-!
# Formulary.Formula

Formulas: a text, what it was parsed to, and the variables it is evaluated with.

A formula is parsed when it is given a text, and compiled when it is first
evaluated, or at once in eager mode. New text or new operators discard the
evaluator; binding a variable does not. An operation that fails leaves the
formula as it was, apart from slots without bindings.
-/

namespace Formulary

variable {σ : Type}

/-! ## Options and errors -/

/-- When the evaluator of a formula is built. -/
inductive CompileMode
  /-- When it is needed. -/
  | onDemand
  /-- As soon as the text is parsed. -/
  | eager
deriving DecidableEq, Repr

/-- How a formula is parsed and compiled. -/
structure Options where
  mode : CompileMode
  /-- Operations on constants are replaced by their values. -/
  folding : Bool
  /-- The levels of nesting that a text may have. -/
  maxDepth : Nat
deriving DecidableEq, Repr

namespace Options

/-- The levels of nesting that a text may have by default. -/
def defaultMaxDepth : Nat := 128

/-- Compile on demand, with folding. -/
def standard : Options := ⟨.onDemand, true, defaultMaxDepth⟩

instance : Inhabited Options := ⟨standard⟩

end Options

/-- Why an operation on a formula failed. -/
inductive FormulaError
  | parse (e : ParseError)
  | compile (e : CompileError)
  | eval (e : EvalError)
  /-- The formula has no text yet. -/
  | notParsed
deriving DecidableEq, Repr

namespace FormulaError

/-- The wording of the error. -/
def message : FormulaError → String
  | parse e => e.message
  | compile e => e.message
  | eval e => e.message
  | notParsed => "Formula has not been given any text to parse"

/-- The byte offset in the text that the error points to, if it points to one. -/
def offset? : FormulaError → Option Nat
  | parse e => some e.offset
  | compile e => some e.offset
  | eval _ => none
  | notParsed => none

end FormulaError

/-! ## Formulas -/

/-- How far a formula has come. -/
inductive Stage (σ : Type) where
  /-- No text has been parsed. -/
  | blank
  /-- The text has been parsed. -/
  | parsed (expr : Expr)
  /-- The text has been parsed and the evaluator is built. -/
  | compiled (expr : Expr) (evaluator : Evaluator σ)

/-- The name of a stage. -/
inductive Phase
  | blank
  | parsed
  | compiled
deriving DecidableEq, Repr

namespace Stage

/-- The name of the stage. -/
def phase : Stage σ → Phase
  | blank => .blank
  | parsed _ => .parsed
  | compiled _ _ => .compiled

/-- The expression, if a text has been parsed. -/
def expr? : Stage σ → Option Expr
  | blank => none
  | parsed expr => some expr
  | compiled expr _ => some expr

/-- The stage without an evaluator. -/
def withoutEvaluator : Stage σ → Stage σ
  | compiled expr _ => parsed expr
  | stage => stage

end Stage

/-- A formula. -/
structure Formula (σ : Type) where
  text : String
  registry : Registry σ
  options : Options
  «variables» : Variables σ
  stage : Stage σ

namespace Formula

/-! ## Reading -/

/-- The name of the stage. -/
def phase (formula : Formula σ) : Phase := formula.stage.phase

/-- The expression, if a text has been parsed. -/
def expr? (formula : Formula σ) : Option Expr := formula.stage.expr?

/-- The distinct variables of the text, in order of first appearance. -/
def referenced (formula : Formula σ) : List String :=
  (formula.expr?.map Expr.variables).getD []

/-- The variables of the text that nothing is bound to. -/
def unbound (formula : Formula σ) : List String :=
  formula.referenced.filter fun name => !formula.variables.contains name

/-! ## Parsing and compiling -/

/-- Build the evaluator, unless there is one. -/
def compile (formula : Formula σ) : Except FormulaError Unit × Formula σ :=
  match formula.stage with
  | .blank => (.error .notParsed, formula)
  | .compiled _ _ => (.ok (), formula)
  | .parsed expr =>
    match expr.compile formula.registry formula.options.folding formula.variables with
    | (.ok evaluator, table) =>
      (.ok (), { formula with «variables» := table, stage := .compiled expr evaluator })
    | (.error e, table) => (.error (.compile e), { formula with «variables» := table })

/-- Build the evaluator if that is to be done as soon as possible. -/
def compileIfEager (formula : Formula σ) : Except FormulaError Unit × Formula σ :=
  if formula.options.mode = .eager ∧ formula.expr?.isSome then formula.compile
  else (.ok (), formula)

/-- Give the formula a new text, which must parse. Bindings are kept, and slots that the old
text had reserved are given up. -/
def setText (formula : Formula σ) (text : String) : Except FormulaError Unit × Formula σ :=
  match Grammar.parse ⟨formula.registry, formula.options.maxDepth⟩ text with
  | .error e => (.error (.parse e), formula)
  | .ok expr => compileIfEager { formula with
      text
      «variables» := formula.variables.releaseUnbound
      stage := .parsed expr }

/-- Discard the evaluator. -/
def recompile (formula : Formula σ) : Except FormulaError Unit × Formula σ :=
  compileIfEager { formula with stage := formula.stage.withoutEvaluator }

/-- Switch to other operators. The expression is kept, though it may have operators that are
missing now. -/
def setRegistry (formula : Formula σ) (registry : Registry σ) :
    Except FormulaError Unit × Formula σ :=
  recompile { formula with registry }

/-- Replace the options. They take effect when the formula is next parsed or compiled. -/
def withOptions (formula : Formula σ) (options : Options) : Formula σ := { formula with options }

/-! ## Making formulas -/

/-- A formula without a text. -/
def blank (registry : Registry σ) (options : Options) : Formula σ :=
  ⟨"", registry, options, .empty, .blank⟩

/-- The formula with a text, which must parse. -/
def ofText? (text : String) (registry : Registry σ) (options : Options) :
    Except FormulaError (Formula σ) :=
  match (blank registry options).setText text with
  | (.ok (), formula) => .ok formula
  | (.error e, _) => .error e

/-! ## Variables and evaluation -/

/-- Bind a variable. -/
def bind (formula : Formula σ) (name : String) (binding : Binding σ) : Formula σ :=
  { formula with «variables» := formula.variables.bind name binding }

/-- Remove what is bound to a variable and return it. -/
def unbind (formula : Formula σ) (name : String) : Option (Binding σ) × Formula σ :=
  let (binding, table) := formula.variables.unbind name
  (binding, { formula with «variables» := table })

/-- Evaluate with the bindings in force, after building the evaluator if need be. -/
def evaluate (formula : Formula σ) (world : σ) : Except FormulaError Float × Formula σ × σ :=
  match formula.compile with
  | (.error e, formula) => (.error e, formula, world)
  | (.ok (), formula) =>
    match formula.stage with
    | .compiled _ evaluator =>
      match evaluator.evaluate formula.variables world with
      | .ok value world => (.ok value, formula, world)
      | .error e world => (.error (.eval e), formula, world)
    | _ => (.error .notParsed, formula, world)

end Formula

end Formulary
