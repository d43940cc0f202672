import Formulary.Proofs.History

/-!
# Formulary.Proofs.SetText

A new text is taken as a whole or not at all.

The text, the stage and the slots of a formula are replaced before the evaluator is
built, so nothing could be kept if building it failed. It does not fail: what parses
with a registry compiles with it, whatever the table holds and with folding or without
(`Grammar.compiles_of_parse`). What is left is the error of parsing, which comes before
anything is replaced.
-/

namespace Formulary

variable {σ : Type}

/-- What is parsed with a registry compiles with it. -/
theorem Grammar.compiles_of_parse {dialect : Dialect σ} {text : String} {expr : Expr}
    (h : Grammar.parse dialect text = .ok expr) (folding : Bool) (table : Variables σ) :
    ∃ evaluator after, expr.compile dialect.registry folding table = (.ok evaluator, after) ∧
      evaluator.Fits dialect.registry expr after.slotNames := by
  obtain ⟨evaluator, hcompile, fits⟩ :=
    @Expr.compile_eq_ok σ dialect.registry folding table expr (Grammar.fault?_of_parse h)
  exact ⟨evaluator, _, hcompile, fits⟩

namespace Formula

/-- What a formula is after it has taken a text that parses to the expression. -/
structure Takes (formula : Formula σ) (text : String) (expr : Expr) (after : Formula σ) :
    Prop where
  text : after.text = text
  parsed : after.expr? = some expr
  /-- In eager mode the evaluator is built, of this expression and for this table. -/
  stage : match formula.options.mode with
    | .eager => ∃ evaluator, after.stage = .compiled expr evaluator ∧
        evaluator.Fits after.registry expr after.variables.slotNames
    | .onDemand => after.stage = .parsed expr
  phase : after.phase = match formula.options.mode with
    | .eager => .compiled
    | .onDemand => .parsed
  options : after.options = formula.options
  registry : after.registry = formula.registry
  bindings : ∀ name, after.variables.binding? name = formula.variables.binding? name

/-- The formula with the text and the expression, before it is known whether it compiles. -/
def replaceText (formula : Formula σ) (text : String) (expr : Expr) : Formula σ :=
  { formula with
    text
    «variables» := formula.variables.releaseUnbound
    stage := .parsed expr }

variable {formula : Formula σ} {text : String} {expr : Expr}

/-- A text that is read is put in place and compiled if the mode is eager. -/
theorem setText_of_parse
    (h : Grammar.parse ⟨formula.registry, formula.options.maxDepth⟩ text = .ok expr) :
    formula.setText text = (formula.replaceText text expr).compileIfEager := by
  simp only [setText, h, replaceText]

/-- On demand a text is put in place, and nothing else happens. -/
theorem takes_of_onDemand (hmode : formula.options.mode = .onDemand) :
    (formula.replaceText text expr).compileIfEager = (.ok (), formula.replaceText text expr) ∧
      formula.Takes text expr (formula.replaceText text expr) := by
  refine ⟨?_, ?_⟩
  · simp [compileIfEager, replaceText, hmode]
  · exact {
      text := rfl
      parsed := rfl
      stage := by rw [hmode]; rfl
      phase := by rw [hmode]; rfl
      options := rfl
      registry := rfl
      bindings := fun name => Variables.binding?_releaseUnbound }

/-- In eager mode what is read is compiled, which cannot fail. -/
theorem takes_of_eager (hmode : formula.options.mode = .eager)
    (h : Grammar.parse ⟨formula.registry, formula.options.maxDepth⟩ text = .ok expr) :
    ∃ after, (formula.replaceText text expr).compileIfEager = (.ok (), after) ∧
      formula.Takes text expr after := by
  obtain ⟨evaluator, hcompile, fits⟩ :=
    @compile_of_faultless σ (formula.replaceText text expr) expr rfl (Grammar.fault?_of_parse h)
  have hstart : (formula.replaceText text expr).compileIfEager =
      (formula.replaceText text expr).compile :=
    if_pos ⟨hmode, rfl⟩
  refine ⟨_, hstart.trans hcompile, ?_⟩
  exact {
    text := rfl
    parsed := rfl
    stage := by rw [hmode]; exact ⟨evaluator, rfl, fits⟩
    phase := by rw [hmode]; rfl
    options := rfl
    registry := rfl
    bindings := fun name =>
      (Variables.binding?_reserveAll _).trans Variables.binding?_releaseUnbound }

/-- **All or nothing**: a text that parses is taken, in both modes, since what parses compiles,
whatever the table holds; and any other text is refused with the error of parsing and leaves
everything as it is. -/
theorem setText_atomic (formula : Formula σ) (text : String) :
    match Grammar.parse ⟨formula.registry, formula.options.maxDepth⟩ text with
    | .ok expr =>
      (∃ after, formula.setText text = (.ok (), after) ∧ formula.Takes text expr after) ∧
      ∀ (folding : Bool) (table : Variables σ), ∃ evaluator after,
        expr.compile formula.registry folding table = (.ok evaluator, after) ∧
        evaluator.Fits formula.registry expr after.slotNames
    | .error e => formula.setText text = (.error (.parse e), formula) := by
  cases hparse : Grammar.parse ⟨formula.registry, formula.options.maxDepth⟩ text with
  | error e => simp only [setText, hparse]
  | ok expr =>
    refine ⟨?_, Grammar.compiles_of_parse hparse⟩
    rw [setText_of_parse hparse]
    cases hmode : formula.options.mode with
    | onDemand => exact ⟨_, takes_of_onDemand hmode⟩
    | eager => exact takes_of_eager hmode hparse

end Formula

end Formulary
