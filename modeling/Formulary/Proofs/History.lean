import Formulary.Formula
import Formulary.Proofs.Reading.Compiles

/-!
# Formulary.Proofs.History

A formula does not remember how it came to be what it is.

All that matters of a formula is its `Content`: the expression that was parsed
last, the registry, the limit of nesting for the next text, and what is bound to
each name. Every call on a formula changes the content in a way that does not
depend on anything else (`Formula.content_call`), and evaluating gives what the
content says (`Formula.evaluate_eq`): slots, the evaluator and the options of
compiling have no part in it.

The invariant is that the evaluator, if there is one, fits the expression, with
the registry and the table as they are now (`Formula.Current`).
-/

namespace Formulary

variable {σ : Type}

/-! ## Calls -/

/-- A call on a formula. -/
inductive Call (σ : Type) where
  | setText (text : String)
  | withOptions (options : Options)
  | compile
  | recompile
  | setRegistry (registry : Registry σ)
  | bind (name : String) (binding : Binding σ)
  | unbind (name : String)
  | evaluate (world : σ)

/-- How a formula is made. -/
inductive Creation (σ : Type) where
  | ofText (text : String) (registry : Registry σ) (options : Options)
  | blank (registry : Registry σ) (options : Options)

/-- The formula that is made, if it can be made. -/
def Creation.formula : Creation σ → Except FormulaError (Formula σ)
  | ofText text registry options => Formula.ofText? text registry options
  | blank registry options => .ok (Formula.blank registry options)

/-- What a call leaves of the formula, be it successful or not. -/
def Formula.call (formula : Formula σ) : Call σ → Formula σ
  | .setText text => (formula.setText text).2
  | .withOptions options => formula.withOptions options
  | .compile => formula.compile.2
  | .recompile => formula.recompile.2
  | .setRegistry registry => (formula.setRegistry registry).2
  | .bind name binding => formula.bind name binding
  | .unbind name => (formula.unbind name).2
  | .evaluate world => (formula.evaluate world).2.1

/-! ## Content -/

/-- What matters of a formula. -/
structure Content (σ : Type) where
  expr? : Option Expr
  registry : Registry σ
  maxDepth : Nat
  binding? : String → Option (Binding σ)

namespace Content

/-- What a call does to the content. -/
def call (content : Content σ) : Call σ → Content σ
  | .setText text =>
    match Grammar.parse ⟨content.registry, content.maxDepth⟩ text with
    | .ok expr => { content with expr? := some expr }
    | .error _ => content
  | .withOptions options => { content with maxDepth := options.maxDepth }
  | .setRegistry registry => { content with registry }
  | .bind name binding => { content with
      binding? := fun other => if other = name then some binding else content.binding? other }
  | .unbind name => { content with
      binding? := fun other => if other = name then none else content.binding? other }
  | .compile | .recompile | .evaluate _ => content

/-- The result of evaluating in a world, and the world afterwards: there must be an expression,
it must not have a fault, and then it is interpreted. -/
def evaluate (content : Content σ) (world : σ) : Except FormulaError Float × σ :=
  match content.expr? with
  | none => (.error .notParsed, world)
  | some expr =>
    match expr.fault? content.registry with
    | some e => (.error (.compile e), world)
    | none =>
      match expr.interpret content.registry
          (fun name => Binding.readAs name (content.binding? name)) world with
      | .ok value world => (.ok value, world)
      | .error e world => (.error (.eval e), world)

end Content

/-- The content of a formula that has been made. -/
def Creation.content : Creation σ → Content σ
  | ofText text registry options =>
    ⟨(Grammar.parse ⟨registry, options.maxDepth⟩ text).toOption, registry, options.maxDepth,
      fun _ => none⟩
  | blank registry options => ⟨none, registry, options.maxDepth, fun _ => none⟩

namespace Formula

/-- What matters of the formula. -/
def content (formula : Formula σ) : Content σ :=
  ⟨formula.expr?, formula.registry, formula.options.maxDepth, formula.variables.binding?⟩

/-- The evaluator, if there is one, fits the expression, with the registry and the table as they
are now. -/
def Current (formula : Formula σ) : Prop :=
  ∀ expr evaluator, formula.stage = .compiled expr evaluator →
    evaluator.Fits formula.registry expr formula.variables.slotNames

variable {formula : Formula σ}

/-! ## Compiling -/

/-- An expression with a fault is refused, and the variables before the fault have been given
slots. -/
theorem compile_of_fault {expr : Expr} {e : CompileError} (hstage : formula.stage = .parsed expr)
    (h : expr.fault? formula.registry = some e) :
    formula.compile = (.error (.compile e), { formula with
      «variables» := formula.variables.reserveAll (expr.reached formula.registry) }) := by
  simp only [compile, hstage, Expr.compile_eq_error h]

/-- An expression without a fault is compiled, and all its variables have slots. -/
theorem compile_of_faultless {expr : Expr} (hstage : formula.stage = .parsed expr)
    (h : expr.fault? formula.registry = none) :
    ∃ evaluator, formula.compile = (.ok (), { formula with
        «variables» := formula.variables.reserveAll (expr.reached formula.registry)
        stage := .compiled expr evaluator }) ∧
      evaluator.Fits formula.registry expr
        (formula.variables.reserveAll (expr.reached formula.registry)).slotNames := by
  obtain ⟨evaluator, hcompile, fits⟩ :=
    @Expr.compile_eq_ok σ formula.registry formula.options.folding formula.variables expr h
  exact ⟨evaluator, by simp only [compile, hstage, hcompile], fits⟩

/-- Reserving slots is no change of content. -/
theorem content_reserveAll (names : List String) {stage : Stage σ}
    (hexpr : stage.expr? = formula.expr?) :
    content { formula with «variables» := formula.variables.reserveAll names, stage } =
      formula.content := by
  simp only [content, expr?, hexpr]
  congr 1
  funext name
  exact Variables.binding?_reserveAll names

theorem content_compile : formula.compile.2.content = formula.content := by
  cases hstage : formula.stage with
  | blank => simp only [compile, hstage]
  | compiled expr evaluator => simp only [compile, hstage]
  | parsed expr =>
    cases hfault : expr.fault? formula.registry with
    | some e =>
      rw [compile_of_fault hstage hfault]
      exact content_reserveAll _ rfl
    | none =>
      obtain ⟨evaluator, hcompile, -⟩ := compile_of_faultless hstage hfault
      rw [hcompile]
      exact content_reserveAll _ (by rw [expr?, hstage]; rfl)

/-- Without an evaluator there is nothing to fit. -/
theorem current_of_parsed {expr : Expr} (hstage : formula.stage = .parsed expr) :
    formula.Current := by
  intro other evaluator hcompiled
  rw [hstage] at hcompiled
  contradiction

theorem Current.compile (h : formula.Current) : formula.compile.2.Current := by
  cases hstage : formula.stage with
  | blank => simpa only [Formula.compile, hstage] using h
  | compiled expr evaluator => simpa only [Formula.compile, hstage] using h
  | parsed expr =>
    cases hfault : expr.fault? formula.registry with
    | some e =>
      rw [compile_of_fault hstage hfault]
      exact current_of_parsed hstage
    | none =>
      obtain ⟨evaluator, hcompile, fits⟩ := compile_of_faultless hstage hfault
      rw [hcompile]
      intro other evaluator' hcompiled
      cases hcompiled
      exact fits

theorem content_compileIfEager : formula.compileIfEager.2.content = formula.content := by
  unfold compileIfEager
  split
  · exact content_compile
  · rfl

theorem Current.compileIfEager (h : formula.Current) : formula.compileIfEager.2.Current := by
  unfold Formula.compileIfEager
  split
  · exact h.compile
  · exact h

/-! ## One call -/

/-- Setting a text does to the content what it should: a text that is not read leaves it alone. -/
theorem content_setText (formula : Formula σ) (text : String) :
    (formula.setText text).2.content = formula.content.call (.setText text) := by
  unfold setText Content.call
  simp only [content]
  cases Grammar.parse ⟨formula.registry, formula.options.maxDepth⟩ text with
  | error e => rfl
  | ok expr =>
    refine content_compileIfEager.trans ?_
    simp only [content, expr?, Stage.expr?]
    congr 1
    funext name
    exact Variables.binding?_releaseUnbound

theorem content_recompile : formula.recompile.2.content = formula.content := by
  refine content_compileIfEager.trans ?_
  simp only [content, expr?]
  cases formula.stage <;> rfl

theorem content_bind (name : String) (binding : Binding σ) :
    (formula.bind name binding).content = formula.content.call (.bind name binding) := by
  simp only [bind, content, Content.call]
  congr 1
  funext other
  exact Variables.binding?_bind

theorem content_unbind (name : String) :
    (formula.unbind name).2.content = formula.content.call (.unbind name) := by
  simp only [unbind, content, Content.call]
  congr 1
  funext other
  exact Variables.binding?_unbind

/-- Evaluating does to the formula what compiling does. -/
theorem evaluate_snd (world : σ) : (formula.evaluate world).2.1 = formula.compile.2 := by
  unfold evaluate
  split
  · next hcompile => rw [hcompile]
  · next hcompile =>
    rw [hcompile]
    split
    · split <;> rfl
    · rfl

/-- What a call does to the content of a formula depends on the content alone. -/
theorem content_call (formula : Formula σ) (call : Call σ) :
    (formula.call call).content = formula.content.call call := by
  cases call with
  | setText text => exact content_setText formula text
  | withOptions options => rfl
  | compile => exact content_compile
  | recompile => exact content_recompile
  | setRegistry registry => exact content_recompile
  | bind name binding => exact content_bind name binding
  | unbind name => exact content_unbind name
  | evaluate world =>
    rw [Formula.call, evaluate_snd]
    exact content_compile

theorem Current.setText (h : formula.Current) (text : String) :
    (formula.setText text).2.Current := by
  unfold Formula.setText
  split
  · exact h
  · next expr _ => exact (current_of_parsed rfl).compileIfEager

theorem Current.recompile (formula : Formula σ) : formula.recompile.2.Current := by
  apply Current.compileIfEager
  intro expr evaluator hcompiled
  cases hstage : formula.stage <;> simp [hstage, Stage.withoutEvaluator] at hcompiled

/-- An evaluator stays current when the table is given more slots behind those that there are. -/
theorem Current.of_slotNames {table : Variables σ} (h : formula.Current)
    (extended : formula.variables.slotNames <+: table.slotNames) :
    Current { formula with «variables» := table } :=
  fun expr evaluator hcompiled => (h expr evaluator hcompiled).extend extended

/-- What one call preserves. -/
theorem Current.call (h : formula.Current) (call : Call σ) : (formula.call call).Current := by
  cases call with
  | setText text => exact h.setText text
  | withOptions options => exact h
  | compile => exact h.compile
  | recompile => exact Current.recompile formula
  | setRegistry registry => exact Current.recompile { formula with registry }
  | bind name binding =>
    apply h.of_slotNames
    rw [Variables.slotNames_bind]
    exact Variables.slotNames_prefix_reserve
  | unbind name =>
    apply h.of_slotNames
    show formula.variables.slotNames <+: (formula.variables.unbind name).2.slotNames
    simp only [Variables.slotNames_unbind, List.prefix_rfl]
  | evaluate world =>
    rw [Formula.call, evaluate_snd]
    exact h.compile

/-! ## Evaluating -/

/-- With an evaluator that fits, the expression is interpreted. -/
theorem evaluate_of_fits {compiled : Formula σ} {expr : Expr} {evaluator : Evaluator σ}
    (hcompile : formula.compile = (.ok (), compiled))
    (hstage : compiled.stage = .compiled expr evaluator)
    (fits : evaluator.Fits compiled.registry expr compiled.variables.slotNames) (world : σ) :
    ((formula.evaluate world).1, (formula.evaluate world).2.2) =
      compiled.content.evaluate world := by
  have hexpr : compiled.content.expr? = some expr := by
    simp only [content, expr?, hstage]
    rfl
  have hregistry : expr.fault? compiled.content.registry = none := fits.faultless
  have heval : evaluator.evaluate compiled.variables world =
      expr.interpret compiled.content.registry
        (fun name => Binding.readAs name (compiled.content.binding? name)) world :=
    congrFun fits.evaluate world
  simp only [evaluate, Content.evaluate, hcompile, hstage, hexpr, hregistry, ← heval]
  cases evaluator.evaluate compiled.variables world <;> rfl

/-- A formula evaluates as its content says. -/
theorem Current.evaluate (h : formula.Current) (world : σ) :
    ((formula.evaluate world).1, (formula.evaluate world).2.2) =
      formula.content.evaluate world := by
  rw [← content_compile]
  cases hstage : formula.stage with
  | blank =>
    have hcompile : formula.compile = (.error .notParsed, formula) := by
      simp only [Formula.compile, hstage]
    have hexpr : formula.content.expr? = none := by
      simp only [content, expr?, hstage]
      rfl
    simp only [Formula.evaluate, Content.evaluate, hcompile, hexpr]
  | compiled expr evaluator =>
    have hcompile : formula.compile = (.ok (), formula) := by simp only [Formula.compile, hstage]
    rw [evaluate_of_fits hcompile hstage (h expr evaluator hstage), hcompile]
  | parsed expr =>
    cases hfault : expr.fault? formula.registry with
    | some e =>
      have hcompile := compile_of_fault hstage hfault
      have hexpr : formula.expr? = some expr := by
        rw [expr?, hstage]
        rfl
      simp only [content_compile]
      simp only [Formula.evaluate, Content.evaluate, hcompile, content, hexpr, hfault]
    | none =>
      obtain ⟨evaluator, hcompile, fits⟩ := compile_of_faultless hstage hfault
      rw [evaluate_of_fits hcompile rfl fits, hcompile]

/-! ## Whole histories -/

/-- A run of calls does to the content what the calls do to it one after the other. -/
theorem content_history (formula : Formula σ) (calls : List (Call σ)) :
    (calls.foldl call formula).content = calls.foldl Content.call formula.content := by
  induction calls generalizing formula with
  | nil => rfl
  | cons first calls ih => rw [List.foldl_cons, List.foldl_cons, ih, content_call]

/-- After any calls the evaluator is current. -/
theorem Current.history (h : formula.Current) (calls : List (Call σ)) :
    (calls.foldl Formula.call formula).Current := by
  induction calls generalizing formula with
  | nil => exact h
  | cons first calls ih => exact ih (h.call first)

/-- A text is taken if it parses: what is parsed compiles, so a formula that compiles as soon as
possible takes it, too. -/
theorem setText_fst (formula : Formula σ) (text : String) : (formula.setText text).1 =
    match Grammar.parse ⟨formula.registry, formula.options.maxDepth⟩ text with
    | .ok _ => .ok ()
    | .error e => .error (.parse e) := by
  unfold setText
  cases hparse : Grammar.parse ⟨formula.registry, formula.options.maxDepth⟩ text with
  | error e => rfl
  | ok expr =>
    have hfault : expr.fault? formula.registry = none := Grammar.fault?_of_parse hparse
    simp only [compileIfEager]
    split
    · obtain ⟨evaluator, hcompile, -⟩ := @compile_of_faultless σ { formula with
        text, «variables» := formula.variables.releaseUnbound, stage := .parsed expr } expr rfl
        hfault
      rw [hcompile]
    · rfl

/-- A formula can be made of a text if the text parses. -/
theorem exists_parse_of_ofText? {text : String} {registry : Registry σ} {options : Options}
    (made : ofText? text registry options = .ok formula) :
    ∃ expr, Grammar.parse ⟨registry, options.maxDepth⟩ text = .ok expr := by
  cases hparse : Grammar.parse ⟨registry, options.maxDepth⟩ text with
  | ok expr => exact ⟨expr, rfl⟩
  | error e => simp [ofText?, setText, blank, hparse] at made

theorem current_blank (registry : Registry σ) (options : Options) :
    (blank registry options).Current := by
  intro expr evaluator hcompiled
  contradiction

end Formula

/-- What is created is current, and its content is what was asked for. -/
theorem Creation.made {creation : Creation σ} {formula : Formula σ}
    (h : creation.formula = .ok formula) :
    formula.Current ∧ formula.content = creation.content := by
  cases creation with
  | blank registry options =>
    cases h
    exact ⟨Formula.current_blank registry options, rfl⟩
  | ofText text registry options =>
    have hresult := Formula.setText_fst (Formula.blank registry options) text
    have hcontent := Formula.content_setText (Formula.blank registry options) text
    have hcurrent := (Formula.current_blank registry options).setText text
    simp only [Creation.formula, Formula.ofText?] at h
    cases hset : (Formula.blank registry options).setText text with
    | mk result made =>
      rw [hset] at h hresult hcontent hcurrent
      cases result with
      | error e => contradiction
      | ok done =>
        cases h
        refine ⟨hcurrent, hcontent.trans ?_⟩
        simp only [Formula.blank] at hresult
        simp only [Formula.blank, Formula.content, Formula.expr?, Stage.expr?, Content.call,
          Creation.content]
        cases hparse : Grammar.parse ⟨registry, options.maxDepth⟩ text with
        | ok expr => rfl
        | error e =>
          rw [hparse] at hresult
          contradiction

/-- **Histories do not matter.** However a formula has been made and whatever calls it has been
through, with or without success, it holds what its content says: the expression of the last text
that was taken, which is a text that parses, the registry and the limit installed last, and the
last bindings by name. To evaluate it is to interpret that expression with that registry and those
bindings, or to fail if there is none or it has a fault. -/
theorem Formula.evaluate_history (creation : Creation σ) (formula : Formula σ)
    (made : creation.formula = .ok formula) (calls : List (Call σ)) :
    (calls.foldl Formula.call formula).content = calls.foldl Content.call creation.content ∧
    (∀ text, ((calls.foldl Formula.call formula).setText text).1.isOk =
      (Grammar.parse ⟨(calls.foldl Content.call creation.content).registry,
        (calls.foldl Content.call creation.content).maxDepth⟩ text).isOk) ∧
    ∀ world, (((calls.foldl Formula.call formula).evaluate world).1,
        ((calls.foldl Formula.call formula).evaluate world).2.2) =
      (calls.foldl Content.call creation.content).evaluate world := by
  obtain ⟨hcurrent, hcontent⟩ := Creation.made made
  have hlast : (calls.foldl Formula.call formula).content =
      calls.foldl Content.call creation.content := by
    rw [Formula.content_history, hcontent]
  rw [← hlast]
  refine ⟨rfl, fun text => ?_, (hcurrent.history calls).evaluate⟩
  rw [Formula.setText_fst, Formula.content]
  cases Grammar.parse ⟨(calls.foldl Formula.call formula).registry,
    (calls.foldl Formula.call formula).options.maxDepth⟩ text <;> rfl

/-- The second of the later texts is taken, and so it is the second supplier that is asked. -/
theorem Formula.evaluate_history_second_text :
    ∃ formula : Formula (List String),
      (Creation.ofText "a" Registry.empty Options.standard).formula = .ok formula ∧
      (([.bind "a" (.dynamic fun world => (0, world ++ ["a"])), .evaluate [], .setText "b)",
        .setText "(b)", .withOptions ⟨.eager, false, 1⟩, .recompile, .unbind "a",
        .bind "b" (.dynamic fun world => (1, world ++ ["b"]))].foldl Formula.call
          formula).evaluate []).2.2 = ["b"] := by
  have makes : (Creation.ofText "a" (Registry.empty : Registry (List String))
      Options.standard).formula.isOk = true := by
    decide +kernel
  cases made : (Creation.ofText "a" (Registry.empty : Registry (List String))
      Options.standard).formula with
  | error e => simp [made, Except.isOk, Except.toBool] at makes
  | ok formula =>
    refine ⟨formula, rfl, ?_⟩
    have hevaluate := (Formula.evaluate_history _ formula made
      [.bind "a" (.dynamic fun world => (0, world ++ ["a"])), .evaluate [], .setText "b)",
        .setText "(b)", .withOptions ⟨.eager, false, 1⟩, .recompile, .unbind "a",
        .bind "b" (.dynamic fun world => (1, world ++ ["b"]))]).2.2 []
    refine (congrArg Prod.snd hevaluate).trans ?_
    decide +kernel

end Formulary
