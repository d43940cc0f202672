import Formulary.Proofs.Folding
import Formulary.Proofs.History

/-!
# Formulary.Proofs.Recovery

A call that fails loses nothing.

Every call that can fail after parsing compiles. Compiling fails because there is no text or
because the expression has a fault, and whatever it does to the formula is to reserve empty
slots and to change the stage (`Formula.exists_compile`). What the other calls leave of a
formula follows from that (`Formula.failed_of_error?`).

So failing calls change nothing of the content but the registry (`Content.Matches`). When
another registry is installed, the contents are equal again, and so is everything that is
evaluated from then on.
-/

namespace Formulary

variable {σ : Type}

/-! ## Errors -/

/-- The error of a result. -/
def FormulaError.of? {α : Type} : Except FormulaError α → Option FormulaError
  | .ok _ => none
  | .error e => some e

theorem FormulaError.of?_eq_some {α : Type} {result : Except FormulaError α} {e : FormulaError}
    (h : FormulaError.of? result = some e) : result = .error e := by
  cases result with
  | ok value => contradiction
  | error e' => cases h; rfl

/-- The stage that a formula is in after the error, if it was in this one before. -/
def FormulaError.phase (before : Phase) : FormulaError → Phase
  | parse _ => before
  | notParsed => .blank
  | compile _ => .parsed
  | eval _ => .compiled

/-- The registry that a call installs, whether it fails or not. -/
def Call.registry? : Call σ → Option (Registry σ)
  | .setRegistry registry => some registry
  | _ => none

namespace Formula

/-- The error that a call fails with, if it fails. -/
def error? (formula : Formula σ) : Call σ → Option FormulaError
  | .setText text => FormulaError.of? (formula.setText text).1
  | .compile => FormulaError.of? formula.compile.1
  | .recompile => FormulaError.of? formula.recompile.1
  | .setRegistry registry => FormulaError.of? (formula.setRegistry registry).1
  | .evaluate world => FormulaError.of? (formula.evaluate world).1
  | .withOptions _ | .bind _ _ | .unbind _ => none

/-- One of the calls, made one after the other, gives the formula a new text. -/
def TakesText (formula : Formula σ) : List (Call σ) → Prop
  | [] => False
  | call :: calls =>
    (∃ text, call = .setText text ∧ (formula.setText text).1 = .ok ()) ∨
      (formula.call call).TakesText calls

/-- The calls without those that fail when they are made one after the other. -/
def succeeding (formula : Formula σ) : List (Call σ) → List (Call σ)
  | [] => []
  | call :: calls =>
    if (formula.error? call).isSome then (formula.call call).succeeding calls
    else call :: (formula.call call).succeeding calls

/-- What one formula holds the other holds, too: text, expression, options and bindings. It may
have more slots, which are empty and for variables of the expression. -/
structure Spares (before after : Formula σ) : Prop where
  text : after.text = before.text
  expr? : after.expr? = before.expr?
  options : after.options = before.options
  names : after.variables.names = before.variables.names
  bindings : ∀ name, after.variables.binding? name = before.variables.binding? name
  slots : ∃ added : List String,
    after.variables.entries = before.variables.entries ++ added.map (⟨·, none⟩) ∧
    ∀ name ∈ added, name ∈ before.referenced

/-- Why a call failed. -/
def Reason (before : Formula σ) (call : Call σ) (after : Formula σ) : FormulaError → Prop
  -- The text was not taken and nothing has changed.
  | .parse _ => ∃ text, call = .setText text ∧ after = before
  | .notParsed => before.expr? = none
  -- The expression does not compile with the registry that is installed now. Nothing has been
  -- done to the world, not even for folding, so no supplier has been read.
  | .compile e => ∃ expr, before.expr? = some expr ∧
      (∀ world, expr.compileIn after.registry before.options.folding before.variables world =
        ((.error e, after.variables), world)) ∧
      ∀ world, call = .evaluate world → (before.evaluate world).2.2 = world
  -- The evaluator was there and has been run.
  | .eval e => ∃ expr evaluator world last, before.expr? = some expr ∧
      call = .evaluate world ∧
      after.stage = .compiled expr evaluator ∧
      evaluator.evaluate after.variables world = .error e last ∧
      (before.evaluate world).2.2 = last

/-- What is known after a call that failed. -/
structure Failed (before : Formula σ) (call : Call σ) (e : FormulaError) : Prop where
  spares : before.Spares (before.call call)
  phase : (before.call call).phase = e.phase before.phase
  registry : (before.call call).registry = call.registry?.getD before.registry
  reason : before.Reason call (before.call call) e

end Formula

/-! ## Slots that are reserved -/

namespace Variables

variable {table : Variables σ} {names : List String}

/-- Reserving adds empty slots behind the others. -/
theorem exists_entries_reserveAll (table : Variables σ) (names : List String) :
    ∃ added : List String,
      (table.reserveAll names).entries = table.entries ++ added.map (⟨·, none⟩) ∧
      ∀ name ∈ added, name ∈ names := by
  induction names generalizing table with
  | nil => exact ⟨[], by simp [reserveAll], by simp⟩
  | cons name names ih =>
    obtain ⟨added, hentries, within⟩ := ih (table.reserve name)
    have first : table.reserveAll (name :: names) = (table.reserve name).reserveAll names := rfl
    by_cases taken : name ∈ table.slotNames
    · rw [reserve_of_mem taken] at hentries first
      exact ⟨added, by rw [first, hentries], by grind⟩
    · rw [entries_reserve_of_not_mem taken] at hentries
      exact ⟨name :: added, by simp [first, hentries], by grind⟩

/-- Slots with nothing in them do not change which names are bound. -/
theorem names_of_entries {other : Variables σ} {added : List String}
    (h : other.entries = table.entries ++ added.map (⟨·, none⟩)) : other.names = table.names := by
  have empty : (added.map fun name => (⟨name, none⟩ : Entry σ)).filter (·.binding.isSome) = [] := by
    simp [List.filter_eq_nil_iff]
  simp [Variables.names, h, List.filter_append, empty]

end Variables

/-- What is reached are variables of the expression. -/
theorem Expr.mem_occurrences_of_mem_reached {registry : Registry σ} {expr : Expr} {name : String}
    (h : name ∈ expr.reached registry) : name ∈ expr.occurrences := by
  rw [← filterMap_ownName?_nodes]
  exact ((List.takeWhile_sublist _).filterMap _).subset h

/-! ## What compiling leaves -/

namespace Formula

variable {formula after : Formula σ} {e : FormulaError}

/-- Whether it fails or not, compiling reserves slots for variables of the expression, and the
evaluator is all that it adds. -/
theorem exists_compile (formula : Formula σ) : ∃ names stage,
    formula.compile.2 = { formula with
      «variables» := formula.variables.reserveAll names, stage } ∧
    stage.expr? = formula.expr? ∧ ∀ name ∈ names, name ∈ formula.referenced := by
  cases hstage : formula.stage with
  | blank =>
    have same : formula.compile.2 = formula := by simp only [compile, hstage]
    exact ⟨[], formula.stage, by rw [same]; rfl, rfl, by simp⟩
  | compiled expr evaluator =>
    have same : formula.compile.2 = formula := by simp only [compile, hstage]
    exact ⟨[], formula.stage, by rw [same]; rfl, rfl, by simp⟩
  | parsed expr =>
    have hexpr : formula.expr? = some expr := by simp [expr?, hstage, Stage.expr?]
    have within : ∀ name ∈ expr.reached formula.registry, name ∈ formula.referenced := by
      intro name member
      simpa [referenced, hexpr, Expr.variables] using Expr.mem_occurrences_of_mem_reached member
    cases hfault : expr.fault? formula.registry with
    | some e => exact ⟨_, _, by rw [compile_of_fault hstage hfault], rfl, within⟩
    | none =>
      obtain ⟨evaluator, hcompile, -⟩ := compile_of_faultless hstage hfault
      exact ⟨_, _, by rw [hcompile], by simp [hexpr, Stage.expr?], within⟩

/-- Compiling spares text, tree, options and bindings, be it successful or not. -/
theorem spares_compile (formula : Formula σ) : formula.Spares formula.compile.2 := by
  obtain ⟨names, stage, hcompile, hexpr, within⟩ := exists_compile formula
  obtain ⟨added, hentries, reserved⟩ := formula.variables.exists_entries_reserveAll names
  rw [hcompile]
  exact {
    text := rfl
    expr? := hexpr
    options := rfl
    names := Variables.names_of_entries hentries
    bindings := fun name => Variables.binding?_reserveAll names
    slots := ⟨added, hentries, fun name member => within name (reserved name member)⟩ }

/-- The registry and the evaluator are not among what is spared. -/
theorem Spares.of_start {registry : Registry σ} {stage : Stage σ}
    (hexpr : stage.expr? = formula.expr?)
    (h : Spares { formula with registry, stage } after) : formula.Spares after := by
  obtain ⟨added, hentries, within⟩ := h.slots
  have same : ({ formula with registry, stage } : Formula σ).referenced = formula.referenced := by
    simp only [referenced, Formula.expr?, hexpr]
  rw [same] at within
  exact {
    text := h.text
    expr? := h.expr?.trans hexpr
    options := h.options
    names := h.names
    bindings := h.bindings
    slots := ⟨added, hentries, within⟩ }

/-- Compiling fails for want of a text or for a fault of the expression. -/
theorem compile_error (h : formula.compile.1 = .error e) :
    (formula.stage = .blank ∧ e = .notParsed ∧ formula.compile.2 = formula) ∨
      ∃ expr e', formula.stage = .parsed expr ∧ expr.fault? formula.registry = some e' ∧
        e = .compile e' := by
  cases hstage : formula.stage with
  | blank =>
    have hcompile : formula.compile = (.error .notParsed, formula) := by
      simp only [compile, hstage]
    rw [hcompile] at h ⊢
    exact .inl ⟨rfl, by cases h; rfl, rfl⟩
  | compiled expr evaluator => simp [compile, hstage] at h
  | parsed expr =>
    cases hfault : expr.fault? formula.registry with
    | some e' =>
      rw [compile_of_fault hstage hfault] at h
      exact .inr ⟨expr, e', rfl, hfault, by cases h; rfl⟩
    | none =>
      obtain ⟨evaluator, hcompile, -⟩ := compile_of_faultless hstage hfault
      simp [hcompile] at h

/-- After compiling there is an evaluator. -/
theorem compile_ok (h : formula.compile.1 = .ok ()) :
    ∃ expr evaluator, formula.compile.2.stage = .compiled expr evaluator := by
  cases hstage : formula.stage with
  | blank => simp [compile, hstage] at h
  | compiled expr evaluator => exact ⟨expr, evaluator, by simp only [compile, hstage]⟩
  | parsed expr =>
    cases hfault : expr.fault? formula.registry with
    | some e => simp [compile_of_fault hstage hfault] at h
    | none =>
      obtain ⟨evaluator, hcompile, -⟩ := compile_of_faultless hstage hfault
      exact ⟨expr, evaluator, by rw [hcompile]⟩

/-! ## What a failing call leaves -/

section Failed

variable {call : Call σ}

/-- A call fails as compiling does if all that it does before is to install a registry and to
discard the evaluator. -/
theorem failed_of_compile {registry : Registry σ} {stage : Stage σ}
    (hexpr : stage.expr? = formula.expr?)
    (hregistry : registry = call.registry?.getD formula.registry)
    (hcall : formula.call call = (compile { formula with registry, stage }).2)
    (h : (compile { formula with registry, stage }).1 = .error e)
    (hworld : ∀ world, call = .evaluate world → (formula.evaluate world).2.2 = world) :
    formula.Failed call e := by
  have spares : formula.Spares (formula.call call) := by
    rw [hcall]
    exact (spares_compile _).of_start hexpr
  rcases compile_error h with ⟨hstage, rfl, same⟩ | ⟨expr, e', hstage, hfault, rfl⟩
  · rw [same] at hcall
    have hblank : stage = .blank := hstage
    refine ⟨spares, ?_, ?_, ?_⟩
    · rw [hcall, hblank]; rfl
    · rw [hcall, hregistry]
    · rw [hblank] at hexpr
      exact hexpr.symm
  · have hstage : stage = .parsed expr := hstage
    have hfault : expr.fault? registry = some e' := hfault
    have hcompile := @compile_of_fault σ { formula with registry, stage } expr e' hstage hfault
    rw [hcompile] at hcall
    refine ⟨spares, ?_, ?_, expr, ?_, fun world => ?_, hworld⟩
    · rw [hcall, hstage]; rfl
    · rw [hcall, hregistry]
    · rw [← hexpr, hstage]; rfl
    · rw [hcall, Expr.compileIn_eq, Expr.compile_eq_error hfault]

theorem failed_compile (h : formula.compile.1 = .error e) : formula.Failed .compile e :=
  failed_of_compile rfl rfl rfl h (by simp)

/-- Switching to other operators only fails in compiling, and only in eager mode. -/
theorem setRegistry_error {registry : Registry σ}
    (h : (formula.setRegistry registry).1 = .error e) :
    formula.setRegistry registry =
      compile { formula with registry, stage := formula.stage.withoutEvaluator } := by
  unfold setRegistry recompile compileIfEager at h ⊢
  split at h
  · next eager => exact if_pos eager
  · contradiction

theorem expr?_withoutEvaluator (stage : Stage σ) : stage.withoutEvaluator.expr? = stage.expr? := by
  cases stage <;> rfl

theorem failed_setRegistry {registry : Registry σ}
    (h : (formula.setRegistry registry).1 = .error e) :
    formula.Failed (.setRegistry registry) e := by
  have started := setRegistry_error h
  rw [started] at h
  exact failed_of_compile (expr?_withoutEvaluator _) rfl (congrArg Prod.snd started) h (by simp)

theorem failed_recompile (h : formula.recompile.1 = .error e) : formula.Failed .recompile e := by
  have started := @setRegistry_error σ formula e formula.registry h
  have h : (compile { formula with stage := formula.stage.withoutEvaluator }).1 = .error e := by
    rw [← started]
    exact h
  exact failed_of_compile (expr?_withoutEvaluator _) rfl (congrArg Prod.snd started) h (by simp)

/-- Evaluating fails in compiling, or else in running the evaluator. -/
theorem evaluate_error {world : σ} (h : (formula.evaluate world).1 = .error e) :
    (formula.compile.1 = .error e ∧ (formula.evaluate world).2.2 = world) ∨
      ∃ e' expr evaluator last, e = .eval e' ∧
        formula.compile.2.stage = .compiled expr evaluator ∧
        evaluator.evaluate formula.compile.2.variables world = .error e' last ∧
        (formula.evaluate world).2.2 = last := by
  cases hresult : formula.compile.1 with
  | error e' =>
    have hcompile : formula.compile = (.error e', formula.compile.2) := by rw [← hresult]
    rw [evaluate, hcompile] at h ⊢
    cases h
    exact .inl ⟨rfl, rfl⟩
  | ok done =>
    obtain ⟨expr, evaluator, hstage⟩ := compile_ok hresult
    have hcompile : formula.compile = (.ok (), formula.compile.2) := by rw [← hresult]
    rw [evaluate, hcompile] at h ⊢
    simp only [hstage] at h ⊢
    cases hrun : evaluator.evaluate formula.compile.2.variables world with
    | ok value last => simp [hrun] at h
    | error e' last =>
      rw [hrun] at h
      cases h
      exact .inr ⟨e', expr, evaluator, last, rfl, rfl, hrun, by simp⟩

theorem failed_evaluate {world : σ} (h : (formula.evaluate world).1 = .error e) :
    formula.Failed (.evaluate world) e := by
  have hcall : formula.call (.evaluate world) = formula.compile.2 := evaluate_snd world
  rcases evaluate_error h with ⟨hcompile, hworld⟩ | ⟨e', expr, evaluator, last, rfl, hstage, hrun⟩
  · refine failed_of_compile rfl rfl hcall hcompile fun other same => ?_
    cases same
    exact hworld
  · obtain ⟨names, stage, hcompile, -, -⟩ := exists_compile formula
    constructor
    · rw [hcall]
      exact spares_compile formula
    · rw [hcall, phase, hstage]
      rfl
    · rw [hcall, hcompile]
      rfl
    · have hexpr : formula.expr? = some expr := by
        rw [← (spares_compile formula).expr?, expr?, hstage]
        rfl
      rw [hcall]
      exact ⟨expr, evaluator, world, last, hexpr, rfl, hstage, hrun⟩

theorem Spares.refl (formula : Formula σ) : formula.Spares formula :=
  ⟨rfl, rfl, rfl, rfl, fun _ => rfl, [], by simp, by simp⟩

/-- A text is refused only because it is not read, and then nothing changes. -/
theorem setText_error {text : String} (h : (formula.setText text).1 = .error e) :
    (∃ e', e = .parse e') ∧ (formula.setText text).2 = formula := by
  rw [setText_fst] at h
  cases hparse : Grammar.parse ⟨formula.registry, formula.options.maxDepth⟩ text with
  | ok expr => simp [hparse] at h
  | error e' =>
    rw [hparse] at h
    cases h
    exact ⟨⟨e', rfl⟩, by simp only [setText, hparse]⟩

theorem failed_setText {text : String} (h : (formula.setText text).1 = .error e) :
    formula.Failed (.setText text) e := by
  obtain ⟨⟨e', rfl⟩, same⟩ := setText_error h
  have hcall : formula.call (.setText text) = formula := same
  constructor
  · rw [hcall]
    exact .refl formula
  · rw [hcall]
    rfl
  · rw [hcall]
    rfl
  · exact ⟨text, rfl, same⟩

end Failed

/-- What is known after every call that fails. -/
theorem failed_of_error? {call : Call σ} (h : formula.error? call = some e) :
    formula.Failed call e := by
  cases call with
  | setText text => exact failed_setText (FormulaError.of?_eq_some h)
  | compile => exact failed_compile (FormulaError.of?_eq_some h)
  | recompile => exact failed_recompile (FormulaError.of?_eq_some h)
  | setRegistry registry => exact failed_setRegistry (FormulaError.of?_eq_some h)
  | evaluate world => exact failed_evaluate (FormulaError.of?_eq_some h)
  | _ => contradiction

/-! ## Formulas without an expression -/

/-- Without an expression calls fail for want of one, unless they set a text. -/
theorem Failed.eq_notParsed {call : Call σ} (h : formula.Failed call e)
    (hexpr : formula.expr? = none) : e = .notParsed ∨ ∃ text, call = .setText text := by
  have reason := h.reason
  cases e with
  | parse e =>
    obtain ⟨text, hcall, -⟩ := reason
    exact .inr ⟨text, hcall⟩
  | notParsed => exact .inl rfl
  | compile e =>
    obtain ⟨expr, hsome, -⟩ := reason
    rw [hexpr] at hsome
    contradiction
  | eval e =>
    obtain ⟨expr, evaluator, world, last, hsome, -⟩ := reason
    rw [hexpr] at hsome
    contradiction

/-- A text is accepted exactly if it is read. -/
theorem setText_eq_ok_iff {text : String} : (formula.setText text).1 = .ok () ↔
    ∃ expr, Grammar.parse ⟨formula.registry, formula.options.maxDepth⟩ text = .ok expr := by
  rw [setText_fst]
  cases Grammar.parse ⟨formula.registry, formula.options.maxDepth⟩ text <;> simp

/-- Only a text that is taken changes the expression. -/
theorem expr?_call {call : Call σ}
    (same : ¬ ∃ text, call = .setText text ∧ (formula.setText text).1 = .ok ()) :
    (formula.call call).expr? = formula.expr? := by
  have hexpr : (formula.call call).expr? = (formula.content.call call).expr? :=
    congrArg Content.expr? (content_call formula call)
  rw [hexpr]
  cases call with
  | setText text =>
    simp only [Call.setText.injEq, exists_eq_left', setText_eq_ok_iff] at same
    simp only [Content.call, content]
    cases hparse : Grammar.parse ⟨formula.registry, formula.options.maxDepth⟩ text with
    | ok expr => exact absurd ⟨expr, hparse⟩ same
    | error e => rfl
  | _ => rfl

/-- Calls that take no text leave the expression alone. -/
theorem expr?_history {calls : List (Call σ)} (same : ¬ formula.TakesText calls) :
    (calls.foldl call formula).expr? = formula.expr? := by
  induction calls generalizing formula with
  | nil => rfl
  | cons call calls ih =>
    rw [TakesText, not_or] at same
    rw [List.foldl_cons, ih same.2, expr?_call same.1]

theorem expr?_call_ne_none_of_setText {text : String} (taken : (formula.setText text).1 = .ok ()) :
    (formula.call (.setText text)).expr? ≠ none := by
  obtain ⟨expr, hparse⟩ := setText_eq_ok_iff.1 taken
  have hexpr : (formula.call (.setText text)).expr? =
      (formula.content.call (.setText text)).expr? :=
    congrArg Content.expr? (content_call formula (.setText text))
  simp only [hexpr, Content.call, content, hparse, ne_eq, reduceCtorEq, not_false_eq_true]

/-- There is an expression as soon as a text has been taken, and it is never lost. -/
theorem expr?_history_eq_none_iff {calls : List (Call σ)} :
    (calls.foldl call formula).expr? = none ↔ formula.expr? = none ∧ ¬ formula.TakesText calls := by
  induction calls generalizing formula with
  | nil => simp [TakesText]
  | cons call calls ih =>
    rw [List.foldl_cons, ih, TakesText, not_or]
    by_cases taken : ∃ text, call = .setText text ∧ (formula.setText text).1 = .ok ()
    · obtain ⟨text, rfl, hset⟩ := taken
      simp [expr?_call_ne_none_of_setText hset, hset]
    · simp [expr?_call taken, taken]

/-- Only what was created blank begins without an expression. -/
theorem expr?_eq_none_iff_of_made {creation : Creation σ} (made : creation.formula = .ok formula) :
    formula.expr? = none ↔ ∃ registry options, creation = .blank registry options := by
  cases creation with
  | blank registry options =>
    cases made
    exact ⟨fun _ => ⟨registry, options, rfl⟩, fun _ => rfl⟩
  | ofText text registry options =>
    obtain ⟨expr, hparse⟩ := exists_parse_of_ofText? made
    have hexpr : formula.expr? = (Creation.ofText text registry options).content.expr? :=
      congrArg Content.expr? (Creation.made made).2
    simp [hexpr, Creation.content, hparse, Except.toOption]

end Formula

/-! ## Two runs -/

/-- The contents are the same except for the registry. -/
structure Content.Matches (content other : Content σ) : Prop where
  expr? : content.expr? = other.expr?
  maxDepth : content.maxDepth = other.maxDepth
  binding? : content.binding? = other.binding?

namespace Content.Matches

variable {content other : Content σ}

theorem refl (content : Content σ) : content.Matches content := ⟨rfl, rfl, rfl⟩

/-- Only a new text is read with the registry. -/
theorem call (h : content.Matches other) {call : Call σ} (notText : ∀ text, call ≠ .setText text) :
    (content.call call).Matches (other.call call) := by
  obtain ⟨hexpr, hdepth, hbinding⟩ := h
  cases call with
  | setText text => exact absurd rfl (notText text)
  | bind name binding => exact ⟨hexpr, hdepth, by simp only [Content.call, hbinding]⟩
  | unbind name => exact ⟨hexpr, hdepth, by simp only [Content.call, hbinding]⟩
  | withOptions options => exact ⟨hexpr, rfl, hbinding⟩
  | _ => exact ⟨hexpr, hdepth, hbinding⟩

/-- After a registry is set, it does not matter which one there was before. -/
theorem setRegistry (h : content.Matches other) (registry : Registry σ) :
    content.call (.setRegistry registry) = other.call (.setRegistry registry) := by
  obtain ⟨hexpr, hdepth, hbinding⟩ := h
  simp only [Content.call, hexpr, hdepth, hbinding]

end Content.Matches

/-- What has been compiled has no fault. -/
theorem Expr.fault?_of_compile {expr : Expr} {registry : Registry σ} {folding : Bool}
    {table : Variables σ} (h : (expr.compile registry folding table).1.isOk = true) :
    expr.fault? registry = none := by
  cases hfault : expr.fault? registry with
  | none => rfl
  | some e => simp [Expr.compile_eq_error hfault, Except.isOk, Except.toBool] at h

namespace Formula

variable {formula other after : Formula σ}

/-- What is spared agrees in everything but the registry. -/
theorem Spares.matches (h : formula.Spares after) : after.content.Matches formula.content where
  expr? := h.expr?
  maxDepth := congrArg Options.maxDepth h.options
  binding? := funext h.bindings

/-- A run of calls without a new text and the run without those of them that fail come to
contents that are the same except for the registry. -/
theorem matches_succeeding (h : formula.content.Matches other.content) {calls : List (Call σ)}
    (same : ¬ formula.TakesText calls) :
    (calls.foldl call formula).content.Matches
      ((formula.succeeding calls).foldl call other).content := by
  induction calls generalizing formula other with
  | nil => exact h
  | cons first calls ih =>
    rw [TakesText, not_or] at same
    obtain ⟨notTaken, same⟩ := same
    rw [List.foldl_cons, succeeding]
    cases herror : formula.error? first with
    | some e =>
      have spared := (failed_of_error? herror).spares.matches
      have matched : (formula.call first).content.Matches other.content :=
        ⟨spared.expr?.trans h.expr?, spared.maxDepth.trans h.maxDepth,
          spared.binding?.trans h.binding?⟩
      simpa using ih matched same
    | none =>
      have notText (text : String) : first ≠ .setText text := by
        rintro rfl
        apply notTaken
        cases hset : (formula.setText text).1 with
        | ok done => exact ⟨text, rfl, hset⟩
        | error e => simp [error?, hset, FormulaError.of?] at herror
      have matched : (formula.call first).content.Matches (other.call first).content := by
        rw [content_call, content_call]
        exact h.call notText
      simpa using ih matched same

/-- Operators under which the expression has no fault can be installed. -/
theorem setRegistry_eq_ok {registry : Registry σ}
    (faultless : ∀ expr, formula.expr? = some expr → expr.fault? registry = none) :
    (formula.setRegistry registry).1 = .ok () := by
  unfold setRegistry recompile compileIfEager
  split
  · next eager =>
    obtain ⟨expr, hexpr⟩ := Option.isSome_iff_exists.1 eager.2
    rw [expr?, expr?_withoutEvaluator] at hexpr
    have hstage : formula.stage.withoutEvaluator = .parsed expr := by
      cases hstage : formula.stage <;>
        simp_all [Stage.expr?, Stage.withoutEvaluator]
    obtain ⟨evaluator, hcompile, -⟩ := @compile_of_faultless σ
      { formula with registry, stage := formula.stage.withoutEvaluator } expr hstage
      (faultless expr hexpr)
    rw [hcompile]
  · rfl

/-- Formulas of the same content evaluate alike, and still do so after the same calls. -/
theorem evaluate_history_congr (h : formula.Current) (h' : other.Current)
    (same : formula.content = other.content) (later : List (Call σ)) (world : σ) :
    (((later.foldl call formula).evaluate world).1,
        ((later.foldl call formula).evaluate world).2.2) =
      (((later.foldl call other).evaluate world).1,
        ((later.foldl call other).evaluate world).2.2) := by
  rw [(h.history later).evaluate, (h'.history later).evaluate, content_history, content_history,
    same]

/-- Contents that are the same except for the registry are the same once one is installed. -/
theorem content_setRegistry_eq (h : formula.content.Matches other.content)
    (registry : Registry σ) :
    (formula.setRegistry registry).2.content = (other.setRegistry registry).2.content := by
  have first := content_call formula (.setRegistry registry)
  have second := content_call other (.setRegistry registry)
  rw [← h.setRegistry, ← first] at second
  exact second.symm

/-- **A call that fails loses nothing**, whatever a formula has been through. Its text, its
expression, its options and its bindings are as before, the stage is that of the error, and the
registry is installed even if it does not serve. As long as no text has been taken there is no
expression, and that is the error.

Nor do failing calls matter later on. When a registry is installed after them, and be it in
between other calls, every evaluation has the result, and leaves the world, that it has without the
failing calls; and the registry is accepted if the expression compiles with it. -/
theorem failed_recoverable (creation : Creation σ) (made : Formula σ)
    (hmade : creation.formula = .ok made) (calls : List (Call σ)) :
    let formula := calls.foldl call made
    (formula.expr? = none ↔
      (∃ registry options, creation = .blank registry options) ∧ ¬ made.TakesText calls) ∧
    (∀ call e, formula.error? call = some e → formula.Failed call e ∧
      (formula.expr? = none → e = .notParsed ∨ ∃ text, call = .setText text)) ∧
    ∀ attempts registry, ¬ formula.TakesText attempts →
      let tried := (attempts.foldl call formula).setRegistry registry
      let untried := ((formula.succeeding attempts).foldl call formula).setRegistry registry
      ((∀ expr, formula.expr? = some expr →
          (expr.compile registry formula.options.folding formula.variables).1.isOk = true) →
        tried.1 = .ok () ∧ untried.1 = .ok ()) ∧
      ∀ (later : List (Call σ)) world,
        (((later.foldl call tried.2).evaluate world).1,
            ((later.foldl call tried.2).evaluate world).2.2) =
          (((later.foldl call untried.2).evaluate world).1,
            ((later.foldl call untried.2).evaluate world).2.2) := by
  intro formula
  have hcurrent : formula.Current := (Creation.made hmade).1.history calls
  refine ⟨?_, fun call e herror => ?_, fun attempts registry same => ?_⟩
  · rw [expr?_history_eq_none_iff, expr?_eq_none_iff_of_made hmade]
  · exact ⟨failed_of_error? herror, (failed_of_error? herror).eq_notParsed⟩
  · intro tried untried
    have matched : (attempts.foldl call formula).content.Matches
        ((formula.succeeding attempts).foldl call formula).content :=
      matches_succeeding (.refl _) same
    constructor
    · intro compiles
      have hexpr := expr?_history same
      have faultless : ∀ expr, formula.expr? = some expr → expr.fault? registry = none :=
        fun expr hsome => Expr.fault?_of_compile (compiles expr hsome)
      have hexpr' : ((formula.succeeding attempts).foldl call formula).expr? = formula.expr? :=
        matched.expr?.symm.trans hexpr
      constructor
      · exact setRegistry_eq_ok (by rwa [hexpr])
      · exact setRegistry_eq_ok (by rwa [hexpr'])
    · have htried : tried.2.Current := (hcurrent.history attempts).call (.setRegistry registry)
      have huntried : untried.2.Current :=
        (hcurrent.history (formula.succeeding attempts)).call (.setRegistry registry)
      exact evaluate_history_congr htried huntried (content_setRegistry_eq matched registry)

/-- Without operators the formula neither compiles nor evaluates, and with the old ones it is as
good as new. -/
theorem failed_recoverable_empty_registry :
    ∃ formula : Formula Generator,
      (Creation.ofText "a + 1" Registry.builtin ⟨.eager, true, 8⟩).formula = .ok formula ∧
      let attempts := [.setRegistry .empty, .evaluate ⟨0⟩, .bind "a" (.static 2), .recompile]
      let tried := (attempts.foldl call formula).setRegistry Registry.builtin
      formula.error? (.setRegistry .empty) = some (.compile (.missingOperator "+" .binary 2)) ∧
      (formula.setRegistry .empty).2.phase = .parsed ∧
      formula.succeeding attempts = [.bind "a" (.static 2)] ∧
      tried.1 = .ok () ∧
      (tried.2.evaluate ⟨0⟩).1 =
        (((formula.bind "a" (.static 2)).setRegistry Registry.builtin).2.evaluate ⟨0⟩).1 := by
  let creation : Creation Generator := .ofText "a + 1" Registry.builtin ⟨.eager, true, 8⟩
  let attempts : List (Call Generator) :=
    [.setRegistry .empty, .evaluate ⟨0⟩, .bind "a" (.static 2), .recompile]
  let missing : FormulaError := .compile (.missingOperator "+" .binary 2)
  have results : creation.formula.toOption.map (fun formula =>
      let first := formula.call (.setRegistry .empty)
      let last := (first.call (.evaluate ⟨0⟩)).call (.bind "a" (.static 2))
      [formula.error? (.setRegistry .empty), first.error? (.evaluate ⟨0⟩),
        last.error? .recompile]) = some [some missing, some missing, some missing] := by
    decide +kernel
  have compiles : creation.formula.toOption.bind (fun formula => formula.expr?.map fun expr =>
      (expr.compile Registry.builtin formula.options.folding formula.variables).1.isOk) =
        some true := by
    decide +kernel
  cases made : creation.formula with
  | error e => simp [made, Except.toOption] at results
  | ok formula =>
    simp only [made, Except.toOption, Option.map_some, Option.some.injEq, List.cons.injEq,
      and_true] at results
    obtain ⟨first, second, last⟩ := results
    obtain ⟨-, failed, recovers⟩ := failed_recoverable creation formula made []
    have spares : ¬ formula.TakesText attempts := by simp [attempts, TakesText]
    have hsucceeding : formula.succeeding attempts = [.bind "a" (.static 2)] := by
      have bound (formula : Formula Generator) :
          formula.error? (.bind "a" (.static 2)) = none := rfl
      simp [attempts, succeeding, first, second, bound, last]
    obtain ⟨accepted, same⟩ := recovers attempts Registry.builtin spares
    refine ⟨formula, rfl, first, (failed _ _ first).1.phase, hsucceeding, ?_, ?_⟩
    · refine (accepted fun expr hexpr => ?_).1
      have hexpr : formula.expr? = some expr := hexpr
      simpa [made, Except.toOption, hexpr] using compiles
    · have hsame := congrArg Prod.fst (same [] ⟨0⟩)
      dsimp only [List.foldl_nil] at hsame
      rw [hsucceeding] at hsame
      exact hsame

end Formula

end Formulary
