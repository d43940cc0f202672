import Formulary.Proofs.Compile

/-!
# Formulary.Proofs.Evaluation

An evaluator does what its expression says, and goes on doing so while bindings change.

`Expr.Evaluates` spells out evaluation rule by rule: operands from left to right up to
the first that fails, a ternary operator through computations that evaluate its branches
when they are run, a variable by asking what is bound to its name. An expression whose
operators are all registered evaluates in one way (`Expr.evaluates_iff`), which is that
of the interpreter.

Whatever is bound, unbound and reserved after compiling, slots stay where they are
(`Evaluator.Fits.change`), so by the time of each evaluation the evaluator reads the
bindings that are in force then (`Evaluator.Fits.outcomes`).
-/

namespace Formulary

variable {σ : Type}

/-! ## Evaluation by rules -/

/-- How an evaluation ends: with a value or an error, and in either case with a world. -/
abbrev Outcome (σ α : Type) := EStateM.Result EvalError σ α

namespace Eval

variable {α β : Type} {first : Eval σ α} {rest : α → Eval σ β} {world next : σ}

/-- A sequence goes on with the value and the world of its first part. -/
theorem bind_of_ok {value : α} (h : first world = .ok value next) :
    (first >>= rest) world = rest value next := by
  show EStateM.bind first rest world = rest value next
  simp only [EStateM.bind, h]

/-- A sequence ends with the error of its first part and in the world where that occurred. -/
theorem bind_of_error {e : EvalError} (h : first world = .error e next) :
    (first >>= rest) world = .error e next := by
  show EStateM.bind first rest world = .error e next
  simp only [EStateM.bind, h]

end Eval

namespace Expr

section Rules

variable (registry : Registry σ) (binding? : String → Option (Binding σ))

mutual

/-- Evaluating the expression in the world has the outcome. -/
inductive Evaluates : Expr → σ → Outcome σ Float → Prop
  | constant {value : Float} {world : σ} :
      Evaluates (.constant value) world (.ok value world)
  | static {name : String} {value : Float} {world : σ}
      (bound : binding? name = some (.static value)) :
      Evaluates (.var name) world (.ok value world)
  /-- The supplier is asked, once. -/
  | dynamic {name : String} {supplier : Supplier σ} {world : σ}
      (bound : binding? name = some (.dynamic supplier)) :
      Evaluates (.var name) world (.ok (supplier world).1 (supplier world).2)
  | unbound {name : String} {world : σ} (free : binding? name = none) :
      Evaluates (.var name) world (.error (.unbound name) world)
  | unary {symbol : String} {operand : Expr} {offset : Nat} {world next : σ} {value : Float}
      {body : Body σ Float} (registered : registry.unaryBody? symbol = some body)
      (first : Evaluates operand world (.ok value next)) :
      Evaluates (.unary symbol operand offset) world (body.apply value next)
  | unaryError {symbol : String} {operand : Expr} {offset : Nat} {world next : σ}
      {e : EvalError} (first : Evaluates operand world (.error e next)) :
      Evaluates (.unary symbol operand offset) world (.error e next)
  | binary {symbol : String} {left right : Expr} {offset : Nat} {world middle next : σ}
      {l r : Float} {body : Body σ (Float × Float)}
      (registered : registry.binaryBody? symbol = some body)
      (first : Evaluates left world (.ok l middle))
      (second : Evaluates right middle (.ok r next)) :
      Evaluates (.binary symbol left right offset) world (body.apply (l, r) next)
  /-- If the left operand fails, the right one is not evaluated. -/
  | leftError {symbol : String} {left right : Expr} {offset : Nat} {world next : σ}
      {e : EvalError} (first : Evaluates left world (.error e next)) :
      Evaluates (.binary symbol left right offset) world (.error e next)
  | rightError {symbol : String} {left right : Expr} {offset : Nat} {world middle next : σ}
      {l : Float} {e : EvalError} (first : Evaluates left world (.ok l middle))
      (second : Evaluates right middle (.error e next)) :
      Evaluates (.binary symbol left right offset) world (.error e next)
  /-- The body is given computations that evaluate a branch, in whatever world they are run. -/
  | ternary {symbol : String} {condition ifTrue ifFalse : Expr} {offset : Nat}
      {world next : σ} {c : Float} {body : TernaryBody σ} {whenTrue whenFalse : Eval σ Float}
      (registered : registry.ternaryBody? symbol = some body)
      (first : Evaluates condition world (.ok c next))
      (onTrue : ∀ world, Evaluates ifTrue world (whenTrue world))
      (onFalse : ∀ world, Evaluates ifFalse world (whenFalse world)) :
      Evaluates (.ternary symbol condition ifTrue ifFalse offset) world
        (body.apply c whenTrue whenFalse next)
  | conditionError {symbol : String} {condition ifTrue ifFalse : Expr} {offset : Nat}
      {world next : σ} {e : EvalError} (first : Evaluates condition world (.error e next)) :
      Evaluates (.ternary symbol condition ifTrue ifFalse offset) world (.error e next)
  | call {name : String} {args : List Expr} {offset : Nat} {world next : σ}
      {values : List Float} {body : Body σ (List Float)}
      (registered : registry.functionBody? name = some body)
      (all : EvaluatesAll args world (.ok values next)) :
      Evaluates (.call name args offset) world (body.apply values next)
  | callError {name : String} {args : List Expr} {offset : Nat} {world next : σ}
      {e : EvalError} (all : EvaluatesAll args world (.error e next)) :
      Evaluates (.call name args offset) world (.error e next)

/-- Evaluating the expressions from left to right has the outcome. -/
inductive EvaluatesAll : List Expr → σ → Outcome σ (List Float) → Prop
  | nil {world : σ} : EvaluatesAll [] world (.ok [] world)
  | cons {arg : Expr} {args : List Expr} {world middle next : σ} {value : Float}
      {values : List Float} (first : Evaluates arg world (.ok value middle))
      (rest : EvaluatesAll args middle (.ok values next)) :
      EvaluatesAll (arg :: args) world (.ok (value :: values) next)
  /-- The arguments behind one that fails are not evaluated. -/
  | firstError {arg : Expr} {args : List Expr} {world next : σ} {e : EvalError}
      (first : Evaluates arg world (.error e next)) :
      EvaluatesAll (arg :: args) world (.error e next)
  | restError {arg : Expr} {args : List Expr} {world middle next : σ} {value : Float}
      {e : EvalError} (first : Evaluates arg world (.ok value middle))
      (rest : EvaluatesAll args middle (.error e next)) :
      EvaluatesAll (arg :: args) world (.error e next)

end

end Rules

variable {registry : Registry σ} {binding? : String → Option (Binding σ)}

/-- The interpreter, with variables that are read from their bindings. -/
abbrev meaning (expr : Expr) (registry : Registry σ) (binding? : String → Option (Binding σ)) :
    Eval σ Float :=
  expr.interpret registry fun name => Binding.readAs name (binding? name)

mutual

/-- The rules give no other outcome than the interpreter. -/
theorem Evaluates.eq_meaning {expr : Expr} {world : σ} {outcome : Outcome σ Float} :
    Evaluates registry binding? expr world outcome →
      expr.meaning registry binding? world = outcome
  | .constant => rfl
  | .static bound => by
    rw [meaning, interpret, bound]
    rfl
  | .dynamic bound => by
    rw [meaning, interpret, bound]
    rfl
  | .unbound free => by
    rw [meaning, interpret, free]
    rfl
  | .unary registered first => by
    rw [meaning, interpret, Eval.bind_of_ok first.eq_meaning, registered]
    rfl
  | .unaryError first => Eval.bind_of_error first.eq_meaning
  | .binary registered first second => by
    rw [meaning, interpret, Eval.bind_of_ok first.eq_meaning, Eval.bind_of_ok second.eq_meaning,
      registered]
    rfl
  | .leftError first => Eval.bind_of_error first.eq_meaning
  | .rightError first second => by
    rw [meaning, interpret, Eval.bind_of_ok first.eq_meaning,
      Eval.bind_of_error second.eq_meaning]
  | .ternary registered first onTrue onFalse => by
    rw [meaning, interpret, Eval.bind_of_ok first.eq_meaning, registered]
    rw [show interpret registry _ _ = _ from funext fun world => (onTrue world).eq_meaning,
      show interpret registry _ _ = _ from funext fun world => (onFalse world).eq_meaning]
    rfl
  | .conditionError first => Eval.bind_of_error first.eq_meaning
  | .call registered all => by
    rw [meaning, interpret, Eval.bind_of_ok all.eq_meaning, registered]
    rfl
  | .callError all => Eval.bind_of_error all.eq_meaning

/-- The rules for arguments give one outcome only, that of interpreting them. -/
theorem EvaluatesAll.eq_meaning {args : List Expr} {world : σ}
    {outcome : Outcome σ (List Float)} : EvaluatesAll registry binding? args world outcome →
      interpretAll registry (fun name => Binding.readAs name (binding? name)) args world = outcome
  | .nil => rfl
  | .cons first rest => by
    rw [interpretAll, Eval.bind_of_ok first.eq_meaning, Eval.bind_of_ok rest.eq_meaning]
    rfl
  | .firstError first => Eval.bind_of_error first.eq_meaning
  | .restError first rest => by
    rw [interpretAll, Eval.bind_of_ok first.eq_meaning, Eval.bind_of_error rest.eq_meaning]

end

/-! ## Operands and bodies of an expression without a fault -/

section Faultless

variable {symbol name : String} {operand left right condition ifTrue ifFalse : Expr}
  {args : List Expr} {offset : Nat} {arity : Arity}

/-- An operator that is not missing is found. -/
theorem exists_resolve (h : missing? registry symbol arity offset = none) :
    ∃ operator, registry.resolve? symbol arity = some operator := by
  unfold missing? at h
  split at h
  · next found => exact Option.isSome_iff_exists.1 found
  · contradiction

/-- A unary operation without a fault has a body, and its operand has no fault. -/
theorem faultless_unary (h : (unary symbol operand offset).fault? registry = none) :
    (∃ body, registry.unaryBody? symbol = some body) ∧ operand.fault? registry = none := by
  rw [fault?, nodes, firstFault?_cons, Option.or_eq_none_iff] at h
  obtain ⟨operator, resolved⟩ := exists_resolve h.1
  obtain ⟨body, -, hbody⟩ := Registry.exists_unaryBody resolved
  exact ⟨⟨body, hbody⟩, h.2⟩

theorem faultless_binary (h : (binary symbol left right offset).fault? registry = none) :
    (∃ body, registry.binaryBody? symbol = some body) ∧
      left.fault? registry = none ∧ right.fault? registry = none := by
  rw [fault?, nodes, firstFault?_cons, firstFault?_append, Option.or_eq_none_iff,
    Option.or_eq_none_iff] at h
  obtain ⟨operator, resolved⟩ := exists_resolve h.1
  obtain ⟨body, -, hbody⟩ := Registry.exists_binaryBody resolved
  exact ⟨⟨body, hbody⟩, h.2⟩

theorem faultless_ternary
    (h : (ternary symbol condition ifTrue ifFalse offset).fault? registry = none) :
    (∃ body, registry.ternaryBody? symbol = some body) ∧ condition.fault? registry = none ∧
      ifTrue.fault? registry = none ∧ ifFalse.fault? registry = none := by
  rw [fault?, nodes, firstFault?_cons, firstFault?_append, firstFault?_append,
    Option.or_eq_none_iff, Option.or_eq_none_iff, Option.or_eq_none_iff] at h
  obtain ⟨operator, resolved⟩ := exists_resolve h.1
  obtain ⟨-, body, -, hbody⟩ := Registry.exists_ternaryBody resolved
  exact ⟨⟨body, hbody⟩, h.2.1.1, h.2.1.2, h.2.2⟩

/-- A call without a fault has a body, and no argument has a fault. -/
theorem faultless_call (h : (call name args offset).fault? registry = none) :
    (∃ body, registry.functionBody? name = some body) ∧
      firstFault? registry (nodesAll args) = none := by
  rw [fault?, nodes, firstFault?_cons, Option.or_eq_none_iff] at h
  cases resolved : registry.function? name with
  | none => simp [ownFault?, resolved] at h
  | some operator =>
    obtain ⟨-, body, -, -, hbody⟩ := Registry.exists_functionBody resolved
    exact ⟨⟨body, hbody⟩, h.2⟩

end Faultless

/-! ## The interpreter follows the rules -/

/-- Arguments evaluate by the rules to what interpreting them gives, if each of them does. -/
theorem evaluatesAll_interpretAll {args : List Expr}
    (ih : ∀ arg ∈ args, arg.fault? registry = none → ∀ world,
      Evaluates registry binding? arg world (arg.meaning registry binding? world))
    (faultless : firstFault? registry (nodesAll args) = none) (world : σ) :
    EvaluatesAll registry binding? args world
      (interpretAll registry (fun name => Binding.readAs name (binding? name)) args world) := by
  induction args generalizing world with
  | nil => exact .nil
  | cons arg args iht =>
    rw [nodesAll, firstFault?_append, Option.or_eq_none_iff] at faultless
    have hfirst := ih arg List.mem_cons_self faultless.1 world
    have hrest := iht (fun other member => ih other (List.mem_cons_of_mem _ member)) faultless.2
    rw [interpretAll]
    cases hvalue : arg.meaning registry binding? world with
    | error e next =>
      rw [hvalue] at hfirst
      rw [Eval.bind_of_error hvalue]
      exact .firstError hfirst
    | ok value next =>
      rw [hvalue] at hfirst
      rw [Eval.bind_of_ok hvalue]
      have hrest := hrest next
      cases hvalues : interpretAll registry (fun name => Binding.readAs name (binding? name)) args
          next with
      | error e last =>
        rw [hvalues] at hrest
        rw [Eval.bind_of_error hvalues]
        exact .restError hfirst hrest
      | ok values last =>
        rw [hvalues] at hrest
        rw [Eval.bind_of_ok hvalues]
        exact .cons hfirst hrest

/-- An expression without a fault evaluates as it is interpreted. -/
theorem evaluates_meaning {expr : Expr} (faultless : expr.fault? registry = none) (world : σ) :
    Evaluates registry binding? expr world (expr.meaning registry binding? world) := by
  induction expr generalizing world with
  | constant value => exact .constant
  | var name =>
    rw [meaning, interpret]
    cases hbound : binding? name with
    | none => exact .unbound hbound
    | some binding =>
      cases binding with
      | static value => exact .static hbound
      | dynamic supplier => exact .dynamic hbound
  | unary symbol operand offset ih =>
    obtain ⟨⟨body, hbody⟩, hoperand⟩ := faultless_unary faultless
    have first := ih hoperand world
    rw [meaning, interpret, hbody]
    cases hvalue : operand.meaning registry binding? world with
    | error e next =>
      rw [hvalue] at first
      rw [Eval.bind_of_error hvalue]
      exact .unaryError first
    | ok value next =>
      rw [hvalue] at first
      rw [Eval.bind_of_ok hvalue]
      exact .unary hbody first
  | binary symbol left right offset ihl ihr =>
    obtain ⟨⟨body, hbody⟩, hleft, hright⟩ := faultless_binary faultless
    have first := ihl hleft world
    rw [meaning, interpret, hbody]
    cases hl : left.meaning registry binding? world with
    | error e next =>
      rw [hl] at first
      rw [Eval.bind_of_error hl]
      exact .leftError first
    | ok l middle =>
      rw [hl] at first
      rw [Eval.bind_of_ok hl]
      have second := ihr hright middle
      cases hr : right.meaning registry binding? middle with
      | error e next =>
        rw [hr] at second
        rw [Eval.bind_of_error hr]
        exact .rightError first second
      | ok r next =>
        rw [hr] at second
        rw [Eval.bind_of_ok hr]
        exact .binary hbody first second
  | ternary symbol condition ifTrue ifFalse offset ihc iht ihf =>
    obtain ⟨⟨body, hbody⟩, hcondition, htrue, hfalse⟩ := faultless_ternary faultless
    have first := ihc hcondition world
    rw [meaning, interpret, hbody]
    cases hc : condition.meaning registry binding? world with
    | error e next =>
      rw [hc] at first
      rw [Eval.bind_of_error hc]
      exact .conditionError first
    | ok c next =>
      rw [hc] at first
      rw [Eval.bind_of_ok hc]
      exact .ternary hbody first (iht htrue) (ihf hfalse)
  | call name args offset ih =>
    obtain ⟨⟨body, hbody⟩, hargs⟩ := faultless_call faultless
    have all := evaluatesAll_interpretAll ih hargs world
    rw [meaning, interpret, hbody]
    cases hvalues : interpretAll registry (fun name => Binding.readAs name (binding? name)) args
        world with
    | error e next =>
      rw [hvalues] at all
      rw [Eval.bind_of_error hvalues]
      exact .callError all
    | ok values next =>
      rw [hvalues] at all
      rw [Eval.bind_of_ok hvalues]
      exact .call hbody all

/-- The outcome by the rules is that of the interpreter. -/
theorem evaluates_iff {expr : Expr} (faultless : expr.fault? registry = none) {world : σ}
    {outcome : Outcome σ Float} : Evaluates registry binding? expr world outcome ↔
      expr.meaning registry binding? world = outcome :=
  ⟨Evaluates.eq_meaning, fun h => h ▸ evaluates_meaning faultless world⟩

end Expr

/-! ## Bindings that change between evaluations -/

/-- A change to a table that leaves its slots where they are. -/
inductive Change (σ : Type) where
  | bind (name : String) (binding : Binding σ)
  | unbind (name : String)
  | slot (name : String)

namespace Change

/-- What the change does to a table. -/
def onTable (table : Variables σ) : Change σ → Variables σ
  | bind name binding => table.bind name binding
  | unbind name => (table.unbind name).2
  | slot name => (table.slot name).2

/-- What the change does to the bindings by name. -/
def onBindings (binding? : String → Option (Binding σ)) :
    Change σ → String → Option (Binding σ)
  | bind name binding => fun other => if other = name then some binding else binding? other
  | unbind name => fun other => if other = name then none else binding? other
  | slot _ => binding?

/-- A change does to the bindings of a table what it does to bindings as such. -/
theorem binding?_onTable (table : Variables σ) (change : Change σ) :
    (onTable table change).binding? = onBindings table.binding? change := by
  funext other
  cases change with
  | bind name binding => exact Variables.binding?_bind
  | unbind name => exact Variables.binding?_unbind
  | slot name => exact Variables.binding?_reserve

/-- No change takes a slot away or moves it. -/
theorem slotNames_onTable (table : Variables σ) (change : Change σ) :
    table.slotNames <+: (onTable table change).slotNames := by
  cases change with
  | bind name binding =>
    rw [onTable, Variables.slotNames_bind]
    exact Variables.slotNames_prefix_reserve
  | unbind name =>
    have same : (table.unbind name).2.slotNames = table.slotNames := Variables.slotNames_unbind
    exact same.symm ▸ List.prefix_rfl
  | slot name => exact Variables.slotNames_prefix_reserve

end Change

/-- What is done with an evaluator and its table. -/
inductive Use (σ : Type) where
  | change (made : Change σ)
  | evaluate

/-- The outcomes of the evaluations, in order, and the world that the last one leaves. What is
evaluated with, and what a change does to it, is up to the caller. -/
def Use.outcomes {τ : Type} (onState : τ → Change σ → τ) (evaluate : τ → Eval σ Float) (state : τ)
    (world : σ) : List (Use σ) → List (Except EvalError Float) × σ
  | [] => ([], world)
  | .change made :: uses => outcomes onState evaluate (onState state made) world uses
  | .evaluate :: uses =>
    match evaluate state world with
    | .ok value world =>
      let (others, world) := outcomes onState evaluate state world uses
      (.ok value :: others, world)
    | .error e world =>
      let (others, world) := outcomes onState evaluate state world uses
      (.error e :: others, world)

namespace Evaluator.Fits

variable {registry : Registry σ} {expr : Expr} {evaluator : Evaluator σ} {table : Variables σ}

/-- What one change preserves. -/
theorem change (h : evaluator.Fits registry expr table.slotNames) (change : Change σ) :
    evaluator.Fits registry expr (Change.onTable table change).slotNames :=
  h.extend (Change.slotNames_onTable table change)

/-- What a whole sequence of changes preserves. -/
theorem changes (h : evaluator.Fits registry expr table.slotNames) (changes : List (Change σ)) :
    evaluator.Fits registry expr (changes.foldl Change.onTable table).slotNames := by
  induction changes generalizing table with
  | nil => exact h
  | cons first changes ih => exact ih (h.change first)

/-- The evaluator, used again and again while bindings change, gives what the interpreter gives
with the bindings by name. -/
theorem outcomes (h : evaluator.Fits registry expr table.slotNames) (world : σ)
    (uses : List (Use σ)) :
    Use.outcomes Change.onTable evaluator.evaluate table world uses =
      Use.outcomes Change.onBindings (expr.meaning registry) table.binding? world uses := by
  induction uses generalizing table world with
  | nil => rfl
  | cons use uses ih =>
    cases use with
    | change made =>
      rw [Use.outcomes, Use.outcomes, ih (h.change made), Change.binding?_onTable]
    | evaluate =>
      rw [Use.outcomes, Use.outcomes, h.evaluate]
      simp only [ih h]

end Evaluator.Fits

/-- Several changes do to the bindings of a table what they do to bindings as such. -/
theorem Change.binding?_foldl (table : Variables σ) (changes : List (Change σ)) :
    (changes.foldl onTable table).binding? = changes.foldl onBindings table.binding? := by
  induction changes generalizing table with
  | nil => rfl
  | cons first changes ih => rw [List.foldl_cons, List.foldl_cons, ih, binding?_onTable]

/-- **An evaluator refines its expression.** Whatever is bound, unbound and reserved after
compiling, to evaluate is to interpret the expression with the bindings then in force, and the
outcome is the one that the rules of evaluation give: from left to right, no further than the
first operand that fails, with each supplier asked once for every time that its variable is
evaluated, and the branches of a ternary operator evaluated when its body runs them. Nothing is
kept from one evaluation to the next. -/
theorem Expr.compile_refines (expr : Expr) (registry : Registry σ) (start after : Variables σ)
    (evaluator : Evaluator σ)
    (compiled : expr.compile registry false start = (.ok evaluator, after)) :
    (∀ (changes : List (Change σ)) (world : σ) (outcome : Outcome σ Float),
      evaluator.evaluate (changes.foldl Change.onTable after) world = outcome ↔
        expr.Evaluates registry (changes.foldl Change.onBindings start.binding?) world outcome) ∧
    ∀ (uses : List (Use σ)) (world : σ),
      Use.outcomes Change.onTable evaluator.evaluate after world uses =
        Use.outcomes Change.onBindings (expr.meaning registry) start.binding? world uses := by
  cases hfault : expr.fault? registry with
  | some e =>
    rw [Expr.compile_eq_error hfault] at compiled
    cases compiled
  | none =>
    obtain ⟨evaluator', hcompile, fits⟩ :=
      @Expr.compile_eq_ok σ registry false start expr hfault
    rw [hcompile] at compiled
    cases compiled
    have hstart : (start.reserveAll (expr.reached registry)).binding? = start.binding? :=
      funext fun name => Variables.binding?_reserveAll _
    rw [← hstart]
    refine ⟨fun changes world outcome => ?_, fun uses world => fits.outcomes world uses⟩
    rw [Expr.evaluates_iff hfault, ← Change.binding?_foldl, (fits.changes changes).evaluate]

/-- A variable is asked for whenever it occurs, and nothing behind one that is not bound. -/
theorem Expr.compile_refines_occurrences :
    let registry : Registry (List String) :=
      ⟨[.binary "THEN" 0 .left fun _ b => .ok b], by decide +kernel, by decide +kernel⟩
    let log (name : String) : Supplier (List String) := fun world => (0, world ++ [name])
    let expr := Expr.binary "THEN" (.var "a") (.binary "THEN" (.var "b") (.var "a") 8) 2
    ∃ evaluator after, expr.compile registry false .empty = (.ok evaluator, after) ∧
      let (outcomes, world) := Use.outcomes Change.onTable evaluator.evaluate after []
        [.evaluate, .change (.bind "a" (.dynamic (log "a"))), .evaluate,
          .change (.bind "b" (.dynamic (log "b"))), .evaluate]
      (outcomes.map fun | .ok _ => none | .error e => some e) =
          [some (.unbound "a"), some (.unbound "b"), none] ∧
        world = ["a", "a", "b", "a"] := by
  intro registry log expr
  have faultless : expr.fault? registry = none := by
    decide +kernel
  obtain ⟨evaluator, hcompile, -⟩ :=
    @Expr.compile_eq_ok (List String) registry false .empty expr faultless
  refine ⟨evaluator, _, hcompile, ?_⟩
  rw [(Expr.compile_refines expr registry .empty _ evaluator hcompile).2]
  simp only [registry, log, expr]
  decide +kernel

end Formulary
