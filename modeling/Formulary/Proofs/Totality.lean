import Formulary.Proofs.Evaluation
import Formulary.Proofs.History

/-!
# Formulary.Proofs.Totality

A formula of built-in operators fails for a variable that is not bound, and for nothing else.

Every built-in operator has a value for all operands, and the conditional has the outcome of
the branch that its condition selects (`Registry.total_builtin`). With such a registry an
expression without a fault can only fail at a variable (`Expr.meaning_failsOnlyFor`), and what
is parsed with a registry has no fault in it, for as long as the registry is kept
(`Content.Faultless.history`).
-/

namespace Formulary

variable {σ : Type}

/-! ## Failing for names only -/

/-- Whatever the world, the computation has a value or fails because one of these names is not
bound. -/
def Eval.FailsOnlyFor {α : Type} (missing : String → Prop) (computation : Eval σ α) : Prop :=
  ∀ world e next, computation world = .error e next → ∃ name, missing name ∧ e = .unbound name

namespace Eval.FailsOnlyFor

variable {α β : Type} {missing other : String → Prop} {computation : Eval σ α}

/-- Returning a value does not fail. -/
theorem pure (missing : String → Prop) (value : α) :
    FailsOnlyFor missing (Pure.pure value : Eval σ α) := by
  intro world e next h
  contradiction

theorem imp (h : FailsOnlyFor missing computation) (h' : ∀ name, missing name → other name) :
    FailsOnlyFor other computation := by
  intro world e next failed
  obtain ⟨name, hname, rfl⟩ := h world e next failed
  exact ⟨name, h' name hname, rfl⟩

/-- A sequence fails only for what its parts fail for. -/
theorem bind {rest : α → Eval σ β} (h : FailsOnlyFor missing computation)
    (h' : ∀ value, FailsOnlyFor missing (rest value)) :
    FailsOnlyFor missing (computation >>= rest) := by
  intro world e next failed
  cases hfirst : computation world with
  | error e' next' =>
    rw [Eval.bind_of_error hfirst] at failed
    cases failed
    exact h world e next hfirst
  | ok value middle =>
    rw [Eval.bind_of_ok hfirst] at failed
    exact h' value middle e next failed

/-- If no name is missing there is a value. -/
theorem exists_ok (h : FailsOnlyFor missing computation) (none : ∀ name, ¬ missing name)
    (world : σ) : ∃ value next, computation world = .ok value next := by
  cases hresult : computation world with
  | ok value next => exact ⟨value, next, rfl⟩
  | error e next =>
    obtain ⟨name, hname, -⟩ := h world e next hresult
    exact (none name hname).elim

end Eval.FailsOnlyFor

/-! ## Total operators -/

/-- The body has a value for all operands, in every world. -/
def Body.Total {α : Type} (body : Body σ α) : Prop :=
  ∀ operands, (body.apply operands).FailsOnlyFor fun _ => False

/-- The body has a value for all operands. That of a ternary operator evaluates one branch, the
one that its condition selects. -/
def Implementation.Total : Implementation σ → Prop
  | unary body => body.Total
  | binary body => body.Total
  | ternary _ body => ∀ condition ifTrue ifFalse,
    body.apply condition ifTrue ifFalse = if Math.truthy condition then ifTrue else ifFalse
  | function _ body => body.Total

/-- All operators of the registry are total. -/
def Registry.Total (registry : Registry σ) : Prop :=
  ∀ operator ∈ registry.operators, operator.implementation.Total

/-- A steady body that only computes a number is total. -/
theorem Body.total_steady {α : Type} {run : α → Float} :
    (steady fun operands => .ok (run operands) : Body σ α).Total := by
  intro operands world e next h
  contradiction

/-- A deferred computation that asks for one branch and is done has the outcome of that branch. -/
theorem Deferred.run_ask (branch : Branch) (ifTrue ifFalse : Eval σ Float) :
    (ask branch done).run ifTrue ifFalse =
      match branch with
      | .ifTrue => ifTrue
      | .ifFalse => ifFalse := by
  funext world
  cases branch with
  | ifTrue => simp only [run]; cases ifTrue world <;> rfl
  | ifFalse => simp only [run]; cases ifFalse world <;> rfl

namespace Builtin

/-- The conditional evaluates the branch that its condition selects. -/
theorem selects_conditional (condition : Float) (ifTrue ifFalse : Eval σ Float) :
    (if Math.truthy condition then Deferred.ifTrue else Deferred.ifFalse).run ifTrue ifFalse =
      if Math.truthy condition then ifTrue else ifFalse := by
  by_cases selected : Math.truthy condition = true
  · simp [selected, Deferred.ifTrue, Deferred.run_ask]
  · simp [selected, Deferred.ifFalse, Deferred.run_ask]

/-- All built-in operators are total. -/
theorem total_operators : ∀ operator ∈ (operators : List (Operator σ)),
    operator.implementation.Total := by
  simp only [operators, List.forall_mem_cons, List.not_mem_nil, false_imp_iff, implies_true,
    and_true]
  and_intros
  -- The conditional is the last of them, and the only one with branches.
  rotate_right
  · exact selects_conditional
  all_goals exact Body.total_steady

theorem total_random [RandomSource σ] : (random : Operator σ).implementation.Total := by
  intro operands world e next h
  contradiction

theorem total_all [RandomSource σ] : ∀ operator ∈ (all : List (Operator σ)),
    operator.implementation.Total := by
  intro operator member
  rw [all, List.mem_append, List.mem_append] at member
  rcases member with (member | member) | member
  · exact total_operators operator member
  · obtain ⟨⟨name, bounds, run⟩, -, rfl⟩ := List.mem_map.1 member
    exact Body.total_steady
  · rw [List.mem_singleton.1 member]
    exact total_random

end Builtin

namespace Registry

/-- All operators and functions of the built-in registry are total. -/
theorem total_builtin [RandomSource σ] : (builtin : Registry σ).Total := Builtin.total_all

/-! ## Bodies in a total registry -/

namespace Total

variable {registry : Registry σ} {symbol name : String}

/-- What is found in a total registry is total. -/
theorem of_resolve? (h : registry.Total) {arity : Arity} {operator : Operator σ}
    (resolved : registry.resolve? symbol arity = some operator) :
    operator.implementation.Total :=
  h operator (resolve?_eq_some_iff.1 resolved).1

theorem unary (h : registry.Total) {body : Body σ Float}
    (found : registry.unaryBody? symbol = some body) : body.Total := by
  obtain ⟨operator, resolved, -⟩ := Option.bind_eq_some_iff.1 found
  obtain ⟨body', himplementation, hbody⟩ := exists_unaryBody resolved
  cases found.symm.trans hbody
  simpa only [himplementation, Implementation.Total] using h.of_resolve? resolved

theorem binary (h : registry.Total) {body : Body σ (Float × Float)}
    (found : registry.binaryBody? symbol = some body) : body.Total := by
  obtain ⟨operator, resolved, -⟩ := Option.bind_eq_some_iff.1 found
  obtain ⟨body', himplementation, hbody⟩ := exists_binaryBody resolved
  cases found.symm.trans hbody
  simpa only [himplementation, Implementation.Total] using h.of_resolve? resolved

/-- A ternary operator of a total registry takes the branch that its condition names, and no
other. -/
theorem ternary (h : registry.Total) {body : TernaryBody σ}
    (found : registry.ternaryBody? symbol = some body) (condition : Float)
    (ifTrue ifFalse : Eval σ Float) :
    body.apply condition ifTrue ifFalse =
      if Math.truthy condition then ifTrue else ifFalse := by
  obtain ⟨operator, resolved, -⟩ := Option.bind_eq_some_iff.1 found
  obtain ⟨separator, body', himplementation, hbody⟩ := exists_ternaryBody resolved
  cases found.symm.trans hbody
  have total := h.of_resolve? resolved
  rw [himplementation] at total
  exact total condition ifTrue ifFalse

theorem function (h : registry.Total) {body : Body σ (List Float)}
    (found : registry.functionBody? name = some body) : body.Total := by
  obtain ⟨operator, resolved, -⟩ := Option.bind_eq_some_iff.1 found
  obtain ⟨bounds, body', himplementation, -, hbody⟩ := exists_functionBody resolved
  cases found.symm.trans hbody
  simpa only [himplementation, Implementation.Total] using h.of_resolve? resolved

end Total

end Registry

/-! ## Expressions -/

namespace Expr

variable {registry : Registry σ} {binding? : String → Option (Binding σ)} {expr : Expr}

/-- The name of one of these occurrences has no binding. -/
def Lacks (binding? : String → Option (Binding σ)) (occurrences : List String) (name : String) :
    Prop :=
  name ∈ occurrences ∧ binding? name = none

theorem Lacks.left {front rest : List String} {name : String} (h : Lacks binding? front name) :
    Lacks binding? (front ++ rest) name :=
  ⟨List.mem_append_left rest h.1, h.2⟩

theorem Lacks.right {front rest : List String} {name : String} (h : Lacks binding? rest name) :
    Lacks binding? (front ++ rest) name :=
  ⟨List.mem_append_right front h.1, h.2⟩

/-- Reading a variable fails only if nothing is bound to it. -/
theorem readAs_failsOnlyFor (name : String) :
    (Binding.readAs name (binding? name)).FailsOnlyFor (Lacks binding? [name]) := by
  intro world e next failed
  cases hbound : binding? name with
  | some binding =>
    rw [hbound] at failed
    cases binding <;> contradiction
  | none =>
    rw [hbound] at failed
    cases failed
    exact ⟨name, ⟨List.mem_singleton_self name, hbound⟩, rfl⟩

/-- Arguments fail only for variables that lack a binding, if each of them does. -/
theorem interpretAll_failsOnlyFor {args : List Expr}
    (ih : ∀ arg ∈ args, arg.fault? registry = none →
      (arg.meaning registry binding?).FailsOnlyFor (Lacks binding? arg.occurrences))
    (faultless : firstFault? registry (nodesAll args) = none) :
    (interpretAll registry (fun name => Binding.readAs name (binding? name)) args).FailsOnlyFor
      (Lacks binding? (occurrencesAll args)) := by
  induction args with
  | nil => exact .pure _ _
  | cons arg args iht =>
    rw [nodesAll, firstFault?_append, Option.or_eq_none_iff] at faultless
    rw [List.forall_mem_cons] at ih
    have first := ih.1 faultless.1
    have rest := iht ih.2 faultless.2
    rw [interpretAll, occurrencesAll]
    exact (first.imp fun _ => Lacks.left).bind fun value =>
      (rest.imp fun _ => Lacks.right).bind fun values => .pure _ _

/-- An expression without a fault fails only at one of its variables, if its operators are
total. -/
theorem meaning_failsOnlyFor (total : registry.Total) (faultless : expr.fault? registry = none) :
    (expr.meaning registry binding?).FailsOnlyFor (Lacks binding? expr.occurrences) := by
  induction expr with
  | constant value => exact .pure _ _
  | var name => exact readAs_failsOnlyFor name
  | unary symbol operand offset ih =>
    obtain ⟨⟨body, hbody⟩, hoperand⟩ := faultless_unary faultless
    rw [meaning, interpret, hbody]
    exact (ih hoperand).bind fun value => (total.unary hbody value).imp fun _ => False.elim
  | binary symbol left right offset ihl ihr =>
    obtain ⟨⟨body, hbody⟩, hleft, hright⟩ := faultless_binary faultless
    rw [meaning, interpret, hbody, occurrences]
    exact ((ihl hleft).imp fun _ => Lacks.left).bind fun l =>
      ((ihr hright).imp fun _ => Lacks.right).bind fun r =>
        (total.binary hbody (l, r)).imp fun _ => False.elim
  | ternary symbol condition ifTrue ifFalse offset ihc iht ihf =>
    obtain ⟨⟨body, hbody⟩, hcondition, htrue, hfalse⟩ := faultless_ternary faultless
    rw [meaning, interpret, hbody, occurrences]
    refine ((ihc hcondition).imp fun _ h => h.left.left).bind fun c => ?_
    rw [Option.elim_some, total.ternary hbody]
    split
    · exact (iht htrue).imp fun _ h => h.right.left
    · exact (ihf hfalse).imp fun _ h => h.right
  | call name args offset ih =>
    obtain ⟨⟨body, hbody⟩, hargs⟩ := faultless_call faultless
    rw [meaning, interpret, hbody, occurrences]
    exact (interpretAll_failsOnlyFor ih hargs).bind fun values =>
      (total.function hbody values).imp fun _ => False.elim

/-- An expression without a fault has a value if its variables are bound. -/
theorem exists_meaning_ok (total : registry.Total) (faultless : expr.fault? registry = none)
    (bound : ∀ name, ¬ Lacks binding? expr.occurrences name) (world : σ) :
    ∃ value next, expr.meaning registry binding? world = .ok value next :=
  (meaning_failsOnlyFor total faultless).exists_ok bound world

/-- Once its condition has a value, a conditional is the branch that the value selects. -/
theorem meaning_ternary {symbol : String} {condition ifTrue ifFalse : Expr} {offset : Nat}
    {selector : Float} {world middle : σ} (total : registry.Total)
    (faultless : (ternary symbol condition ifTrue ifFalse offset).fault? registry = none)
    (selected : condition.meaning registry binding? world = .ok selector middle) :
    (ternary symbol condition ifTrue ifFalse offset).meaning registry binding? world =
      (if Math.truthy selector then ifTrue else ifFalse).meaning registry binding? middle := by
  obtain ⟨⟨body, hbody⟩, -⟩ := faultless_ternary faultless
  rw [meaning, interpret, Eval.bind_of_ok selected, hbody, Option.elim_some, total.ternary hbody]
  by_cases truth : Math.truthy selector = true
  · simp only [truth, if_true]
  · simp only [truth]
    rfl

/-- The variables of an expression that is a ternary operation on three of them. -/
def ternaryNames? : Expr → Option (List String)
  | .ternary _ (.var condition) (.var ifTrue) (.var ifFalse) _ => some [condition, ifTrue, ifFalse]
  | _ => none

/-- Three names make up a ternary operation on variables. -/
theorem eq_ternary_of_ternaryNames? {condition ifTrue ifFalse : String}
    (h : ternaryNames? expr = some [condition, ifTrue, ifFalse]) : ∃ symbol offset,
      expr = .ternary symbol (.var condition) (.var ifTrue) (.var ifFalse) offset := by
  unfold ternaryNames? at h
  split at h
  · next symbol c t f offset =>
    cases h
    exact ⟨symbol, offset, rfl⟩
  · contradiction

end Expr

/-! ## Formulas -/

/-- The call leaves the operators as they are. -/
def Call.KeepsRegistry : Call σ → Prop
  | .setRegistry _ => False
  | _ => True

namespace Content

variable {content : Content σ}

/-- There is an expression, without a fault. -/
def Faultless (content : Content σ) : Prop :=
  ∃ expr, content.expr? = some expr ∧ expr.fault? content.registry = none

/-- Calls that keep the registry leave it as it is. -/
theorem registry_call {call : Call σ} (kept : call.KeepsRegistry) :
    (content.call call).registry = content.registry := by
  cases call with
  | setText text =>
    simp only [Content.call]
    split <;> rfl
  | setRegistry registry => exact kept.elim
  | _ => rfl

/-- With the same operators a new text has no fault, either. -/
theorem Faultless.call (h : content.Faultless) {call : Call σ} (kept : call.KeepsRegistry) :
    (content.call call).Faultless := by
  cases call with
  | setText text =>
    simp only [Content.call]
    split
    · next expr hparse => exact ⟨expr, rfl, Grammar.fault?_of_parse hparse⟩
    · exact h
  | setRegistry registry => exact kept.elim
  | _ => exact h

/-- Calls that keep the registry keep the expression free of faults. -/
theorem Faultless.history (h : content.Faultless) {calls : List (Call σ)}
    (kept : ∀ call ∈ calls, call.KeepsRegistry) :
    (calls.foldl Content.call content).Faultless ∧
      (calls.foldl Content.call content).registry = content.registry := by
  induction calls generalizing content with
  | nil => exact ⟨h, rfl⟩
  | cons call calls ih =>
    rw [List.forall_mem_cons] at kept
    have first := h.call kept.1
    obtain ⟨hrest, hregistry⟩ := ih first kept.2
    exact ⟨hrest, hregistry.trans (registry_call kept.1)⟩

end Content

/-- What is made of a text has no fault. -/
theorem Creation.faultless_ofText {text : String} {registry : Registry σ} {options : Options}
    {formula : Formula σ} (made : Formula.ofText? text registry options = .ok formula) :
    (Creation.ofText text registry options).content.Faultless := by
  obtain ⟨expr, hparse⟩ := Formula.exists_parse_of_ofText? made
  refine ⟨expr, ?_, Grammar.fault?_of_parse hparse⟩
  rw [content, hparse]
  rfl

namespace Formula

variable {formula : Formula σ} {expr : Expr}

/-- The unbound names are the variables of the expression that lack a binding. -/
theorem mem_unbound_iff {name : String} (h : formula.expr? = some expr) :
    name ∈ formula.unbound ↔ Expr.Lacks formula.variables.binding? expr.occurrences name := by
  simp [unbound, referenced, h, Expr.variables, Expr.Lacks, Variables.contains]

/-- A part of the expression without unbound variables has all of its variables bound. -/
theorem not_lacks_of_unbound {part : Expr} (h : formula.expr? = some expr)
    (within : ∀ name ∈ part.occurrences, name ∈ expr.occurrences)
    (apart : ∀ name ∈ formula.unbound, name ∉ part.variables) (name : String) :
    ¬ Expr.Lacks formula.variables.binding? part.occurrences name := by
  rintro ⟨member, free⟩
  have hunbound : name ∈ formula.unbound := (mem_unbound_iff h).2 ⟨within name member, free⟩
  exact apart name hunbound (by simpa [Expr.variables] using member)

/-- Evaluating a current formula gives the meaning of its expression. -/
theorem evaluate_eq_meaning (current : formula.Current) (hexpr : formula.expr? = some expr)
    (faultless : expr.fault? formula.registry = none) (world : σ) :
    ((formula.evaluate world).1, (formula.evaluate world).2.2) =
      match expr.meaning formula.registry formula.variables.binding? world with
      | .ok value world => (.ok value, world)
      | .error e world => (.error (.eval e), world) := by
  rw [current.evaluate, Content.evaluate]
  have hcontent : formula.content.expr? = some expr := hexpr
  have hfault : expr.fault? formula.content.registry = none := faultless
  simp only [hcontent, hfault]
  rfl

/-- With total operators, evaluating an expression without a fault gives a value or fails for a
variable that is not bound. -/
theorem evaluate_of_total (current : formula.Current) (total : formula.registry.Total)
    (hexpr : formula.expr? = some expr) (faultless : expr.fault? formula.registry = none)
    (world : σ) :
    (∃ value, (formula.evaluate world).1 = .ok value) ∨
      ∃ name ∈ formula.unbound, (formula.evaluate world).1 = .error (.eval (.unbound name)) := by
  have result := congrArg Prod.fst (evaluate_eq_meaning current hexpr faultless world)
  have fails := @Expr.meaning_failsOnlyFor σ formula.registry formula.variables.binding? expr total
    faultless
  cases hmeaning : expr.meaning formula.registry formula.variables.binding? world with
  | ok value next =>
    rw [hmeaning] at result
    exact .inl ⟨value, result⟩
  | error e next =>
    rw [hmeaning] at result
    obtain ⟨name, lacks, rfl⟩ := fails world e next hmeaning
    exact .inr ⟨name, (mem_unbound_iff hexpr).2 lacks, result⟩

/-- With total operators, a conditional is evaluated if the variables of its condition and of the
branch that is selected are bound. -/
theorem evaluate_ternary_of_total {symbol : String} {condition ifTrue ifFalse : Expr}
    {offset : Nat} (current : formula.Current) (total : formula.registry.Total)
    (hexpr : formula.expr? = some (.ternary symbol condition ifTrue ifFalse offset))
    (faultless : (Expr.ternary symbol condition ifTrue ifFalse offset).fault? formula.registry =
      none)
    (bound : ∀ name ∈ formula.unbound, name ∉ condition.variables) (world : σ) :
    ∃ selector middle,
      condition.meaning formula.registry formula.variables.binding? world =
        .ok selector middle ∧
      let branch := if Math.truthy selector then ifTrue else ifFalse
      (∀ name ∈ formula.unbound, name ∉ branch.variables) →
      ∃ value last,
        branch.meaning formula.registry formula.variables.binding? middle = .ok value last ∧
        ((formula.evaluate world).1, (formula.evaluate world).2.2) = (.ok value, last) := by
  obtain ⟨-, hcondition, htrue, hfalse⟩ := Expr.faultless_ternary faultless
  have inCondition : ∀ name ∈ condition.occurrences,
      name ∈ (Expr.ternary symbol condition ifTrue ifFalse offset).occurrences := by
    intro name member
    simp [Expr.occurrences, member]
  obtain ⟨selector, middle, hselector⟩ := Expr.exists_meaning_ok total hcondition
    (not_lacks_of_unbound hexpr inCondition bound) world
  refine ⟨selector, middle, hselector, fun bound' => ?_⟩
  have hbranch : (if Math.truthy selector then ifTrue else ifFalse).fault? formula.registry =
      none := by
    split
    · exact htrue
    · exact hfalse
  have inBranch : ∀ name ∈ (if Math.truthy selector then ifTrue else ifFalse).occurrences,
      name ∈ (Expr.ternary symbol condition ifTrue ifFalse offset).occurrences := by
    intro name member
    split at member <;> simp [Expr.occurrences, member]
  obtain ⟨value, last, hvalue⟩ := Expr.exists_meaning_ok total hbranch
    (not_lacks_of_unbound hexpr inBranch bound') middle
  refine ⟨value, last, hvalue, ?_⟩
  rw [evaluate_eq_meaning current hexpr faultless, Expr.meaning_ternary total faultless hselector,
    hvalue]

/-- **Built-in formulas fail only on unbound names.** A text that was taken with the built-in
operators, with whatever options, evaluates to a value or to the error that one of its unbound
variables is not bound, whatever has been bound, unbound and evaluated since, as long as the
operators are kept. So it has a value if no variable is unbound; and a conditional has the value of
the branch that its condition selects, if the variables of the condition and of that branch are
bound, whether or not those of the other branch are. -/
theorem evaluate_builtin [RandomSource σ] (text : String) (options : Options)
    (formula : Formula σ) (made : ofText? text Registry.builtin options = .ok formula)
    (calls : List (Call σ)) (kept : ∀ call ∈ calls, call.KeepsRegistry) (world : σ) :
    let current := calls.foldl call formula
    ((∃ value, (current.evaluate world).1 = .ok value) ∨
      ∃ name ∈ current.unbound,
        (current.evaluate world).1 = .error (.eval (.unbound name))) ∧
    (current.unbound = [] → ∃ value, (current.evaluate world).1 = .ok value) ∧
    ∀ symbol condition ifTrue ifFalse offset,
      current.expr? = some (.ternary symbol condition ifTrue ifFalse offset) →
      (∀ name ∈ current.unbound, name ∉ condition.variables) →
      ∃ selector middle,
        condition.meaning Registry.builtin current.variables.binding? world =
          .ok selector middle ∧
        let branch := if Math.truthy selector then ifTrue else ifFalse
        (∀ name ∈ current.unbound, name ∉ branch.variables) →
        ∃ value last,
          branch.meaning Registry.builtin current.variables.binding? middle = .ok value last ∧
          ((current.evaluate world).1, (current.evaluate world).2.2) = (.ok value, last) := by
  intro current
  let creation : Creation σ := .ofText text Registry.builtin options
  obtain ⟨hmade, hcontent⟩ := @Creation.made σ creation formula made
  have hcurrent : current.Current := hmade.history calls
  have hlast : current.content = calls.foldl Content.call creation.content := by
    rw [← hcontent, content_history]
  obtain ⟨⟨expr, hexpr, faultless⟩, hregistry⟩ := (Creation.faultless_ofText made).history kept
  rw [← hlast] at hexpr faultless hregistry
  have hregistry : current.registry = Registry.builtin := hregistry
  have total : current.registry.Total := hregistry ▸ Registry.total_builtin
  have first := evaluate_of_total hcurrent total hexpr faultless world
  refine ⟨first, fun none => ?_, ?_⟩
  · rw [none] at first
    exact first.resolve_right (by simp)
  · intro symbol condition ifTrue ifFalse offset htree bound
    cases hexpr.symm.trans htree
    rw [← hregistry]
    exact evaluate_ternary_of_total hcurrent total htree faultless bound world

/-- With the condition met, the third variable need not be bound. -/
theorem evaluate_builtin_untaken_branch :
    ∃ formula : Formula Generator,
      ofText? "a ? b : c" Registry.builtin Options.standard = .ok formula ∧
      let current := [.bind "a" (.static 1), .bind "b" (.static 2)].foldl call formula
      current.unbound = ["c"] ∧ ∃ value, (current.evaluate ⟨0⟩).1 = .ok value := by
  have makes : (ofText? "a ? b : c" (Registry.builtin : Registry Generator)
      Options.standard).isOk = true := by
    decide +kernel
  cases made : ofText? "a ? b : c" (Registry.builtin : Registry Generator) Options.standard with
  | error e => simp [made, Except.isOk, Except.toBool] at makes
  | ok formula =>
    let creation : Creation Generator := .ofText "a ? b : c" Registry.builtin Options.standard
    let calls : List (Call Generator) := [.bind "a" (.static 1), .bind "b" (.static 2)]
    have hnames : creation.content.expr?.bind Expr.ternaryNames? = some ["a", "b", "c"] := by
      decide +kernel
    obtain ⟨expr, htree, hternary⟩ := Option.bind_eq_some_iff.1 hnames
    obtain ⟨symbol, offset, rfl⟩ := Expr.eq_ternary_of_ternaryNames? hternary
    obtain ⟨-, hcontent⟩ := @Creation.made _ creation formula made
    have hlast : (calls.foldl call formula).content =
        calls.foldl Content.call creation.content := by
      rw [← hcontent, content_history]
    have hexpr : (calls.foldl call formula).expr? = creation.content.expr? :=
      congrArg Content.expr? hlast
    have hbinding : (calls.foldl call formula).variables.binding? = _ :=
      congrArg Content.binding? hlast
    rw [htree] at hexpr
    have hunbound : (calls.foldl call formula).unbound = ["c"] := by
      have hreferenced : (calls.foldl call formula).referenced = ["a", "b", "c"] := by
        rw [referenced, hexpr]
        rfl
      simp only [unbound, hreferenced, Variables.contains, hbinding]
      decide +kernel
    refine ⟨formula, rfl, hunbound, ?_⟩
    obtain ⟨selector, middle, hselector, hbranch⟩ :=
      (evaluate_builtin "a ? b : c" Options.standard formula made calls
        (by simp [calls, Call.KeepsRegistry]) ⟨0⟩).2.2
        symbol (.var "a") (.var "b") (.var "c") offset hexpr (by rw [hunbound]; decide)
    have hone : selector = 1 := by
      rw [hbinding] at hselector
      cases hselector
      rfl
    have hthen : Math.truthy selector = true := by
      rw [Math.truthy_iff, hone]
      exact .inr (.inl (by decide))
    obtain ⟨value, last, -, hvalue⟩ := hbranch (by rw [hunbound, hthen]; decide)
    exact ⟨value, congrArg Prod.fst hvalue⟩

end Formula

end Formulary
