import Formulary.Proofs.Agreement

/-!
# Formulary.Proofs.Faults

When compiling fails, and for which node.

A node has a fault if the registry lacks its operator or if its function refuses the number of
its arguments (`Expr.HasFault`). Compiling fails exactly if some node has a fault, and the error is
the one of the first such node in preorder (`Expr.compile_error_iff`). Neither the bindings nor
folding have a part in that: an operation that is evaluated ahead of time and fails stays where it
is. The registry never returns an operator whose implementation is of another arity than the one
that was asked for.
-/

namespace Formulary

variable {σ : Type}

namespace Expr

/-- The place in the text that the node points to. -/
def ownOffset? : Expr → Option Nat
  | constant _ | var _ => none
  | unary _ _ offset | binary _ _ _ offset | ternary _ _ _ _ offset | call _ _ offset => some offset

/-- The node cannot be compiled for this reason, whatever its operands are. -/
inductive HasFault (registry : Registry σ) : Expr → CompileError → Prop
  /-- The operator or function of the node is not registered. -/
  | missing {node : Expr} {symbol : String} {arity : Arity} {offset : Nat}
      (key : node.ownKey? = some (symbol, arity)) (place : node.ownOffset? = some offset)
      (absent : registry.resolve? symbol arity = none) :
      HasFault registry node (.missingOperator symbol arity offset)
  /-- The function does not accept as many arguments as the call has. -/
  | refused {name : String} {args : List Expr} {offset : Nat} {operator : Operator σ}
      {bounds : ArgBounds} (resolved : registry.function? name = some operator)
      (bounded : operator.bounds? = some bounds)
      (excess : args.length < bounds.least ∨ ∃ most ∈ bounds.most, most < args.length) :
      HasFault registry (.call name args offset)
        (.argumentCount operator.symbol bounds args.length offset)

/-- The node cannot be compiled. -/
def Faulty (registry : Registry σ) (node : Expr) : Prop := ∃ e, HasFault registry node e

variable {registry : Registry σ} {node expr : Expr} {nodes : List Expr} {e : CompileError}

/-- What is reported as missing is not in the registry, and the report names it. -/
theorem missing?_eq_some_iff {symbol : String} {arity : Arity} {offset : Nat} :
    missing? registry symbol arity offset = some e ↔
      registry.resolve? symbol arity = none ∧ e = .missingOperator symbol arity offset := by
  unfold missing?
  cases registry.resolve? symbol arity <;> simp [eq_comm]

/-- A fault is found by the check of its node. -/
theorem HasFault.ownFault?_eq (h : HasFault registry node e) :
    ownFault? registry node = some e := by
  cases h with
  | missing key place absent =>
    cases node with
    | constant value => contradiction
    | var name => contradiction
    | call name args offset' =>
      cases key
      cases place
      simp [ownFault?, Registry.function?, absent]
    | _ =>
      cases key
      cases place
      exact missing?_eq_some_iff.2 ⟨absent, rfl⟩
  | refused resolved bounded excess =>
    simp [ownFault?, resolved, bounded, ArgBounds.admits_eq_false_iff.2 excess]

/-- The check of a node finds faults only. -/
theorem hasFault_of_ownFault? (h : ownFault? registry node = some e) :
    HasFault registry node e := by
  cases node with
  | constant value => contradiction
  | var name => contradiction
  | unary symbol operand offset =>
    obtain ⟨absent, rfl⟩ := missing?_eq_some_iff.1 h
    exact .missing rfl rfl absent
  | binary symbol left right offset =>
    obtain ⟨absent, rfl⟩ := missing?_eq_some_iff.1 h
    exact .missing rfl rfl absent
  | ternary symbol condition ifTrue ifFalse offset =>
    obtain ⟨absent, rfl⟩ := missing?_eq_some_iff.1 h
    exact .missing rfl rfl absent
  | call name args offset =>
    simp only [ownFault?] at h
    split at h
    · next absent =>
      cases h
      exact .missing rfl rfl absent
    · next operator resolved =>
      obtain ⟨bounds, filtered, rfl⟩ := Option.map_eq_some_iff.1 h
      obtain ⟨bounded, excess⟩ := Option.filter_eq_some_iff.1 filtered
      exact .refused resolved bounded (ArgBounds.admits_eq_false_iff.1 (by simpa using excess))

/-- The faults of a node are what compiling finds wrong with it. -/
theorem ownFault?_eq_some_iff : ownFault? registry node = some e ↔ HasFault registry node e :=
  ⟨hasFault_of_ownFault?, HasFault.ownFault?_eq⟩

/-- The check finds nothing exactly if the node has no fault. -/
theorem ownFault?_eq_none_iff : ownFault? registry node = none ↔ ¬ Faulty registry node := by
  simp only [Option.eq_none_iff_forall_ne_some, ne_eq, ownFault?_eq_some_iff, Faulty, not_exists]

/-- The first fault in a list of nodes is that of a node behind others that have none. -/
theorem firstFault?_eq_some_iff : firstFault? registry nodes = some e ↔
    ∃ before node after, nodes = before ++ node :: after ∧
      (∀ other ∈ before, ¬ Faulty registry other) ∧ HasFault registry node e := by
  simp only [← ownFault?_eq_none_iff, ← ownFault?_eq_some_iff]
  rw [firstFault?, List.findSome?_eq_some_iff]
  constructor
  · rintro ⟨before, node, after, split, own, free⟩
    exact ⟨before, node, after, split, free, own⟩
  · rintro ⟨before, node, after, split, free, own⟩
    exact ⟨before, node, after, split, own, free⟩

/-- An expression has a fault exactly if one of its nodes has. -/
theorem fault?_ne_none_iff :
    (∃ e, expr.fault? registry = some e) ↔ ∃ node ∈ expr.nodes, Faulty registry node := by
  simp only [Faulty, ← ownFault?_eq_some_iff, ← Option.isSome_iff_exists]
  rw [fault?, firstFault?, List.isSome_findSome?, List.any_eq_true]

/-- Compiling fails with the fault of the expression and with nothing else. -/
theorem compile_eq_error_iff {folding : Bool} {table : Variables σ} :
    (expr.compile registry folding table).1 = .error e ↔ expr.fault? registry = some e := by
  cases hfault : expr.fault? registry with
  | some found => simp [compile_eq_error hfault]
  | none =>
    obtain ⟨evaluator, hcompile, -⟩ := @compile_eq_ok σ registry folding table expr hfault
    simp [hcompile]

/-- **The first culprit**: compiling fails if and only if a node of the expression has a fault, and
then with the fault of the first such node in preorder. Folding and bindings do not matter. An
operator that is found has an implementation of the arity that was asked for, so a missing operator
is one that the registry does not have. -/
theorem compile_error_iff (expr : Expr) (registry : Registry σ) :
    (∀ (folding : Bool) (table : Variables σ),
      (∃ e, (expr.compile registry folding table).1 = .error e) ↔
        ∃ node ∈ expr.nodes, Faulty registry node) ∧
    (∀ (folding : Bool) (table : Variables σ) (e : CompileError),
      (expr.compile registry folding table).1 = .error e ↔
        ∃ before node after, expr.nodes = before ++ node :: after ∧
          (∀ other ∈ before, ¬ Faulty registry other) ∧ HasFault registry node e) ∧
    ∀ symbol arity operator, registry.resolve? symbol arity = some operator →
      operator.implementation.arity = arity := by
  refine ⟨fun folding table => ?_, fun folding table e => ?_, fun symbol arity operator found => ?_⟩
  · simp only [compile_eq_error_iff]
    exact fault?_ne_none_iff
  · rw [compile_eq_error_iff, fault?, firstFault?_eq_some_iff]
  · exact (Registry.resolve?_eq_some_iff.1 found).2.2

end Expr

end Formulary
