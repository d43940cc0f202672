import Formulary.Proofs.Interpreter
import Formulary.Proofs.Variables

/-!
# Formulary.Proofs.Compile

What compiling does: to the table, to the expression, and when it fails.

Compiling goes through the nodes of an expression in preorder, so what it does
is said of a list of nodes (`Compile.Tracks`). It fails with the fault of the
first node that has one; it gives a slot to each variable before that node; and
if there is no such node, the result evaluates as the expression is interpreted,
its variables being read from the slots of their names (`Node.Denotes`). Folding
changes none of this.
-/

namespace Formulary

variable {σ : Type}

/-! ## Folding a node -/

namespace Node

/-- A node whose value is told is the constant of that value. -/
theorem eq_constant_of_value? {node : Node σ} {value : Float} (h : node.value? = some value) :
    node = .constant value := by
  cases node with
  | constant other => exact congrArg constant (Option.some.inj h)
  | _ => exact absurd h (by simp [value?])

/-- Arguments whose values are told evaluate to these. -/
theorem evalAll_of_values? {args : List (Node σ)} {values : List Float}
    (h : args.mapM value? = some values) (table : Variables σ) :
    evalAll table args = pure values := by
  induction args generalizing values with
  | nil =>
    cases h
    rfl
  | cons arg args ih =>
    rw [List.mapM_cons] at h
    obtain ⟨value, hvalue, hrest⟩ := Option.bind_eq_some_iff.1 h
    obtain ⟨others, hothers, hvalues⟩ := Option.bind_eq_some_iff.1 hrest
    cases hvalues
    rw [evalAll, eq_constant_of_value? hvalue, ih hothers]
    rfl

/-- An outcome told ahead of time is that of every evaluation, with any table and in any world,
and evaluating leaves the world alone. -/
theorem eval_of_outcome? {node : Node σ} {outcome : Except EvalError Float}
    (h : node.outcome? = some outcome) (table : Variables σ) :
    node.eval table = Eval.ofExcept outcome := by
  unfold outcome? at h
  split at h
  · next run operand =>
    obtain ⟨value, hvalue, houtcome⟩ := Option.bind_eq_some_iff.1 h
    cases houtcome
    rw [eq_constant_of_value? hvalue]
    rfl
  · next run left right =>
    obtain ⟨l, hleft, hrest⟩ := Option.bind_eq_some_iff.1 h
    obtain ⟨r, hright, houtcome⟩ := Option.bind_eq_some_iff.1 hrest
    cases houtcome
    rw [eq_constant_of_value? hleft, eq_constant_of_value? hright]
    rfl
  · next run condition ifTrue ifFalse =>
    obtain ⟨c, hcondition, hrest⟩ := Option.bind_eq_some_iff.1 h
    obtain ⟨t, htrue, hrest⟩ := Option.bind_eq_some_iff.1 hrest
    obtain ⟨f, hfalse, houtcome⟩ := Option.bind_eq_some_iff.1 hrest
    cases houtcome
    rw [eq_constant_of_value? hcondition, eq_constant_of_value? htrue, eq_constant_of_value? hfalse]
    exact Deferred.run_ofExcept (run c) (.ok t) (.ok f)
  · next run args =>
    obtain ⟨values, hvalues, houtcome⟩ := Option.bind_eq_some_iff.1 h
    cases houtcome
    rw [eval, evalAll_of_values? hvalues]
    rfl
  · contradiction

/-- The node evaluates as the expression is interpreted when each variable is read from the slot
that it has in a table with these names. -/
def Denotes (registry : Registry σ) (expr : Expr) (names : List String) (node : Node σ) : Prop :=
  ∀ table : Variables σ, node.eval table =
    expr.interpret registry fun name => table.read (Variables.slotOf names name)

/-- The nodes evaluate as the expressions are interpreted. -/
def DenoteAll (registry : Registry σ) (args : List Expr) (names : List String)
    (nodes : List (Node σ)) : Prop :=
  ∀ table : Variables σ, evalAll table nodes =
    Expr.interpretAll registry (fun name => table.read (Variables.slotOf names name)) args

end Node

/-! ## Going through nodes -/

namespace Compile

variable {α β : Type}

/-- The computation goes through these nodes. It fails with the fault of the first that has one,
and has then given slots to the variables before it. Otherwise it has given slots to all their
variables, and what it returns is as described for every table that has come to hold more names. -/
def Tracks (registry : Registry σ) (nodes : List Expr) (computation : Compile σ α)
    (post : List String → α → Prop) : Prop :=
  ∀ progress, match computation progress with
    | .ok value after =>
      Expr.firstFault? registry nodes = none ∧
      after.table = progress.table.reserveAll (Expr.reachedIn registry nodes) ∧
      ∀ names, after.table.slotNames <+: names → post names value
    | .error e after =>
      Expr.firstFault? registry nodes = some e ∧
      after.table = progress.table.reserveAll (Expr.reachedIn registry nodes)

namespace Tracks

variable {registry : Registry σ} {nodes others : List Expr} {computation : Compile σ α}
  {post : List String → α → Prop}

theorem imp {weaker : List String → α → Prop} (h : Tracks registry nodes computation post)
    (himp : ∀ names value, post names value → weaker names value) :
    Tracks registry nodes computation weaker := by
  intro progress
  have := h progress
  split at this
  · next value after _ =>
    exact ⟨this.1, this.2.1, fun names extended => himp names value (this.2.2 names extended)⟩
  · exact this

theorem pure {value : α} (h : ∀ names, post names value) :
    Tracks registry [] (pure value) post :=
  fun _ => ⟨rfl, rfl, fun names _ => h names⟩

theorem throw {node : Expr} {e : CompileError} (h : Expr.ownFault? registry node = some e) :
    Tracks registry (node :: nodes) (throw e) post := by
  intro progress
  refine ⟨?_, ?_⟩
  · rw [Expr.firstFault?_cons, h]
    rfl
  · rw [Expr.reachedIn_cons_of_some h]
    rfl

/-- A node without a fault that is no variable leaves the rest as it is. -/
theorem cons {node : Expr} (hown : Expr.ownFault? registry node = none)
    (hname : Expr.ownName? node = none) (h : Tracks registry nodes computation post) :
    Tracks registry (node :: nodes) computation post := by
  intro progress
  have := h progress
  rw [Expr.firstFault?_cons, hown, Option.none_or, Expr.reachedIn_cons_of_none hown, hname]
  exact this

/-- One computation after the other goes through the nodes of both. -/
theorem bind {next : α → Compile σ β} {result : List String → β → Prop}
    (h : Tracks registry nodes computation post)
    (hnext : ∀ value, Tracks registry others (next value)
      fun names value' => post names value → result names value') :
    Tracks registry (nodes ++ others) (computation >>= next) result := by
  intro progress
  show match EStateM.bind computation next progress with
    | .ok value after => _
    | .error e after => _
  have hfirst := h progress
  unfold EStateM.bind
  cases hrun : computation progress with
  | error e after =>
    rw [hrun] at hfirst
    dsimp only
    rw [Expr.firstFault?_append, hfirst.1, Expr.reachedIn_append_of_some hfirst.1]
    exact ⟨rfl, hfirst.2⟩
  | ok value after =>
    rw [hrun] at hfirst
    obtain ⟨hfault, hvariables, hpost⟩ := hfirst
    have hsecond := hnext value after
    dsimp only
    rw [Expr.firstFault?_append, hfault, Option.none_or, Expr.reachedIn_append_of_none hfault,
      Variables.reserveAll_append, ← hvariables]
    cases hrest : next value after with
    | error e last =>
      rw [hrest] at hsecond
      exact hsecond
    | ok value' last =>
      rw [hrest] at hsecond
      obtain ⟨hfault', hvariables', hresult⟩ := hsecond
      refine ⟨hfault', hvariables', fun names extended => hresult names extended ?_⟩
      have hgrown : after.table.slotNames <+: last.table.slotNames := by
        rw [hvariables']
        exact Variables.slotNames_prefix_reserveAll _
      exact hpost names (hgrown.trans extended)

end Tracks

/-! ## The parts of compiling -/

variable {registry : Registry σ}

/-- A variable is given a slot, and reserving returns it. -/
theorem tracks_reserve (name : String) : Tracks registry [.var name] (reserve name)
    fun names (slot : Slot) => slot = Variables.slotOf names name := by
  intro progress
  refine ⟨rfl, rfl, fun names extended => ?_⟩
  show (progress.table.slot name).1 = _
  rw [Variables.slot_fst]
  exact (Variables.slotOf_extend extended Variables.mem_slotNames_reserve).symm

/-- An operator that is missing is the fault of its node. -/
theorem tracks_resolve {α : Type} {node : Expr} {nodes : List Expr} {symbol : String}
    {arity : Arity} {offset : Nat} {next : Operator σ → Compile σ α}
    {post : List String → α → Prop}
    (hmissing : registry.resolve? symbol arity = none →
      Expr.ownFault? registry node = some (.missingOperator symbol arity offset))
    (hfound : ∀ operator, registry.resolve? symbol arity = some operator →
      Tracks registry (node :: nodes) (next operator) post) :
    Tracks registry (node :: nodes) (resolve registry symbol arity offset >>= next) post := by
  unfold resolve
  cases resolved : registry.resolve? symbol arity with
  | none => exact .throw (hmissing resolved)
  | some operator => exact hfound operator resolved

/-- A folded node evaluates as it did. -/
theorem tracks_fold (folding : Bool) (symbol : String) (node : Node σ) :
    Tracks registry [] (fold folding symbol node) fun _ folded =>
      ∀ table : Variables σ, folded.eval table = node.eval table := by
  unfold fold
  split
  · exact .pure fun _ _ => rfl
  · next value houtcome =>
    have hnode : node.outcome? = some (.ok value) := by
      cases folding with
      | true => exact houtcome
      | false => contradiction
    intro progress
    exact ⟨rfl, rfl, fun names _ table => (Node.eval_of_outcome? hnode table).symm⟩
  · intro progress
    exact ⟨rfl, rfl, fun _ _ _ => rfl⟩

/-! ## Compiling an expression -/

section Nodes

variable {folding : Bool} {symbol name : String} {operator : Operator σ}
  {operand left right condition ifTrue ifFalse : Expr} {args : List Expr} {offset : Nat}

/-- The case of a unary operation: the node itself comes first, then its operand. -/
theorem tracks_unary (ih : Tracks registry operand.nodes (node registry folding operand)
      fun names node => node.Denotes registry operand names) :
    Tracks registry (Expr.unary symbol operand offset).nodes
      (node registry folding (.unary symbol operand offset))
      fun names node => node.Denotes registry (.unary symbol operand offset) names := by
  rw [Expr.nodes, node, ← List.append_nil operand.nodes]
  refine tracks_resolve (fun missing => by simp [Expr.ownFault?, Expr.missing?, missing])
    fun operator resolved => ?_
  obtain ⟨body, himplementation, hbody⟩ := Registry.exists_unaryBody resolved
  simp only [himplementation]
  refine .cons (by simp [Expr.ownFault?, Expr.missing?, resolved]) rfl (ih.bind fun o => ?_)
  refine (tracks_fold folding operator.symbol _).imp fun names folded hfolded ho table => ?_
  rw [hfolded, Node.eval, Expr.interpret, ho, hbody]
  rfl

/-- The case of a binary operation, whose operands come from left to right. -/
theorem tracks_binary (ihl : Tracks registry left.nodes (node registry folding left)
      fun names node => node.Denotes registry left names)
    (ihr : Tracks registry right.nodes (node registry folding right)
      fun names node => node.Denotes registry right names) :
    Tracks registry (Expr.binary symbol left right offset).nodes
      (node registry folding (.binary symbol left right offset))
      fun names node => node.Denotes registry (.binary symbol left right offset) names := by
  rw [Expr.nodes, node, ← List.append_nil right.nodes]
  refine tracks_resolve (fun missing => by simp [Expr.ownFault?, Expr.missing?, missing])
    fun operator resolved => ?_
  obtain ⟨body, himplementation, hbody⟩ := Registry.exists_binaryBody resolved
  simp only [himplementation]
  refine .cons (by simp [Expr.ownFault?, Expr.missing?, resolved]) rfl
    (ihl.bind fun l => ihr.bind fun r => ?_)
  refine (tracks_fold folding operator.symbol _).imp fun names folded hfolded hr hl table => ?_
  rw [hfolded, Node.eval, Expr.interpret, hl, hr, hbody]
  rfl

/-- The case of a ternary operation. Both branches are gone through, whichever is taken later. -/
theorem tracks_ternary (ihc : Tracks registry condition.nodes (node registry folding condition)
      fun names node => node.Denotes registry condition names)
    (iht : Tracks registry ifTrue.nodes (node registry folding ifTrue)
      fun names node => node.Denotes registry ifTrue names)
    (ihf : Tracks registry ifFalse.nodes (node registry folding ifFalse)
      fun names node => node.Denotes registry ifFalse names) :
    Tracks registry (Expr.ternary symbol condition ifTrue ifFalse offset).nodes
      (node registry folding (.ternary symbol condition ifTrue ifFalse offset))
      fun names node =>
        node.Denotes registry (.ternary symbol condition ifTrue ifFalse offset) names := by
  rw [Expr.nodes, node, List.append_assoc, ← List.append_nil ifFalse.nodes]
  refine tracks_resolve (fun missing => by simp [Expr.ownFault?, Expr.missing?, missing])
    fun operator resolved => ?_
  obtain ⟨separator, body, himplementation, hbody⟩ := Registry.exists_ternaryBody resolved
  simp only [himplementation]
  refine .cons (by simp [Expr.ownFault?, Expr.missing?, resolved]) rfl
    (ihc.bind fun c => iht.bind fun t => ihf.bind fun f => ?_)
  refine (tracks_fold folding operator.symbol _).imp fun names folded hfolded hf ht hc table => ?_
  rw [hfolded, Node.eval, Expr.interpret, hc, ht, hf, hbody]
  rfl

/-- Arguments are gone through from left to right. -/
theorem tracks_args (ih : ∀ arg ∈ args, Tracks registry arg.nodes (node registry folding arg)
      fun names node => node.Denotes registry arg names) :
    Tracks registry (Expr.nodesAll args) (nodes registry folding args)
      fun names nodes => Node.DenoteAll registry args names nodes := by
  induction args with
  | nil => exact .pure fun _ _ => rfl
  | cons arg args iht =>
    have hrest := iht fun other member => ih other (List.mem_cons_of_mem _ member)
    rw [Expr.nodesAll, nodes, ← List.append_nil (Expr.nodesAll args)]
    refine (ih arg List.mem_cons_self).bind fun first => hrest.bind fun rest => ?_
    refine .pure fun names hrest hfirst table => ?_
    rw [Node.evalAll, Expr.interpretAll, hfirst, hrest]

/-- The case of a call. The number of its arguments is checked before any of them. -/
theorem tracks_call (ih : ∀ arg ∈ args, Tracks registry arg.nodes (node registry folding arg)
      fun names node => node.Denotes registry arg names) :
    Tracks registry (Expr.call name args offset).nodes
      (node registry folding (.call name args offset))
      fun names node => node.Denotes registry (.call name args offset) names := by
  rw [Expr.nodes, node, ← List.append_nil (Expr.nodesAll args)]
  refine tracks_resolve (fun missing => by simp [Expr.ownFault?, Registry.function?, missing])
    fun operator resolved => ?_
  obtain ⟨bounds, body, himplementation, hbounds, hbody⟩ := Registry.exists_functionBody resolved
  simp only [himplementation]
  cases admitted : bounds.admits args.length with
  | false =>
    exact .throw (by simp [Expr.ownFault?, Registry.function?, resolved, hbounds, admitted])
  | true =>
    refine .cons (by simp [Expr.ownFault?, Registry.function?, resolved, hbounds, admitted]) rfl
      ((tracks_args ih).bind fun values => ?_)
    refine (tracks_fold folding operator.symbol _).imp fun names folded hfolded hall table => ?_
    rw [hfolded, Node.eval, Expr.interpret, hall, hbody]
    rfl

/-- Compiling goes through the nodes of the expression and returns a node that denotes it. -/
theorem tracks_node (folding : Bool) (expr : Expr) :
    Tracks registry expr.nodes (node registry folding expr)
      fun names node => node.Denotes registry expr names := by
  induction expr with
  | constant value =>
    rw [Expr.nodes, node]
    exact .cons rfl rfl (.pure fun _ _ => rfl)
  | var name =>
    rw [Expr.nodes, node, ← List.append_nil [Expr.var name]]
    refine (tracks_reserve name).bind fun slot => .pure fun names hslot table => ?_
    rw [Node.eval, Expr.interpret, hslot]
  | unary symbol operand offset ih => exact tracks_unary ih
  | binary symbol left right offset ihl ihr => exact tracks_binary ihl ihr
  | ternary symbol condition ifTrue ifFalse offset ihc iht ihf => exact tracks_ternary ihc iht ihf
  | call name args offset ih => exact tracks_call ih

end Nodes

end Compile

/-! ## The whole -/

/-- The evaluator is of the expression, for tables whose first slots have these names. -/
structure Evaluator.Fits (registry : Registry σ) (expr : Expr) (names : List String)
    (evaluator : Evaluator σ) : Prop where
  faultless : expr.fault? registry = none
  taken : ∀ name ∈ expr.occurrences, name ∈ names
  denotes : ∀ others, names <+: others → evaluator.root.Denotes registry expr others

namespace Evaluator.Fits

variable {registry : Registry σ} {expr : Expr} {names others : List String}
  {evaluator : Evaluator σ} {table : Variables σ}

/-- An evaluator also fits a table that has come to hold more names. -/
theorem extend (h : evaluator.Fits registry expr names) (extended : names <+: others) :
    evaluator.Fits registry expr others where
  faultless := h.faultless
  taken name member := extended.mem (h.taken name member)
  denotes further longer := h.denotes further (extended.trans longer)

/-- An evaluator that fits gives the value of its expression under the bindings of the table. -/
theorem evaluate (h : evaluator.Fits registry expr table.slotNames) :
    evaluator.evaluate table =
      expr.interpret registry fun name => Binding.readAs name (table.binding? name) := by
  rw [Evaluator.evaluate, h.denotes _ List.prefix_rfl table]
  apply Expr.interpret_congr
  intro name member
  exact Variables.read_slotOf List.prefix_rfl (h.taken name member)

end Evaluator.Fits

namespace Expr

variable {registry : Registry σ} {folding : Bool} {table : Variables σ} {expr : Expr}

/-- Compiling fails with the fault of the expression, if it has one. -/
theorem compile_eq_error {e : CompileError} (h : expr.fault? registry = some e) :
    expr.compile registry folding table =
      (.error e, table.reserveAll (expr.reached registry)) := by
  have htracks := @Compile.tracks_node σ registry folding expr ⟨table, [], 0, []⟩
  cases hrun : Compile.node registry folding expr ⟨table, [], 0, []⟩ with
  | ok root after =>
    rw [hrun] at htracks
    rw [fault?, htracks.1] at h
    contradiction
  | error e' after =>
    rw [hrun] at htracks
    rw [fault?, htracks.1] at h
    cases h
    simp only [compile, hrun, htracks.2]
    rfl

/-- An expression without a fault compiles, and its evaluator fits it. -/
theorem compile_eq_ok (h : expr.fault? registry = none) :
    ∃ evaluator, expr.compile registry folding table =
        (.ok evaluator, table.reserveAll (expr.reached registry)) ∧
      evaluator.Fits registry expr (table.reserveAll (expr.reached registry)).slotNames := by
  have htracks := @Compile.tracks_node σ registry folding expr ⟨table, [], 0, []⟩
  cases hrun : Compile.node registry folding expr ⟨table, [], 0, []⟩ with
  | ok root after =>
    rw [hrun] at htracks
    obtain ⟨-, hvariables, hdenotes⟩ := htracks
    rw [hvariables] at hdenotes
    refine ⟨⟨root, after.slots.length, after.folded, after.refused⟩, ?_, h, ?_, hdenotes⟩
    · simp only [compile, hrun, hvariables]
      rfl
    · intro name member
      rw [reached_of_fault?_eq_none h]
      exact Variables.mem_slotNames_reserveAll member
  | error e after =>
    rw [hrun] at htracks
    rw [fault?, htracks.1] at h
    contradiction

end Expr

end Formulary
