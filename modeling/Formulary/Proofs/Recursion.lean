import Mathlib.Data.List.Basic
import Mathlib.Logic.Function.Iterate
import Formulary.Evaluator
import Formulary.Proofs.Expr

/-!
# Formulary.Proofs.Recursion

How deep the calls go that a function on a tree makes to itself.

The body of a recursive function says what it does with its calls to itself (`Descends`). Repeated
`limit` times around some other function it makes calls that are nested `limit` deep, and those
beyond are calls of the other function. If what it gives is the same with every other function,
there are no calls beyond (`CallsWithin`). Listing variables, rendering, compiling and evaluating
all call themselves at operands only, so none of them makes calls deeper than its tree is high.
-/

namespace Formulary

variable {σ : Type}

/-! ## Calls at operands -/

section Calls

variable {τ α : Type}

/-- The function with this body calls itself at most `limit` deep at a tree: what is done beyond
does not matter. -/
def CallsWithin (limit : Nat) (body : (τ → α) → τ → α) (f : τ → α) (tree : τ) : Prop :=
  ∀ beyond : τ → α, body^[limit] beyond tree = f tree

/-- The function has this body, which calls it at operands of the tree only. -/
structure Descends (operands : τ → List τ) (body : (τ → α) → τ → α) (f : τ → α) : Prop where
  unfolds : ∀ tree, f tree = body f tree
  calls : ∀ {g g' : τ → α} {tree : τ}, (∀ operand ∈ operands tree, g operand = g' operand) →
    body g tree = body g' tree

/-- Calls at operands only are nested at most as deep as the tree is high. -/
theorem Descends.callsWithin {operands : τ → List τ} {body : (τ → α) → τ → α} {f : τ → α}
    {height : τ → Nat} (h : Descends operands body f) (high : ∀ tree, 0 < height tree)
    (lower : ∀ {tree operand : τ}, operand ∈ operands tree → height operand < height tree)
    {limit : Nat} {tree : τ} (within : height tree ≤ limit) : CallsWithin limit body f tree := by
  intro beyond
  -- One body is spent on the tree itself, and the operands are less high.
  induction limit generalizing tree with
  | zero => exact absurd (high tree) (by omega)
  | succ limit ih =>
    rw [Function.iterate_succ_apply', h.unfolds]
    exact h.calls fun operand member => ih (by have := lower member; omega)

end Calls

/-! ## Expressions -/

namespace Expr

/-- The operands of a node, from left to right. -/
def operands : Expr → List Expr
  | constant _ | var _ => []
  | unary _ operand _ => [operand]
  | binary _ left right _ => [left, right]
  | ternary _ condition ifTrue ifFalse _ => [condition, ifTrue, ifFalse]
  | call _ args _ => args

theorem height_pos (expr : Expr) : 0 < expr.height := by
  cases expr <;> simp [height]

/-- An argument is at most as high as the arguments together. -/
theorem height_le_heightAll {args : List Expr} {arg : Expr} (member : arg ∈ args) :
    arg.height ≤ heightAll args := by
  induction args with
  | nil => contradiction
  | cons first rest ih =>
    rw [heightAll]
    rcases List.mem_cons.1 member with rfl | member
    · exact Nat.le_max_left _ _
    · exact Nat.le_trans (ih member) (Nat.le_max_right _ _)

/-- An operand is less high than its node. -/
theorem height_lt_of_mem_operands {expr operand : Expr} (member : operand ∈ expr.operands) :
    operand.height < expr.height := by
  cases expr with
  | constant value => contradiction
  | var name => contradiction
  | unary symbol inner offset =>
    rw [List.mem_singleton.1 member, height]
    omega
  | binary symbol left right offset =>
    simp only [operands, List.mem_cons, List.not_mem_nil, or_false] at member
    rcases member with rfl | rfl <;> simp only [height] <;> omega
  | ternary symbol condition ifTrue ifFalse offset =>
    simp only [operands, List.mem_cons, List.not_mem_nil, or_false] at member
    rcases member with rfl | rfl | rfl <;> simp only [height] <;> omega
  | call name args offset =>
    rw [height]
    exact Nat.lt_succ_of_le (height_le_heightAll member)

/-- A function that calls itself at operands goes as deep as the expression is high. -/
theorem callsWithin {α : Type} {body : (Expr → α) → Expr → α} {f : Expr → α}
    (h : Descends operands body f) {limit : Nat} {expr : Expr} (within : expr.height ≤ limit) :
    CallsWithin limit body f expr :=
  h.callsWithin height_pos height_lt_of_mem_operands within

/-! ### Variables and rendering -/

/-- The body of `Expr.occurrences`. -/
def occurrencesBody (self : Expr → List String) : Expr → List String
  | constant _ => []
  | var name => [name]
  | unary _ operand _ => self operand
  | binary _ left right _ => self left ++ self right
  | ternary _ condition ifTrue ifFalse _ => self condition ++ self ifTrue ++ self ifFalse
  | call _ args _ => args.flatMap self

theorem occurrencesAll_eq_flatMap (args : List Expr) :
    occurrencesAll args = args.flatMap occurrences := by
  induction args with
  | nil => rfl
  | cons arg args ih => rw [occurrencesAll, ih, List.flatMap_cons]

/-- Variables are listed by calls at operands. -/
theorem descends_occurrences : Descends operands occurrencesBody occurrences where
  unfolds expr := by
    cases expr with
    | call name args offset => exact occurrencesAll_eq_flatMap args
    | _ => rfl
  calls {g g' expr} same := by
    cases expr with
    | call name args offset => exact List.flatMap_congr same
    | _ => simp_all [operands, occurrencesBody]

/-- The body of `Expr.chars`. -/
def charsBody (self : Expr → List Char) : Expr → List Char
  | constant value => floatChars .plain value
  | var name => name.toList
  | unary symbol operand _ =>
    '(' :: symbol.toList ++ (if needsSpace symbol then [' '] else []) ++ self operand ++ [')']
  | binary symbol left right _ =>
    '(' :: self left ++ ' ' :: symbol.toList ++ ' ' :: self right ++ [')']
  | ternary symbol condition ifTrue ifFalse _ =>
    symbol.toList ++ '(' :: self condition ++ ',' :: ' ' :: self ifTrue
      ++ ',' :: ' ' :: self ifFalse ++ [')']
  | call name [] _ => name.toList ++ ['(', ')']
  | call name (arg :: args) _ =>
    name.toList ++ '(' :: self arg ++ args.flatMap (fun arg => ',' :: ' ' :: self arg) ++ [')']

theorem charsRest_eq_flatMap (args : List Expr) :
    charsRest args = args.flatMap fun arg => ',' :: ' ' :: arg.chars := by
  induction args with
  | nil => rfl
  | cons arg args ih => rw [charsRest, ih, List.flatMap_cons]

/-- Rendering works by calls at operands. -/
theorem descends_chars : Descends operands charsBody chars where
  unfolds expr := by
    cases expr with
    | call name args offset =>
      cases args with
      | nil => rfl
      | cons arg args => rw [chars, charsBody, charsRest_eq_flatMap]
    | _ => rfl
  calls {g g' expr} same := by
    cases expr with
    | call name args offset =>
      cases args with
      | nil => rfl
      | cons arg args =>
        have rest := List.flatMap_congr (f := fun arg => ',' :: ' ' :: g arg)
          (g := fun arg => ',' :: ' ' :: g' arg) fun other member => by
            rw [same other (List.mem_cons_of_mem _ member)]
        rw [charsBody, charsBody, same arg List.mem_cons_self, rest]
    | _ => simp_all [operands, charsBody]

end Expr

/-! ## Compiling -/

namespace Compile

variable {registry : Registry σ} {folding : Bool}

/-- The body of `Compile.nodes`. -/
def nodesBody (self : Expr → Compile σ (Node σ)) : List Expr → Compile σ (List (Node σ))
  | [] => pure []
  | arg :: args => do
    let arg ← self arg
    let args ← nodesBody self args
    return arg :: args

/-- The body of `Compile.node`. -/
def nodeBody (registry : Registry σ) (folding : Bool) (self : Expr → Compile σ (Node σ)) :
    Expr → Compile σ (Node σ)
  | .constant value => pure (.constant value)
  | .var name => do
    let slot ← reserve name
    return .read slot
  | .unary symbol operand offset => do
    let operator ← resolve registry symbol .unary offset
    match operator.implementation with
    | .unary body =>
      let operand ← self operand
      fold folding operator.symbol (.unary body operand)
    | _ => throw (.missingOperator symbol .unary offset)
  | .binary symbol left right offset => do
    let operator ← resolve registry symbol .binary offset
    match operator.implementation with
    | .binary body =>
      let left ← self left
      let right ← self right
      fold folding operator.symbol (.binary body left right)
    | _ => throw (.missingOperator symbol .binary offset)
  | .ternary symbol condition ifTrue ifFalse offset => do
    let operator ← resolve registry symbol .ternary offset
    match operator.implementation with
    | .ternary _ body =>
      let condition ← self condition
      let ifTrue ← self ifTrue
      let ifFalse ← self ifFalse
      fold folding operator.symbol (.ternary body condition ifTrue ifFalse)
    | _ => throw (.missingOperator symbol .ternary offset)
  | .call name args offset => do
    let operator ← resolve registry name .function offset
    match operator.implementation with
    | .function bounds body =>
      if bounds.admits args.length then
        let args ← nodesBody self args
        fold folding operator.symbol (.call body args)
      else throw (.argumentCount operator.symbol bounds args.length offset)
    | _ => throw (.missingOperator name .function offset)

theorem nodes_eq_nodesBody (args : List Expr) :
    nodes registry folding args = nodesBody (node registry folding) args := by
  induction args with
  | nil => rfl
  | cons arg args ih => rw [nodes, ih, nodesBody]

theorem nodesBody_congr {g g' : Expr → Compile σ (Node σ)} {args : List Expr}
    (same : ∀ arg ∈ args, g arg = g' arg) : nodesBody g args = nodesBody g' args := by
  induction args with
  | nil => rfl
  | cons arg args ih =>
    rw [nodesBody, nodesBody, same arg List.mem_cons_self,
      ih fun other member => same other (List.mem_cons_of_mem _ member)]

/-- Compiling works by calls at operands. -/
theorem descends_node (registry : Registry σ) (folding : Bool) :
    Descends Expr.operands (nodeBody registry folding) (node registry folding) where
  unfolds expr := by
    cases expr with
    | call name args offset =>
      rw [node, nodes_eq_nodesBody]
      rfl
    | _ => rfl
  calls {g g' expr} same := by
    cases expr with
    | call name args offset =>
      have sameAll : nodesBody g args = nodesBody g' args := nodesBody_congr same
      simp only [nodeBody, sameAll]
    | _ => simp_all [Expr.operands, nodeBody]

end Compile

/-! ## Evaluating -/

namespace Node

/-- The operands of a node, from left to right. -/
def operands : Node σ → List (Node σ)
  | constant _ | read _ => []
  | unary _ operand => [operand]
  | binary _ left right => [left, right]
  | ternary _ condition ifTrue ifFalse => [condition, ifTrue, ifFalse]
  | call _ args => args

mutual

/-- The number of nodes on the longest way down. -/
def height : Node σ → Nat
  | constant _ | read _ => 1
  | unary _ operand => operand.height + 1
  | binary _ left right => max left.height right.height + 1
  | ternary _ condition ifTrue ifFalse =>
    max (max condition.height ifTrue.height) ifFalse.height + 1
  | call _ args => heightAll args + 1

/-- The height of the tallest of several nodes. -/
def heightAll : List (Node σ) → Nat
  | [] => 0
  | arg :: args => max arg.height (heightAll args)

end

theorem height_pos (node : Node σ) : 0 < node.height := by
  cases node <;> simp [height]

theorem height_le_heightAll {args : List (Node σ)} {arg : Node σ} (member : arg ∈ args) :
    arg.height ≤ heightAll args := by
  induction args with
  | nil => contradiction
  | cons first rest ih =>
    rw [heightAll]
    rcases List.mem_cons.1 member with rfl | member
    · exact Nat.le_max_left _ _
    · exact Nat.le_trans (ih member) (Nat.le_max_right _ _)

/-- An operand is less high than its node. -/
theorem height_lt_of_mem_operands {node operand : Node σ} (member : operand ∈ node.operands) :
    operand.height < node.height := by
  cases node with
  | constant value => contradiction
  | read slot => contradiction
  | unary body inner =>
    rw [List.mem_singleton.1 member, height]
    omega
  | binary body left right =>
    simp only [operands, List.mem_cons, List.not_mem_nil, or_false] at member
    rcases member with rfl | rfl <;> simp only [height] <;> omega
  | ternary body condition ifTrue ifFalse =>
    simp only [operands, List.mem_cons, List.not_mem_nil, or_false] at member
    rcases member with rfl | rfl | rfl <;> simp only [height] <;> omega
  | call body args =>
    rw [height]
    exact Nat.lt_succ_of_le (height_le_heightAll member)

/-- The body of `Node.evalAll`. -/
def evalAllBody (self : Node σ → Eval σ Float) : List (Node σ) → Eval σ (List Float)
  | [] => pure []
  | arg :: args => do
    let value ← self arg
    let values ← evalAllBody self args
    return value :: values

/-- The body of `Node.eval`. The branches of a ternary operator are calls that its body may
make. -/
def evalBody (table : Variables σ) (self : Node σ → Eval σ Float) : Node σ → Eval σ Float
  | constant value => pure value
  | read slot => table.read slot
  | unary body operand => do
    let operand ← self operand
    body.apply operand
  | binary body left right => do
    let left ← self left
    let right ← self right
    body.apply (left, right)
  | ternary body condition ifTrue ifFalse => do
    let condition ← self condition
    body.apply condition (self ifTrue) (self ifFalse)
  | call body args => do
    let args ← evalAllBody self args
    body.apply args

theorem evalAll_eq_evalAllBody (table : Variables σ) (args : List (Node σ)) :
    evalAll table args = evalAllBody (fun arg => arg.eval table) args := by
  induction args with
  | nil => rfl
  | cons arg args ih => rw [evalAll, ih, evalAllBody]

theorem evalAllBody_congr {g g' : Node σ → Eval σ Float} {args : List (Node σ)}
    (same : ∀ arg ∈ args, g arg = g' arg) : evalAllBody g args = evalAllBody g' args := by
  induction args with
  | nil => rfl
  | cons arg args ih =>
    rw [evalAllBody, evalAllBody, same arg List.mem_cons_self,
      ih fun other member => same other (List.mem_cons_of_mem _ member)]

/-- Evaluating works by calls at operands. -/
theorem descends_eval (table : Variables σ) :
    Descends operands (evalBody table) (fun node => node.eval table) where
  unfolds node := by
    cases node with
    | call body args => simp only [eval, evalBody, evalAll_eq_evalAllBody]
    | _ => rfl
  calls {g g' node} same := by
    cases node with
    | call body args =>
      have sameAll : evalAllBody g args = evalAllBody g' args := evalAllBody_congr same
      simp only [evalBody, sameAll]
    | _ => simp_all [operands, evalBody]

/-- Evaluating goes as deep as the node is high. -/
theorem callsWithin_eval (table : Variables σ) {limit : Nat} {node : Node σ}
    (within : node.height ≤ limit) :
    CallsWithin limit (evalBody table) (fun node => node.eval table) node :=
  (descends_eval table).callsWithin height_pos height_lt_of_mem_operands within

end Node

/-! ## What is compiled is not higher -/

namespace Compile

variable {α β : Type} {computation : Compile σ α} {post : α → Prop} {post' : β → Prop}

/-- Every value of the computation is like this. -/
def Yields (computation : Compile σ α) (post : α → Prop) : Prop :=
  ∀ (progress progress' : Progress σ) (value : α), computation progress = .ok value progress' →
    post value

theorem Yields.pure {value : α} (h : post value) : Yields (σ := σ) (pure value) post := by
  intro progress progress' value' hresult
  cases hresult
  exact h

theorem Yields.throw (e : CompileError) : Yields (σ := σ) (throw e) post := by
  intro progress progress' value hresult
  contradiction

/-- What a sequence yields comes from what its first part yields. -/
theorem Yields.bind {next : α → Compile σ β} (first : computation.Yields post)
    (rest : ∀ value, post value → (next value).Yields post') :
    (computation >>= next).Yields post' := by
  intro progress progress' value hresult
  change EStateM.bind computation next progress = .ok value progress' at hresult
  unfold EStateM.bind at hresult
  split at hresult
  · next middle between hfirst => exact rest middle (first _ _ _ hfirst) _ _ _ hresult
  · contradiction

theorem yields_any (computation : Compile σ α) : computation.Yields fun _ => True :=
  fun _ _ _ _ => trivial

/-- Folding makes a node no higher. -/
theorem yields_fold (folding : Bool) (symbol : String) {node : Node σ} {bound : Nat}
    (h : node.height ≤ bound) : (fold folding symbol node).Yields (·.height ≤ bound) := by
  have hconstant (value : Float) : (Node.constant (σ := σ) value).height ≤ bound :=
    Nat.le_trans (Node.height_pos node) h
  unfold fold
  split
  · exact .pure h
  · intro progress progress' folded hresult
    cases hresult
    exact hconstant _
  · intro progress progress' folded hresult
    cases hresult
    exact h

/-- The nodes that a list is compiled to are no higher than the list. -/
theorem yields_nodes {registry : Registry σ} {folding : Bool} {args : List Expr}
    (ih : ∀ arg ∈ args, (node registry folding arg).Yields (·.height ≤ arg.height)) :
    (nodes registry folding args).Yields (Node.heightAll · ≤ Expr.heightAll args) := by
  induction args with
  | nil => exact .pure (Nat.le_refl 0)
  | cons arg args ihs =>
    refine (ih arg List.mem_cons_self).bind fun first hfirst => ?_
    refine (ihs fun other member => ih other (List.mem_cons_of_mem _ member)).bind
      fun rest hrest => .pure ?_
    rw [Node.heightAll, Expr.heightAll]
    omega

/-- What an expression is compiled to is not higher than the expression. -/
theorem yields_node (registry : Registry σ) (folding : Bool) (expr : Expr) :
    (node registry folding expr).Yields (·.height ≤ expr.height) := by
  induction expr with
  | constant value => exact .pure (Nat.le_refl 1)
  | var name => exact (yields_any _).bind fun slot _ => .pure (Nat.le_refl 1)
  | unary symbol operand offset ih =>
    refine (yields_any _).bind fun operator _ => ?_
    split
    · refine ih.bind fun o ho => yields_fold folding _ ?_
      rw [Node.height, Expr.height]
      omega
    · exact .throw _
  | binary symbol left right offset ihl ihr =>
    refine (yields_any _).bind fun operator _ => ?_
    split
    · refine ihl.bind fun l hl => ihr.bind fun r hr => yields_fold folding _ ?_
      rw [Node.height, Expr.height]
      omega
    · exact .throw _
  | ternary symbol condition ifTrue ifFalse offset ihc iht ihf =>
    refine (yields_any _).bind fun operator _ => ?_
    split
    · refine ihc.bind fun c hc => iht.bind fun t ht => ihf.bind fun f hf =>
        yields_fold folding _ ?_
      rw [Node.height, Expr.height]
      omega
    · exact .throw _
  | call name args offset ih =>
    refine (yields_any _).bind fun operator _ => ?_
    split
    · split
      · refine (yields_nodes ih).bind fun values hvalues => yields_fold folding _ ?_
        rw [Node.height, Expr.height]
        omega
      · exact .throw _
    · exact .throw _

end Compile

/-- The evaluator of an expression is not higher than the expression. -/
theorem Expr.height_root_le {expr : Expr} {registry : Registry σ} {folding : Bool}
    {table table' : Variables σ} {evaluator : Evaluator σ}
    (h : expr.compile registry folding table = (.ok evaluator, table')) :
    evaluator.root.height ≤ expr.height := by
  unfold Expr.compile at h
  split at h
  · next root progress hnode =>
    cases h
    exact Compile.yields_node registry folding expr _ _ _ hnode
  · cases h

end Formulary
