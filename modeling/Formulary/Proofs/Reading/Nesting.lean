import Formulary.Proofs.Reading.Moves
import Formulary.Proofs.Recursion

/-!
# Formulary.Proofs.Reading.Nesting

The limits on nesting and on height hold the recursions down.

A descent counts the levels of nesting beside its calls, and keeps the height of a tree beside the
tree. Every move keeps both in step with what they count (`Descent.Moves.nested`,
`Descent.Moves.measured`). So the calls are never deeper than the limit allows, the descent stops
as soon as they would be, and what it returns is low enough for every recursion over it.
-/

namespace Formulary

variable {σ : Type}

/-! ## Subtrees -/

namespace Frame

/-- The trees that the call keeps. -/
def subtrees : Frame → List Subtree
  | expression | climb _ | unary _ _ | group => []
  | right _ _ _ left => [left]
  | ifTrue _ _ _ _ _ condition => [condition]
  | ifFalse _ _ _ condition first => [condition, first]
  | call _ _ _ args => args

end Frame

namespace Control

/-- The trees that the innermost call has. -/
def subtrees : Control → List Subtree
  | expression _ | operand | name _ _ | arguments _ _ _ => []
  | branch _ _ _ _ _ condition => [condition]
  | loop _ tree | value tree => [tree]

end Control

/-- The height is that of the tree, and not too high. -/
structure Subtree.Measured (grammar : Grammar σ) (tree : Subtree) : Prop where
  height : tree.height = tree.expr.height
  within : tree.height ≤ grammar.maxHeight

namespace Grammar

variable {grammar : Grammar σ} {tree : Subtree}

/-- A node that is built with its true height is measured. -/
theorem measured_of_build {expr : Expr} {height offset : Nat}
    (h : grammar.build expr height offset = .ok tree) (true_height : height = expr.height) :
    tree.Measured grammar := by
  unfold build at h
  split at h
  · contradiction
  · next within =>
    cases h
    exact ⟨true_height, Nat.le_of_not_lt within⟩

/-- The node of a call is measured if its arguments are. -/
theorem measured_of_applyCall {name : String} {bounds : ArgBounds} {offset : Nat}
    {args : List Subtree} (h : grammar.applyCall name bounds offset args = .ok tree)
    (measured : ∀ arg ∈ args, arg.Measured grammar) : tree.Measured grammar := by
  unfold applyCall at h
  split at h
  · refine measured_of_build h ?_
    rw [Subtree.foldl_max_height fun arg member => (measured arg member).height, Expr.height,
      Nat.zero_max]
  · contradiction

end Grammar

namespace Descent

variable {grammar : Grammar σ} {descent next : Descent}

/-- The trees that the calls have. -/
def subtrees (descent : Descent) : List Subtree :=
  descent.control.subtrees ++ descent.frames.flatMap Frame.subtrees

/-! ## Moves -/

/-- The count of the levels is that of the calls which are levels, and within the limit. -/
structure Nested (grammar : Grammar σ) (descent : Descent) : Prop where
  depth : descent.depth = levels descent.frames
  within : descent.depth ≤ grammar.maxDepth

/-- A move keeps the count of the levels right and within the limit. -/
theorem Moves.nested (h : Moves grammar descent next) (nested : descent.Nested grammar) :
    next.Nested grammar := by
  obtain ⟨depth, within⟩ := nested
  cases h with
  | expression _ allowed | unary _ _ allowed =>
    exact ⟨by simp_all [Frame.isLevel], allowed⟩
  | leave | operand =>
    simp only [levels_cons, Frame.isLevel] at depth
    exact ⟨by simp_all, by simp only at within ⊢; omega⟩
  | _ => exact ⟨by simpa [Frame.isLevel] using depth, within⟩

/-- What holds of all trees that the calls have, call by call. -/
theorem forall_subtrees {motive : Subtree → Prop} {stream : TokenStream} {depth : Nat}
    {openings : List Nat} {frames : List Frame} {control : Control} :
    (∀ tree ∈ subtrees ⟨stream, depth, openings, frames, control⟩, motive tree) ↔
      (∀ tree ∈ control.subtrees, motive tree) ∧
        ∀ frame ∈ frames, ∀ tree ∈ frame.subtrees, motive tree := by
  simp only [subtrees, List.forall_mem_append, List.mem_flatMap]
  exact and_congr_right fun _ =>
    ⟨fun h frame member tree hits => h tree ⟨frame, member, hits⟩,
      fun h tree ⟨frame, member, hits⟩ => h frame member tree hits⟩

/-- A move keeps the heights of the trees right and within the limit. -/
theorem Moves.measured (h : Moves grammar descent next) (leaf : 0 < grammar.maxHeight)
    (measured : ∀ tree ∈ descent.subtrees, tree.Measured grammar) :
    ∀ tree ∈ next.subtrees, tree.Measured grammar := by
  cases h <;> simp only [forall_subtrees, Control.subtrees, Frame.subtrees, List.forall_mem_cons,
    List.not_mem_nil, false_implies, implies_true, true_and, and_true] at measured ⊢
  case number | var => exact ⟨⟨rfl, leaf⟩, measured⟩
  case nullary built => exact ⟨Grammar.measured_of_applyCall built (by simp), measured⟩
  case right built =>
    obtain ⟨right, left, rest⟩ := measured
    refine ⟨Grammar.measured_of_build built ?_, rest⟩
    rw [Expr.height, ← left.height, ← right.height]
  case ifFalse built =>
    obtain ⟨ifFalse, ⟨condition, ifTrue⟩, rest⟩ := measured
    refine ⟨Grammar.measured_of_build built ?_, rest⟩
    rw [Expr.height, ← condition.height, ← ifTrue.height, ← ifFalse.height]
  case operand built =>
    obtain ⟨operand, rest⟩ := measured
    refine ⟨Grammar.measured_of_build built ?_, rest⟩
    rw [Expr.height, ← operand.height]
  case separator =>
    obtain ⟨ifTrue, condition, rest⟩ := measured
    exact ⟨⟨condition, ifTrue⟩, rest⟩
  case comma =>
    obtain ⟨last, args, rest⟩ := measured
    exact ⟨⟨last, args⟩, rest⟩
  case closeCall built =>
    obtain ⟨last, args, rest⟩ := measured
    refine ⟨Grammar.measured_of_applyCall built ?_, rest⟩
    exact List.forall_mem_cons.2 ⟨last, args⟩
  all_goals exact measured

/-! ## Levels -/

/-- The offset of the token at which the descent begins a level of nesting next, if it does. -/
def level? (grammar : Grammar σ) (descent : Descent) : Option Nat :=
  match descent.control, descent.peek with
  | .expression _, .ok (spanned, _) => some spanned.offset
  | .operand, .ok (⟨.operator symbol, offset⟩, _) =>
    if grammar.isUnary symbol then some offset else none
  | _, _ => none

/-- A token that was looked at can be taken. -/
theorem exists_take_of_peek {looked : Descent} {spanned : Spanned}
    (h : descent.peek = .ok (spanned, looked)) :
    ∃ after, looked.take = .ok (spanned, { descent with stream := after }) := by
  unfold peek at h
  split at h
  · next found after hpeek =>
    cases h
    unfold TokenStream.peek at hpeek
    split at hpeek
    · cases hpeek
      exact ⟨_, rfl⟩
    · cases hpeek
  · contradiction

/-- A level is begun if the limit allows it, and else the descent fails at once. -/
theorem advance_of_level? {offset : Nat} (h : descent.level? grammar = some offset) :
    if descent.depth < grammar.maxDepth then
      ∃ next, descent.advance grammar = .ok (.going next) ∧ next.depth = descent.depth + 1
    else descent.advance grammar = .error (.tooDeep grammar.maxDepth offset) := by
  obtain ⟨stream, depth, openings, frames, control⟩ := descent
  unfold level? at h
  split at h
  · next floor spanned looked hcontrol hpeek =>
    cases hcontrol
    cases h
    obtain ⟨after, -, rfl⟩ := exists_of_peek_eq_ok hpeek
    simp only [advance, expression, hpeek, ok_bind, enter_eq]
    split
    · exact ⟨_, rfl, rfl⟩
    · rfl
  · next symbol place looked hcontrol hpeek =>
    cases hcontrol
    split at h
    · next isUnary =>
      cases h
      obtain ⟨after, htake⟩ := exists_take_of_peek hpeek
      simp only [advance, operand, hpeek, ok_bind, isUnary, if_true, htake, enter_eq]
      split
      · exact ⟨_, rfl, rfl⟩
      · rfl
    · contradiction
  · contradiction

/-! ## Runs -/

/-- Whatever comes after the start of a run has been allowed one level. -/
theorem Visits.eq_or_maxDepth_pos {lexicon : Lexicon} {text : String}
    (visits : Visits grammar (start lexicon text) descent) :
    descent = start lexicon text ∨ 0 < grammar.maxDepth := by
  induction visits with
  | refl => exact .inl rfl
  | going _ h ih =>
    refine .inr ?_
    rcases ih with rfl | allowed
    · cases moves_of_advance h with
      | expression _ allowed => exact allowed
    · exact allowed

/-- A run that ends with an expression ends with a tree that the calls have. -/
theorem Leads.exists_tree {first : Descent} {expr : Expr}
    (leads : Leads grammar descent (.ok expr)) (visits : Visits grammar first descent) :
    ∃ last tree, Visits grammar first last ∧ tree ∈ last.subtrees ∧ tree.expr = expr := by
  generalize hresult : (.ok expr : Except ParseError Expr) = result at leads
  induction leads with
  | error => contradiction
  | going h rest ih => exact ih (visits.going h) hresult
  | @done descent expr h =>
    cases hresult
    obtain ⟨stream, depth, openings, frames, control⟩ := descent
    cases control with
    | value tree =>
      cases frames with
      | nil =>
        obtain ⟨found, hconclude, hexpr⟩ := exists_of_map_eq_ok h
        cases hexpr
        obtain ⟨⟨⟨token, offset⟩, taken⟩, -, hrest⟩ := exists_of_bind_eq_ok hconclude
        cases token with
        | finish =>
          cases hrest
          exact ⟨_, tree, visits, List.mem_cons_self, rfl⟩
        | _ => contradiction
      | cons frame frames =>
        obtain ⟨found, -, hexpr⟩ := exists_of_map_eq_ok h
        contradiction
    | _ =>
      obtain ⟨found, -, hexpr⟩ := exists_of_map_eq_ok h
      contradiction

/-- **The limits hold the recursions down.** Reading a text by calls ends, as reading it token by
token does. All the way the count of the levels is the number of the expressions and prefix
operators whose calls are active, and a level beyond the limit fails at once. The heights beside
the trees are the heights of the trees, and the tree that is returned, if one is, is at most four
times as high as there may be levels. So the calls of compiling, evaluating, listing the variables
and rendering are nested no deeper than that. -/
theorem limits_bound_recursion (registry : Registry σ) (maxDepth : Nat) (text : String) :
    let grammar := Dialect.grammar ⟨registry, maxDepth⟩
    let limit := min (4 * maxDepth) 0xFFFFFFFFFFFFFFFF
    let parsed := Grammar.parse ⟨registry, maxDepth⟩ text
    Leads grammar (start registry.lexicon text) parsed ∧
    (∀ descent, Visits grammar (start registry.lexicon text) descent →
      descent.depth = descent.frames.countP Frame.isLevel ∧ descent.depth ≤ maxDepth ∧
      (∀ offset, descent.level? grammar = some offset →
        if descent.depth < maxDepth then
          ∃ next, descent.advance grammar = .ok (.going next) ∧ next.depth = descent.depth + 1
        else
          descent.advance grammar = .error (.tooDeep maxDepth offset) ∧
            parsed = .error (.tooDeep maxDepth offset)) ∧
      ∀ tree ∈ descent.subtrees, tree.height = tree.expr.height ∧ tree.height ≤ limit) ∧
    ∀ expr, parsed = .ok expr →
      expr.height ≤ limit ∧
      CallsWithin limit Expr.occurrencesBody Expr.occurrences expr ∧
      CallsWithin limit Expr.charsBody Expr.chars expr ∧
      ∀ (operators : Registry σ) (folding : Bool),
        CallsWithin limit (Compile.nodeBody operators folding) (Compile.node operators folding)
          expr ∧
        ∀ (table table' : Variables σ) (evaluator : Evaluator σ),
          expr.compile operators folding table = (.ok evaluator, table') →
          ∀ bindings : Variables σ,
            CallsWithin limit (Node.evalBody bindings) (fun node => node.eval bindings)
              evaluator.root := by
  intro grammar limit parsed
  have leads : Leads grammar (start registry.lexicon text) parsed :=
    leads_parse registry maxDepth text
  have nested {descent : Descent} (visits : Visits grammar (start registry.lexicon text) descent) :
      descent.Nested grammar :=
    visits.invariant ⟨rfl, Nat.zero_le _⟩ fun moves => moves.nested
  -- A leaf is one node high, which is within the limit only if some level has been allowed.
  have measured {descent : Descent}
      (visits : Visits grammar (start registry.lexicon text) descent) :
      ∀ tree ∈ descent.subtrees, tree.Measured grammar := by
    rcases visits.eq_or_maxDepth_pos with rfl | allowed
    · simp [subtrees, start, Control.subtrees]
    · have leaf : 0 < grammar.maxHeight := by
        change 0 < maxDepth at allowed
        change 0 < min (4 * maxDepth) 0xFFFFFFFFFFFFFFFF
        omega
      refine visits.invariant ?_ fun moves => moves.measured leaf
      simp [subtrees, start, Control.subtrees]
  refine ⟨leads, fun descent visits => ⟨(nested visits).depth, (nested visits).within, ?_, ?_⟩, ?_⟩
  · intro offset hlevel
    have hadvance := advance_of_level? hlevel
    split
    · next allowed => rwa [if_pos (by exact allowed)] at hadvance
    · next refused =>
      rw [if_neg (by exact refused)] at hadvance
      exact ⟨hadvance, (leads.of_visits visits).unique (.error hadvance)⟩
  · intro tree member
    exact ⟨(measured visits tree member).height, (measured visits tree member).within⟩
  · intro expr hparsed
    have low : expr.height ≤ limit := by
      rw [hparsed] at leads
      obtain ⟨last, tree, visits, member, rfl⟩ := leads.exists_tree .refl
      rw [← (measured visits tree member).height]
      exact (measured visits tree member).within
    refine ⟨low, Expr.callsWithin Expr.descends_occurrences low,
      Expr.callsWithin Expr.descends_chars low, fun operators folding =>
        ⟨Expr.callsWithin (Compile.descends_node operators folding) low, ?_⟩⟩
    intro table table' evaluator hcompile bindings
    exact Node.callsWithin_eval bindings (Nat.le_trans (Expr.height_root_le hcompile) low)

end Descent

end Formulary
