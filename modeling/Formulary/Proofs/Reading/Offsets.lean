import Formulary.Expr.Reading
import Formulary.Proofs.Expr

/-!
# Formulary.Proofs.Reading.Offsets

Reading does not look at offsets.

The offsets of the tokens are copied into what is read and into the errors, and into nothing
else. So if the tokens are moved to other places, whatever these are, the same expression is read
or the same error found, with the offsets moved along (`Grammar.read_moved`).

What `moved` means is said for everything that has an offset in it. Then there is one lemma for
each function that reads: moving what it is given moves what it returns.
-/

namespace Formulary

variable {σ : Type}

/-! ## Moving offsets -/

section Moved

variable (move : Nat → Nat)

def LexError.moved (e : LexError) : LexError := { e with offset := move e.offset }

def Spanned.moved (spanned : Spanned) : Spanned := { spanned with offset := move spanned.offset }

/-- The tokens and the end of a text at other places. -/
def Lexed.moved (lexed : Lexed) : Lexed where
  tokens := lexed.tokens.map (Spanned.moved move)
  ending := match lexed.ending with
    | .ok stop => .ok (move stop)
    | .error e => .error (e.moved move)

def ParseError.moved : ParseError → ParseError
  | lexical e => lexical (e.moved move)
  | unbalanced offset => unbalanced (move offset)
  | unmatchedTernary symbol separator offset => unmatchedTernary symbol separator (move offset)
  | unknownFunction name offset => unknownFunction name (move offset)
  | argumentCount function bounds actual offset =>
    argumentCount function bounds actual (move offset)
  | unexpected found offset => unexpected found (move offset)
  | tooDeep limit offset => tooDeep limit (move offset)

namespace Expr

mutual

/-- The expression as it is read at other places. -/
def moved : Expr → Expr
  | constant value => constant value
  | var name => var name
  | unary symbol operand offset => unary symbol operand.moved (move offset)
  | binary symbol left right offset => binary symbol left.moved right.moved (move offset)
  | ternary symbol condition ifTrue ifFalse offset =>
    ternary symbol condition.moved ifTrue.moved ifFalse.moved (move offset)
  | call name args offset => call name (movedAll args) (move offset)

/-- The expressions as they are read at other places. -/
def movedAll : List Expr → List Expr
  | [] => []
  | arg :: args => arg.moved :: movedAll args

end

theorem movedAll_eq_map (args : List Expr) : movedAll move args = args.map (moved move) := by
  induction args with
  | nil => rfl
  | cons arg args ih => rw [movedAll, ih, List.map_cons]

end Expr

def Subtree.moved (tree : Subtree) : Subtree := { tree with expr := tree.expr.moved move }

def Construct.moved : Construct → Construct
  | unary symbol offset => unary symbol (move offset)
  | binary symbol offset floor left => binary symbol (move offset) floor (left.moved move)
  | ternary symbol separator offset floor condition =>
    ternary symbol separator (move offset) floor (condition.moved move)
  | alternative symbol offset floor condition ifTrue =>
    alternative symbol (move offset) floor (condition.moved move) (ifTrue.moved move)
  | group opening => group (move opening)
  | call name bounds offset opening args =>
    call name bounds (move offset) (move opening) (args.map (Subtree.moved move))

def Focus.moved : Focus → Focus
  | expression => expression
  | operand => operand
  | name text offset => name text (move offset)
  | complete tree => complete (tree.moved move)

def Reading.moved (reading : Reading) : Reading :=
  ⟨reading.pending.map (Construct.moved move), reading.focus.moved move⟩

/-- The outcome of reading, with the offsets of an error moved and the given change made to
anything else. -/
def carried {α β : Type} (change : α → β) : Except ParseError α → Except ParseError β
  | .ok value => .ok (change value)
  | .error e => .error (e.moved move)

end Moved

variable {move : Nat → Nat}

/-- What is carried over through two runs is carried over through one after the other. -/
theorem carried_bind {α β γ δ : Type} {change : α → β} {change' : γ → δ}
    {run : Except ParseError α} {run' : Except ParseError β} {next : α → Except ParseError γ}
    {next' : β → Except ParseError δ} (first : run' = carried move change run)
    (second : ∀ value, next' (change value) = carried move change' (next value)) :
    (run' >>= next') = carried move change' (run >>= next) := by
  rw [first]
  cases run with
  | error e => rfl
  | ok value => exact second value

/-! ## What is read of a formula -/

namespace Reading

variable {pending : List Construct}

/-- A parenthesis that a construct waits for moves with it. -/
theorem opening?_moved (construct : Construct) :
    (construct.moved move).opening? = construct.opening?.map move := by
  cases construct <;> rfl

/-- The open parentheses move with their constructs. -/
theorem openings_moved :
    openings (pending.map (Construct.moved move)) = (openings pending).map move := by
  rw [openings, openings, List.filterMap_map, List.map_filterMap]
  exact congrArg (List.filterMap · pending) (funext opening?_moved)

/-- The end of the text is blamed on the same parenthesis at its new place. -/
theorem unexpectedEnd_moved {offset : Nat} :
    unexpectedEnd (pending.map (Construct.moved move)) (move offset) =
      (unexpectedEnd pending offset).moved move := by
  rw [unexpectedEnd, unexpectedEnd, openings_moved]
  cases openings pending <;> rfl

/-- Moving does not change how deep constructs are nested. -/
theorem depth_moved (pending : List Construct) :
    depth (pending.map (Construct.moved move)) = depth pending := by
  rw [depth, depth, List.length_map]

end Reading

/-- Which operators a construct leaves an operand to does not depend on places. -/
theorem Construct.admits_moved (precedence : Nat) (construct : Construct) :
    (construct.moved move).admits precedence = construct.admits precedence := by
  cases construct <;> rfl

namespace Grammar

variable {grammar : Grammar σ} {pending : List Construct} {construct : Construct}
  {tree : Subtree} {spanned : Spanned} {reading : Reading} {offset : Nat}

/-! ## Building trees -/

theorem enter_moved {depth : Nat} :
    grammar.enter depth (move offset) = carried move id (grammar.enter depth offset) := by
  unfold enter
  split <;> rfl

theorem build_moved (expr : Expr) (height offset : Nat) :
    grammar.build (expr.moved move) height (move offset) =
      carried move (Subtree.moved move) (grammar.build expr height offset) := by
  unfold build
  split <;> rfl

/-- A construct makes the moved tree of moved operands. -/
theorem apply_moved (construct : Construct) (tree : Subtree) :
    grammar.apply (construct.moved move) (tree.moved move) =
      carried move (Subtree.moved move) (grammar.apply construct tree) := by
  cases construct with
  | unary symbol offset => exact build_moved (.unary symbol tree.expr offset) _ offset
  | binary symbol offset floor left =>
    exact build_moved (.binary symbol left.expr tree.expr offset) _ offset
  | alternative symbol offset floor condition ifTrue =>
    exact build_moved (.ternary symbol condition.expr ifTrue.expr tree.expr offset) _ offset
  | _ => rfl

/-- A call is checked and built in the same way elsewhere. -/
theorem applyCall_moved (name : String) (bounds : ArgBounds) (args : List Subtree) :
    grammar.applyCall name bounds (move offset) (args.map (Subtree.moved move)) =
      carried move (Subtree.moved move) (grammar.applyCall name bounds offset args) := by
  have hargs : (args.map (Subtree.moved move)).reverse.map Subtree.expr =
      Expr.movedAll move (args.reverse.map Subtree.expr) := by
    simp [Expr.movedAll_eq_map, List.map_reverse, Subtree.moved]
  have hheights : (args.map (Subtree.moved move)).map Subtree.height =
      args.map Subtree.height := by
    simp [Subtree.moved]
  unfold applyCall
  rw [List.length_map, hargs, hheights]
  split
  · exact build_moved (.call name (args.reverse.map Subtree.expr) offset) _ offset
  · rfl

/-- An operand and what waits for it, moved. -/
def movedOperand (move : Nat → Nat) (operand : Subtree × List Construct) :
    Subtree × List Construct :=
  (operand.1.moved move, operand.2.map (Construct.moved move))

theorem settle_moved (tree : Subtree) :
    grammar.settle (tree.moved move) (pending.map (Construct.moved move)) =
      carried move (movedOperand move) (grammar.settle tree pending) := by
  induction pending generalizing tree with
  | nil => rfl
  | cons construct outer ih =>
    cases construct with
    | unary symbol offset =>
      exact carried_bind (apply_moved (.unary symbol offset) tree) fun larger => ih larger
    | _ => rfl

theorem complete_moved (tree : Subtree) :
    grammar.complete (tree.moved move) (pending.map (Construct.moved move)) =
      carried move (Reading.moved move) (grammar.complete tree pending) :=
  carried_bind (settle_moved tree) fun _ => rfl

/-! ## Steps -/

/-- A moved token begins a moved operand. -/
theorem beginOperand_moved :
    grammar.beginOperand (pending.map (Construct.moved move)) (spanned.moved move) =
      carried move (Reading.moved move) (grammar.beginOperand pending spanned) := by
  obtain ⟨token, offset⟩ := spanned
  cases token with
  | number value => exact complete_moved ⟨.constant value, 1⟩
  | name text => rfl
  | operator symbol =>
    simp only [beginOperand, Spanned.moved]
    split
    · have deeper : Reading.depth (.unary symbol (move offset) :: pending.map (.moved move)) =
          Reading.depth (.unary symbol offset :: pending) :=
        Reading.depth_moved (.unary symbol offset :: pending)
      rw [deeper]
      exact carried_bind enter_moved fun _ => rfl
    · rfl
  | leftParen => rfl
  | rightParen =>
    simp only [beginOperand, Spanned.moved, Reading.openings_moved, List.isEmpty_map]
    split <;> rfl
  | comma => rfl
  | finish => exact congrArg Except.error Reading.unexpectedEnd_moved

/-- A moved token begins a moved expression. -/
theorem beginExpression_moved :
    grammar.beginExpression (pending.map (Construct.moved move)) (spanned.moved move) =
      carried move (Reading.moved move) (grammar.beginExpression pending spanned) := by
  obtain ⟨token, offset⟩ := spanned
  have begins : (do
        grammar.enter (Reading.depth (pending.map (Construct.moved move))) (move offset)
        grammar.beginOperand (pending.map (Construct.moved move))
          (Spanned.moved move ⟨token, offset⟩)) =
      carried move (Reading.moved move) (do
        grammar.enter (Reading.depth pending) offset
        grammar.beginOperand pending ⟨token, offset⟩) := by
    rw [Reading.depth_moved]
    exact carried_bind enter_moved fun _ => beginOperand_moved
  -- The two constructs that can do without an expression are told from the others.
  cases pending with
  | nil => exact begins
  | cons construct outer =>
    cases construct with
    | call name bounds offset opening args =>
      cases args with
      | nil =>
        cases token with
        | rightParen =>
          exact carried_bind (applyCall_moved name bounds []) complete_moved
        | _ => exact begins
      | cons => exact begins
    | ternary symbol separator offset floor condition =>
      cases token with
      | rightParen => rfl
      | comma => rfl
      | finish => rfl
      | _ => exact begins
    | _ => exact begins

/-- Whether an operator joins the operand does not depend on places. -/
theorem joins?_moved (move : Nat → Nat) (pending : List Construct) (token : Token) :
    grammar.joins? (pending.map (Construct.moved move)) token = grammar.joins? pending token := by
  have admits (precedence : Nat) :
      (pending.map (Construct.moved move)).head?.all (Construct.admits precedence) =
        pending.head?.all (Construct.admits precedence) := by
    rw [List.head?_map, Option.all_map]
    exact congrArg (Option.all · pending.head?) (funext (Construct.admits_moved precedence))
  unfold joins?
  simp only [admits]

/-- What an operator begins behind an operand moves with both. -/
theorem join_moved (symbol : String) (joiner : Joiner) (offset : Nat) (tree : Subtree)
    (pending : List Construct) :
    join symbol joiner (move offset) (tree.moved move) (pending.map (Construct.moved move)) =
      (join symbol joiner offset tree pending).moved move := by
  unfold join
  cases joiner.separator <;> rfl

/-- Behind a moved operand a moved token does what it does behind the operand. -/
theorem proceed_moved :
    grammar.proceed (spanned.moved move) (tree.moved move)
        (pending.map (Construct.moved move)) =
      carried move (Reading.moved move) (grammar.proceed spanned tree pending) := by
  obtain ⟨token, offset⟩ := spanned
  induction pending generalizing tree with
  | nil =>
    rw [List.map_nil, proceed, proceed]
    dsimp only [Spanned.moved]
    split
    · next symbol joiner _ => exact congrArg Except.ok (join_moved symbol joiner offset tree [])
    · cases token <;> rfl
  | cons construct outer ih =>
    have joins : grammar.joins? (construct.moved move :: outer.map (.moved move)) token =
        grammar.joins? (construct :: outer) token :=
      joins?_moved move (construct :: outer) token
    rw [List.map_cons]
    unfold proceed
    dsimp only [Spanned.moved]
    rw [joins]
    split
    · next symbol joiner _ =>
      exact congrArg Except.ok (join_moved symbol joiner offset tree (construct :: outer))
    · cases construct with
      | group opening =>
        cases token with
        | rightParen => exact complete_moved tree
        | _ => rfl
      | call name bounds offset' opening args =>
        cases token with
        | rightParen =>
          exact carried_bind (applyCall_moved name bounds (tree :: args)) complete_moved
        | _ => rfl
      | ternary symbol separator offset' floor condition =>
        show (if token = .operator separator then _ else _) =
          carried move _ (if token = .operator separator then _ else _)
        split <;> rfl
      | unary symbol offset' =>
        exact carried_bind (apply_moved (.unary symbol offset') tree) fun larger => ih
      | binary symbol offset' floor left =>
        exact carried_bind (apply_moved (.binary symbol offset' floor left) tree) fun larger => ih
      | alternative symbol offset' floor condition ifTrue =>
        exact carried_bind (apply_moved (.alternative symbol offset' floor condition ifTrue) tree)
          fun larger => ih

/-- Taking a token that is moved, behind what is moved, differs in nothing else. -/
theorem step_moved (reading : Reading) (spanned : Spanned) :
    grammar.step (reading.moved move) (spanned.moved move) =
      carried move (Reading.moved move) (grammar.step reading spanned) := by
  obtain ⟨pending, focus⟩ := reading
  cases focus with
  | expression => exact beginExpression_moved
  | operand => exact beginOperand_moved
  | complete tree => exact proceed_moved
  | name text offset =>
    obtain ⟨token, offset'⟩ := spanned
    cases token with
    | leftParen =>
      simp only [step, Reading.moved, Focus.moved, Spanned.moved]
      cases grammar.signature? text <;> rfl
    | _ => exact carried_bind (settle_moved ⟨.var text, 1⟩) fun _ => proceed_moved

/-! ## Whole texts -/

/-- Moved tokens lead to the moved reading, or to the error at its new place. -/
theorem foldlM_step_moved (tokens : List Spanned) (reading : Reading) :
    (tokens.map (Spanned.moved move)).foldlM grammar.step (reading.moved move) =
      carried move (Reading.moved move) (tokens.foldlM grammar.step reading) := by
  induction tokens generalizing reading with
  | nil => rfl
  | cons spanned tokens ih =>
    rw [List.map_cons, List.foldlM_cons, List.foldlM_cons]
    exact carried_bind (step_moved reading spanned) fun next => ih next

/-- At the end of the text the moved expression is given. -/
theorem finish_moved : grammar.finish (reading.moved move) (move offset) =
    carried move (Expr.moved move) (grammar.finish reading offset) := by
  refine carried_bind (step_moved reading ⟨.finish, offset⟩) fun next => ?_
  obtain ⟨pending, focus⟩ := next
  cases focus with
  | complete tree => rfl
  | _ => exact congrArg Except.error Reading.unexpectedEnd_moved

/-- **Offsets are not looked at**: tokens that are moved to other places are read as the same
expression or refused for the same reason, with the offsets moved along. -/
theorem read_moved (grammar : Grammar σ) (lexed : Lexed) (move : Nat → Nat) :
    grammar.read (lexed.moved move) = carried move (Expr.moved move) (grammar.read lexed) := by
  refine carried_bind (foldlM_step_moved lexed.tokens Reading.start) fun reading => ?_
  obtain ⟨tokens, ending⟩ := lexed
  cases ending with
  | ok stop => exact finish_moved
  | error e => rfl

end Grammar

end Formulary
