import Formulary.Expr.Descent
import Formulary.Proofs.Lexing.Lookahead
import Formulary.Proofs.Reading.Sound

/-!
# Formulary.Proofs.Reading.Descent

Reading by calls gives what reading token by token gives.

A `Reading` keeps one list of constructs, and a `Descent` spreads it over the calls that wait. Both
wait for the same thing (`AwaitsExpression`, `AwaitsOperand`), and the descent is where the reading
is (`Follows`). Between two tokens a descent may make many calls and return from many. So the lemma
for one token is about the end of the run (`Leads`): if the run ends rightly wherever the calls
follow the reading behind the token, it ends rightly before it (`step_leads`).
-/

namespace Formulary

variable {σ : Type}

/-! ## Sequences -/

theorem ok_bind {ε α β : Type} (value : α) (next : α → Except ε β) :
    (Except.ok value >>= next) = next value := rfl

theorem error_bind {ε α β : Type} (e : ε) (next : α → Except ε β) :
    (Except.error e >>= next) = .error e := rfl

theorem map_error {ε α β : Type} (e : ε) (f : α → β) :
    (f <$> (Except.error e : Except ε α)) = .error e := rfl

theorem pure_eq_ok {ε α : Type} (value : α) : (pure value : Except ε α) = .ok value := rfl

theorem throw_eq_error {ε α : Type} (e : ε) : (throw e : Except ε α) = .error e := rfl

namespace Frame

/-- The call is a level of nesting: an expression, or the operand of a prefix operator. -/
def isLevel : Frame → Bool
  | expression | unary _ _ => true
  | _ => false

end Frame

namespace Descent

/-- The levels of nesting that the waiting calls have made. -/
def levels (frames : List Frame) : Nat := frames.countP Frame.isLevel

@[simp] theorem levels_cons (frame : Frame) (frames : List Frame) :
    levels (frame :: frames) = levels frames + if frame.isLevel then 1 else 0 :=
  List.countP_cons

/-! ## Runs -/

/-- The run from the descent ends with this result. -/
inductive Leads (grammar : Grammar σ) : Descent → Except ParseError Expr → Prop
  | error {descent : Descent} {e : ParseError} (h : descent.advance grammar = .error e) :
      Leads grammar descent (.error e)
  | done {descent : Descent} {expr : Expr} (h : descent.advance grammar = .ok (.done expr)) :
      Leads grammar descent (.ok expr)
  | going {descent next : Descent} {result : Except ParseError Expr}
      (h : descent.advance grammar = .ok (.going next)) (rest : Leads grammar next result) :
      Leads grammar descent result

/-- One advance further, to a descent that is told. -/
theorem Leads.via {grammar : Grammar σ} {descent : Descent} (next : Descent)
    {result : Except ParseError Expr} (h : descent.advance grammar = .ok (.going next))
    (rest : Leads grammar next result) : Leads grammar descent result :=
  .going h rest

/-! ## What the calls wait for -/

mutual

/-- The calls wait for an expression with operators of precedence `floor` at least, and the
constructs wait for the same. -/
inductive AwaitsExpression : List Frame → List Construct → Nat → Prop
  | whole : AwaitsExpression [] [] 0
  | binary {frames : List Frame} {pending : List Construct} {floor : Nat}
      (outer : AwaitsExpression frames pending floor) (symbol : String) (offset next : Nat)
      (left : Subtree) :
      AwaitsExpression (.right floor symbol offset left :: .expression :: frames)
        (.binary symbol offset next left :: pending) next
  | ternary {frames : List Frame} {pending : List Construct} {floor : Nat}
      (outer : AwaitsExpression frames pending floor) (symbol separator : String)
      (offset next : Nat) (condition : Subtree) :
      AwaitsExpression
        (.ifTrue floor symbol separator offset next condition :: .expression :: frames)
        (.ternary symbol separator offset next condition :: pending) 0
  | alternative {frames : List Frame} {pending : List Construct} {floor : Nat}
      (outer : AwaitsExpression frames pending floor) (symbol : String) (offset next : Nat)
      (condition ifTrue : Subtree) :
      AwaitsExpression (.ifFalse floor symbol offset condition ifTrue :: .expression :: frames)
        (.alternative symbol offset next condition ifTrue :: pending) next
  | group {frames : List Frame} {pending : List Construct} (outer : AwaitsOperand frames pending)
      (opening : Nat) : AwaitsExpression (.group :: frames) (.group opening :: pending) 0
  | call {frames : List Frame} {pending : List Construct} (outer : AwaitsOperand frames pending)
      (name : String) (bounds : ArgBounds) (offset opening : Nat) (args : List Subtree) :
      AwaitsExpression (.call name bounds offset args :: frames)
        (.call name bounds offset opening args :: pending) 0

/-- The calls wait for an operand, and the constructs wait for the same. -/
inductive AwaitsOperand : List Frame → List Construct → Prop
  | first {frames : List Frame} {pending : List Construct} {floor : Nat}
      (outer : AwaitsExpression frames pending floor) :
      AwaitsOperand (.climb floor :: .expression :: frames) pending
  | unary {frames : List Frame} {pending : List Construct} (outer : AwaitsOperand frames pending)
      (symbol : String) (offset : Nat) :
      AwaitsOperand (.unary symbol offset :: frames) (.unary symbol offset :: pending)

end

mutual

/-- Every construct is a level further in. -/
theorem AwaitsExpression.levels_eq {frames : List Frame} {pending : List Construct} {floor : Nat} :
    AwaitsExpression frames pending floor → levels frames = pending.length
  | .whole => rfl
  | .binary outer .. | .ternary outer .. | .alternative outer .. => by
    simp [outer.levels_eq, Frame.isLevel]
  | .group outer _ | .call outer .. => by
    simp [outer.levels_eq, Frame.isLevel, Reading.depth]

/-- An operand is a level further in than the constructs around it. -/
theorem AwaitsOperand.levels_eq {frames : List Frame} {pending : List Construct} :
    AwaitsOperand frames pending → levels frames = Reading.depth pending
  | .first outer => by simp [outer.levels_eq, Frame.isLevel, Reading.depth]
  | .unary outer _ _ => by simp [outer.levels_eq, Frame.isLevel, Reading.depth]

end

/-- The innermost construct leaves to its operand what the call that waits for it leaves. -/
theorem AwaitsExpression.admits {frames : List Frame} {pending : List Construct} {floor : Nat}
    (h : AwaitsExpression frames pending floor) (precedence : Nat) :
    pending.head?.all (Construct.admits precedence) = decide (floor ≤ precedence) := by
  cases h <;> simp [Construct.admits]

/-- What waits for an expression is no prefix operator. -/
theorem AwaitsExpression.settle_eq {grammar : Grammar σ} {frames : List Frame}
    {pending : List Construct} {floor : Nat} (h : AwaitsExpression frames pending floor)
    (tree : Subtree) : grammar.settle tree pending = .ok (tree, pending) := by
  cases h <;> rfl

/-! ## Looking and taking -/

section Tokens

variable {stream : TokenStream} {lexed : Lexed} {spanned : Spanned}

/-- Peeking shows the first token that is left and leaves it there. -/
theorem exists_peek (ahead : stream.Ahead lexed) (first : lexed.first = .ok spanned) :
    ∃ stream' : TokenStream, stream'.Ahead lexed ∧ ∀ depth openings frames control,
      peek ⟨stream, depth, openings, frames, control⟩ =
        .ok (spanned, ⟨stream', depth, openings, frames, control⟩) := by
  obtain ⟨answer, behind, -⟩ := ahead.peek
  refine ⟨stream.peek.2, behind, fun depth openings frames control => ?_⟩
  rw [first] at answer
  unfold peek
  cases hpeek : stream.peek with
  | mk found after =>
    rw [hpeek] at answer
    cases answer
    rfl

/-- Taking hands out the first token that is left. -/
theorem exists_take (ahead : stream.Ahead lexed) (first : lexed.first = .ok spanned) :
    ∃ stream' : TokenStream, stream'.Ahead lexed.rest ∧ ∀ depth openings frames control,
      take ⟨stream, depth, openings, frames, control⟩ =
        .ok (spanned, ⟨stream', depth, openings, frames, control⟩) := by
  obtain ⟨cursor, hnext, tokens⟩ := ahead.next
  refine ⟨⟨stream.lexicon, cursor, none, stream.exhausted⟩, .scanned tokens _,
    fun depth openings frames control => ?_⟩
  unfold take
  simp only [hnext, first]

end Tokens

/-! ## Position -/

/-- The innermost constructs cannot do without the expression that they wait for. -/
def Demanding : List Construct → Prop
  | .ternary .. :: _ | .call _ _ _ _ [] :: _ => False
  | _ => True

/-- The calls are where the reading is. -/
inductive Position : Control → List Frame → Reading → Prop
  | expression {frames : List Frame} {pending : List Construct} {floor : Nat}
      (awaits : AwaitsExpression frames pending floor) (demanding : Demanding pending) :
      Position (.expression floor) frames ⟨pending, .expression⟩
  | operand {frames : List Frame} {pending : List Construct}
      (awaits : AwaitsOperand frames pending) : Position .operand frames ⟨pending, .operand⟩
  | name {frames : List Frame} {pending : List Construct}
      (awaits : AwaitsOperand frames pending) (text : String) (offset : Nat) :
      Position (.name text offset) frames ⟨pending, .name text offset⟩
  | arguments {frames : List Frame} {pending : List Construct}
      (awaits : AwaitsOperand frames pending) (name : String) (bounds : ArgBounds)
      (offset opening : Nat) :
      Position (.arguments name bounds offset) frames
        ⟨.call name bounds offset opening [] :: pending, .expression⟩
  | branch {frames : List Frame} {pending : List Construct} {floor : Nat}
      (awaits : AwaitsExpression frames pending floor) (symbol separator : String)
      (offset next : Nat) (condition : Subtree) :
      Position (.branch floor symbol separator offset next condition) (.expression :: frames)
        ⟨.ternary symbol separator offset next condition :: pending, .expression⟩
  | loop {frames : List Frame} {pending : List Construct} {floor : Nat}
      (awaits : AwaitsExpression frames pending floor) (tree : Subtree) :
      Position (.loop floor tree) (.expression :: frames) ⟨pending, .complete tree⟩

/-- The descent has read what the reading has, and these tokens are ahead of it. -/
structure Follows (descent : Descent) (reading : Reading) (lexed : Lexed) : Prop where
  ahead : descent.stream.Ahead lexed
  depth : descent.depth = levels descent.frames
  openings : descent.openings = (Reading.openings reading.pending).reverse
  position : Position descent.control descent.frames reading

/-- Wherever the calls follow a reading with these tokens ahead, their run ends as `next` has it
for the reading. -/
def Continues (grammar : Grammar σ) (lexed : Lexed) (next : Reading → Except ParseError Expr) :
    Prop :=
  ∀ ⦃descent : Descent⦄ ⦃reading : Reading⦄, Follows descent reading lexed →
    Leads grammar descent (next reading)

/-! ## One token -/

section Token

variable {grammar : Grammar σ} {stream : TokenStream} {lexed : Lexed} {spanned : Spanned}
  {depth floor : Nat} {openings : List Nat} {frames : List Frame} {pending : List Construct}
  {tree : Subtree} {next : Reading → Except ParseError Expr}

/-- Prefix operators take the operand as it is returned to their calls. -/
theorem settle_leads {next : Subtree × List Construct → Except ParseError Expr}
    (awaits : AwaitsOperand frames pending)
    (hopenings : openings = (Reading.openings pending).reverse)
    (hnext : ∀ {tree pending frames floor}, AwaitsExpression frames pending floor →
      openings = (Reading.openings pending).reverse →
      Leads grammar ⟨stream, levels (.expression :: frames), openings, .expression :: frames,
        .loop floor tree⟩ (next (tree, pending))) :
    Leads grammar ⟨stream, levels frames, openings, frames, .value tree⟩
      (grammar.settle tree pending >>= next) := by
  -- Every prefix operator is one call that returns; the first call for an operand ends the way out.
  induction frames generalizing pending tree with
  | nil => nomatch awaits
  | cons frame frames ih =>
    cases awaits with
    | first outer =>
      rw [outer.settle_eq]
      exact .going rfl (hnext outer hopenings)
    | unary outer symbol offset =>
      rw [Grammar.settle, Grammar.apply]
      cases hbuild : grammar.build (.unary symbol tree.expr offset) (tree.height + 1) offset with
      | error e =>
        exact .error (by simp [advance, resume, hbuild])
      | ok larger =>
        refine .via ⟨stream, levels frames, openings, frames, .value larger⟩ ?_
          (ih outer hopenings)
        simp [advance, resume, hbuild, leave, goOn, Frame.isLevel]

/-- A token that does not join the operand ends the loop. -/
theorem exists_loop_of_joins?_eq_none (awaits : AwaitsExpression frames pending floor)
    (ahead : stream.Ahead lexed) (first : lexed.first = .ok spanned)
    (h : grammar.joins? pending spanned.token = none) :
    ∃ stream' : TokenStream, stream'.Ahead lexed ∧ ∀ depth openings frames,
      advance grammar ⟨stream, depth, openings, frames, .loop floor tree⟩ =
        .ok (.going ⟨stream', depth, openings, frames, .value tree⟩) := by
  obtain ⟨stream', ahead', hpeek⟩ := exists_peek ahead first
  refine ⟨stream', ahead', fun depth openings frames => ?_⟩
  obtain ⟨token, offset⟩ := spanned
  cases token with
  | operator symbol =>
    cases hjoiner : grammar.joiner? symbol with
    | none => simp [advance, loop, hpeek, ok_bind, pure_eq_ok, hjoiner, goOn]
    | some joiner =>
      have loose : joiner.precedence < floor := by
        simpa [Grammar.joins?, hjoiner, awaits.admits] using h
      simp [advance, loop, hpeek, ok_bind, pure_eq_ok, hjoiner, loose, goOn]
  | _ => simp [advance, loop, hpeek, ok_bind, pure_eq_ok, goOn]

/-- A token that joins the operand begins the call for what follows it. -/
theorem join_leads {symbol : String} {joiner : Joiner}
    (awaits : AwaitsExpression frames pending floor)
    (ahead : stream.Ahead lexed) (first : lexed.first = .ok spanned)
    (hopenings : openings = (Reading.openings pending).reverse)
    (hnext : Continues grammar lexed.rest next)
    (h : grammar.joins? pending spanned.token = some (symbol, joiner)) :
    Leads grammar ⟨stream, levels (.expression :: frames), openings, .expression :: frames,
      .loop floor tree⟩ (next (Grammar.join symbol joiner spanned.offset tree pending)) := by
  obtain ⟨htoken, hjoiner, admits⟩ := Grammar.joins?_eq_some h
  rw [awaits.admits] at admits
  have tight : ¬ joiner.precedence < floor := by simpa using admits
  obtain ⟨stream', ahead', hpeek⟩ := exists_peek ahead first
  obtain ⟨stream'', ahead'', htake⟩ := exists_take ahead' first
  cases hseparator : joiner.separator with
  | none =>
    refine .via ⟨stream'', levels (.expression :: frames), openings,
      .right floor symbol spanned.offset tree :: .expression :: frames,
      .expression joiner.floor⟩ ?_ (hnext ?_)
    · simp [advance, loop, hpeek, ok_bind, pure_eq_ok, htoken, hjoiner, tight, htake, hseparator,
        call]
    · rw [Grammar.join, hseparator]
      exact ⟨ahead'', by simp [Frame.isLevel], hopenings,
        .expression (.binary awaits symbol spanned.offset joiner.floor tree) trivial⟩
  | some separator =>
    refine .via ⟨stream'', levels (.expression :: frames), openings,
      .expression :: frames, .branch floor symbol separator spanned.offset joiner.floor tree⟩
      ?_ (hnext ?_)
    · simp [advance, loop, hpeek, ok_bind, pure_eq_ok, htoken, hjoiner, tight, htake, hseparator,
        goOn]
    · rw [Grammar.join, hseparator]
      exact ⟨ahead'', rfl, hopenings,
        .branch awaits symbol separator spanned.offset joiner.floor tree⟩

/-- A token that does not join the operand returns it from the level that the operand is in. -/
theorem exists_return (openings : List Nat) (tree : Subtree)
    (awaits : AwaitsExpression frames pending floor)
    (ahead : stream.Ahead lexed) (first : lexed.first = .ok spanned)
    (h : grammar.joins? pending spanned.token = none) :
    ∃ stream' : TokenStream, stream'.Ahead lexed ∧ ∀ {result},
      Leads grammar ⟨stream', levels frames, openings, frames, .value tree⟩ result →
      Leads grammar ⟨stream, levels (.expression :: frames), openings, .expression :: frames,
        .loop floor tree⟩ result := by
  obtain ⟨stream', ahead', hloop⟩ := exists_loop_of_joins?_eq_none awaits ahead first h
  refine ⟨stream', ahead', fun rest => .going (hloop _ _ _) (.going ?_ rest)⟩
  simp [advance, resume, pure_eq_ok, leave, goOn, Frame.isLevel]

/-- Both forms of the parser blame the end of the text on the same parenthesis. -/
theorem unexpectedEnd_eq (hopenings : openings = (Reading.openings pending).reverse)
    (control : Control) (offset : Nat) :
    unexpectedEnd ⟨stream, depth, openings, frames, control⟩ offset =
      Reading.unexpectedEnd pending offset := by
  rw [unexpectedEnd, Reading.unexpectedEnd, hopenings, List.getLast?_reverse]
  cases Reading.openings pending <;> rfl

/-- The token that an expression in parentheses is followed by. -/
theorem exists_close (ahead : stream.Ahead lexed) (first : lexed.first = .ok spanned) :
    ∃ stream' : TokenStream, stream'.Ahead lexed.rest ∧ ∀ depth openings frames control,
      close ⟨stream, depth, openings, frames, control⟩ =
        match spanned.token with
        | .rightParen => .ok ⟨stream', depth, openings.dropLast, frames, control⟩
        | .finish =>
          .error (unexpectedEnd ⟨stream', depth, openings, frames, control⟩ spanned.offset)
        | token => .error (.unexpected token spanned.offset) := by
  obtain ⟨stream', ahead', htake⟩ := exists_take ahead first
  refine ⟨stream', ahead', fun depth openings frames control => ?_⟩
  rw [close, htake, ok_bind]
  obtain ⟨token, offset⟩ := spanned
  cases token <;> rfl

/-- An operand is complete. -/
theorem complete_leads (awaits : AwaitsOperand frames pending) (ahead : stream.Ahead lexed)
    (hopenings : openings = (Reading.openings pending).reverse)
    (hnext : Continues grammar lexed next) :
    Leads grammar ⟨stream, levels frames, openings, frames, .value tree⟩
      (grammar.complete tree pending >>= next) := by
  rw [Grammar.complete, bind_assoc]
  exact settle_leads awaits hopenings fun outer houter => hnext ⟨ahead, rfl, houter, .loop outer _⟩

/-- Behind an expression in parentheses. -/
theorem group_leads {opening : Nat}
    (awaits : AwaitsOperand frames pending) (ahead : stream.Ahead lexed)
    (first : lexed.first = .ok spanned)
    (hopenings : openings = (Reading.openings (.group opening :: pending)).reverse)
    (hnext : spanned.token ≠ .finish → Continues grammar lexed.rest next)
    (hjoins : grammar.joins? (.group opening :: pending) spanned.token = none) :
    Leads grammar ⟨stream, levels (.group :: frames), openings, .group :: frames, .value tree⟩
      (grammar.proceed spanned tree (.group opening :: pending) >>= next) := by
  obtain ⟨stream', ahead', hclose⟩ := exists_close ahead first
  rw [Grammar.proceed, hjoins]
  obtain ⟨token, offset⟩ := spanned
  cases token with
  | rightParen =>
    refine .via ⟨stream', levels frames, openings.dropLast, frames, .value tree⟩ ?_
      (complete_leads awaits ahead' ?_ (hnext (by simp)))
    · simp [advance, resume, hclose, ok_bind, pure_eq_ok, goOn, Frame.isLevel]
    · simp [hopenings, Reading.openings, Construct.opening?]
  | finish =>
    refine .error ?_
    simp [advance, resume, hclose, unexpectedEnd_eq hopenings, Reading.unexpectedEnd,
      Reading.openings, Construct.opening?]
  | _ => exact .error (by simp [advance, resume, hclose])

section Call

variable {name : String} {bounds : ArgBounds} {offset opening : Nat} {args : List Subtree}

/-- The parenthesis of a call closes behind its arguments. -/
theorem closeCall_leads {descent : Descent} (control : Control)
    (awaits : AwaitsOperand frames pending) (ahead : stream.Ahead lexed)
    (first : lexed.first = .ok spanned) (closing : spanned.token = .rightParen)
    (hopenings : openings = (Reading.openings pending).reverse ++ [opening])
    (hnext : Continues grammar lexed.rest next)
    (hadvance : descent.advance grammar = .going <$>
      closeCall grammar ⟨stream, levels frames, openings, frames, control⟩ name bounds offset
        args) :
    Leads grammar descent ((do
      let tree ← grammar.applyCall name bounds offset args
      grammar.complete tree pending) >>= next) := by
  obtain ⟨stream', ahead', hclose⟩ := exists_close ahead first
  simp only [closeCall, hclose, closing, ok_bind] at hadvance
  cases happly : grammar.applyCall name bounds offset args with
  | error e => exact .error (by rw [hadvance, happly]; rfl)
  | ok tree =>
    refine .via ⟨stream', levels frames, openings.dropLast, frames, .value tree⟩ ?_
      (complete_leads awaits ahead' ?_ hnext)
    · rw [hadvance, happly]
      rfl
    · simp [hopenings]

/-- Behind an argument. -/
theorem call_leads (awaits : AwaitsOperand frames pending) (ahead : stream.Ahead lexed)
    (first : lexed.first = .ok spanned)
    (hopenings :
      openings = (Reading.openings (.call name bounds offset opening args :: pending)).reverse)
    (hnext : spanned.token ≠ .finish → Continues grammar lexed.rest next)
    (hjoins : grammar.joins? (.call name bounds offset opening args :: pending) spanned.token =
      none) :
    Leads grammar
      ⟨stream, levels (.call name bounds offset args :: frames), openings,
        .call name bounds offset args :: frames, .value tree⟩
      (grammar.proceed spanned tree (.call name bounds offset opening args :: pending) >>=
        next) := by
  obtain ⟨stream', ahead', hpeek⟩ := exists_peek ahead first
  have houter : openings = (Reading.openings pending).reverse ++ [opening] := by
    simpa [Reading.openings, Construct.opening?] using hopenings
  rw [Grammar.proceed, hjoins]
  obtain ⟨stream'', ahead'', hclose⟩ := exists_close ahead' first
  obtain ⟨token, between⟩ := spanned
  cases token with
  | comma =>
    obtain ⟨taken, behind, htake⟩ := exists_take ahead' first
    refine .via ⟨taken, levels frames, openings,
      .call name bounds offset (tree :: args) :: frames, .expression 0⟩ ?_ (hnext (by simp) ?_)
    · simp [advance, resume, hpeek, htake, ok_bind, pure_eq_ok, call, Frame.isLevel]
    · exact ⟨behind, by simp [Frame.isLevel], hopenings,
        .expression (.call awaits name bounds offset opening _) trivial⟩
  | rightParen =>
    refine closeCall_leads (.value tree) awaits ahead' first rfl houter (hnext (by simp)) ?_
    simp [advance, resume, hpeek, ok_bind, Frame.isLevel]
  | finish =>
    refine .error ?_
    simp [advance, resume, hpeek, ok_bind, error_bind, closeCall, hclose, unexpectedEnd, houter]
  | _ => exact .error (by simp [advance, resume, hpeek, ok_bind, error_bind, closeCall, hclose])

end Call

/-- Behind the first branch of a ternary operator. -/
theorem ternary_leads {symbol separator : String} {offset last : Nat} {condition : Subtree}
    (awaits : AwaitsExpression frames pending floor) (ahead : stream.Ahead lexed)
    (first : lexed.first = .ok spanned)
    (hopenings : openings = (Reading.openings pending).reverse)
    (hnext : spanned.token ≠ .finish → Continues grammar lexed.rest next)
    (hjoins : grammar.joins? (.ternary symbol separator offset last condition :: pending)
      spanned.token = none) :
    Leads grammar
      ⟨stream,
        levels (.ifTrue floor symbol separator offset last condition :: .expression :: frames),
        openings, .ifTrue floor symbol separator offset last condition :: .expression :: frames,
        .value tree⟩
      (grammar.proceed spanned tree (.ternary symbol separator offset last condition :: pending)
        >>= next) := by
  obtain ⟨stream', ahead', hpeek⟩ := exists_peek ahead first
  obtain ⟨stream'', ahead'', htake⟩ := exists_take ahead' first
  rw [Grammar.proceed, hjoins]
  by_cases hseparator : spanned.token = .operator separator
  · refine .via ⟨stream'', levels (.expression :: frames), openings,
      .ifFalse floor symbol offset condition tree :: .expression :: frames, .expression last⟩ ?_ ?_
    · simp [advance, resume, hpeek, htake, hseparator, ok_bind, pure_eq_ok, call, Frame.isLevel]
    · simp only [hseparator, if_pos, ok_bind]
      exact hnext (by simp [hseparator]) ⟨ahead'', by simp [Frame.isLevel], hopenings,
        .expression (.alternative awaits symbol offset last condition tree) trivial⟩
  · simp only [if_neg hseparator]
    exact .error (by simp [advance, resume, hpeek, hseparator, ok_bind, throw_eq_error])

/-- Behind the whole expression. -/
theorem conclude_leads (ahead : stream.Ahead lexed)
    (first : lexed.first = .ok spanned) (hjoins : grammar.joins? [] spanned.token = none)
    (hlast : spanned.token = .finish → ∀ tree, next ⟨[], .complete tree⟩ = .ok tree.expr) :
    Leads grammar ⟨stream, depth, openings, [], .value tree⟩
      (grammar.proceed spanned tree [] >>= next) := by
  obtain ⟨stream', -, htake⟩ := exists_take ahead first
  rw [Grammar.proceed, hjoins]
  obtain ⟨token, offset⟩ := spanned
  cases token with
  | finish =>
    simp only [ok_bind, hlast rfl]
    exact .done (by simp [advance, conclude, htake, ok_bind, pure_eq_ok])
  | _ => exact .error (by simp [advance, conclude, htake, ok_bind, throw_eq_error])

/-- A token behind an operand leads on as the operand and the constructs say. -/
theorem proceed_leads (awaits : AwaitsExpression frames pending floor) (ahead : stream.Ahead lexed)
    (first : lexed.first = .ok spanned)
    (hopenings : openings = (Reading.openings pending).reverse)
    (hnext : spanned.token ≠ .finish → Continues grammar lexed.rest next)
    (hlast : spanned.token = .finish → ∀ tree, next ⟨[], .complete tree⟩ = .ok tree.expr) :
    Leads grammar ⟨stream, levels (.expression :: frames), openings, .expression :: frames,
      .loop floor tree⟩ (grammar.proceed spanned tree pending >>= next) := by
  induction pending generalizing frames floor stream tree with
  | nil =>
    cases hjoins : grammar.joins? [] spanned.token with
    | some joined =>
      have more : spanned.token ≠ .finish := by simp [(Grammar.joins?_eq_some hjoins).1]
      rw [Grammar.proceed, hjoins]
      exact join_leads awaits ahead first hopenings (hnext more) hjoins
    | none =>
      obtain ⟨stream', ahead', hreturn⟩ := exists_return openings tree awaits ahead first hjoins
      cases awaits
      exact hreturn (conclude_leads ahead' first hjoins hlast)
  | cons construct pending ih =>
    cases hjoins : grammar.joins? (construct :: pending) spanned.token with
    | some joined =>
      have more : spanned.token ≠ .finish := by simp [(Grammar.joins?_eq_some hjoins).1]
      rw [Grammar.proceed.eq_def]
      simp only [hjoins, ok_bind]
      exact join_leads awaits ahead first hopenings (hnext more) hjoins
    | none =>
      obtain ⟨stream', ahead', hreturn⟩ := exists_return openings tree awaits ahead first hjoins
      refine hreturn ?_
      cases awaits with
      | group outer => exact group_leads outer ahead' first hopenings hnext hjoins
      | call outer => exact call_leads outer ahead' first hopenings hnext hjoins
      | ternary outer =>
        exact ternary_leads outer ahead' first hopenings hnext hjoins
      | binary outer symbol offset _ left =>
        rw [Grammar.proceed, hjoins]
        simp only [Grammar.apply]
        cases hbuild : grammar.build (.binary symbol left.expr tree.expr offset)
          (max left.height tree.height + 1) offset with
        | error e =>
          refine .error ?_
          simp only [advance, resume, hbuild, error_bind, map_error]
        | ok larger =>
          refine .going ?_ (ih outer ahead' hopenings)
          simp only [advance, resume, hbuild, ok_bind]
          rfl
      | alternative outer symbol offset _ condition ifTrue =>
        rw [Grammar.proceed, hjoins]
        simp only [Grammar.apply]
        cases hbuild : grammar.build (.ternary symbol condition.expr ifTrue.expr tree.expr offset)
          (max (max condition.height ifTrue.height) tree.height + 1) offset with
        | error e =>
          refine .error ?_
          simp only [advance, resume, hbuild, error_bind, map_error]
        | ok larger =>
          refine .going ?_ (ih outer ahead' hopenings)
          simp only [advance, resume, hbuild, ok_bind]
          rfl

/-- A token that begins an operand. -/
theorem operand_leads (awaits : AwaitsOperand frames pending) (ahead : stream.Ahead lexed)
    (first : lexed.first = .ok spanned)
    (hopenings : openings = (Reading.openings pending).reverse)
    (hnext : spanned.token ≠ .finish → Continues grammar lexed.rest next) :
    Leads grammar ⟨stream, levels frames, openings, frames, .operand⟩
      (grammar.beginOperand pending spanned >>= next) := by
  obtain ⟨stream', ahead', hpeek⟩ := exists_peek ahead first
  obtain ⟨stream'', ahead'', htake⟩ := exists_take ahead' first
  have hend (offset : Nat) :
      unexpectedEnd ⟨stream'', levels frames, openings, frames, .operand⟩ offset =
        Reading.unexpectedEnd pending offset := unexpectedEnd_eq hopenings .operand offset
  obtain ⟨token, offset⟩ := spanned
  cases token with
  | number value =>
    refine .via ⟨stream'', levels frames, openings, frames, .value ⟨.constant value, 1⟩⟩
      ?_ (complete_leads awaits ahead'' hopenings (hnext (by simp)))
    simp [advance, operand, primary, hpeek, htake, ok_bind, pure_eq_ok, goOn]
  | name text =>
    refine .via ⟨stream'', levels frames, openings, frames, .name text offset⟩ ?_
      (hnext (by simp) ⟨ahead'', rfl, hopenings, .name awaits text offset⟩)
    simp [advance, operand, primary, hpeek, htake, ok_bind, pure_eq_ok, goOn]
  | leftParen =>
    refine .via ⟨stream'', levels frames, openings ++ [offset], .group :: frames,
      .expression 0⟩ ?_ (hnext (by simp)
        ⟨ahead'', ?_, ?_, .expression (.group awaits offset) trivial⟩)
    · simp [advance, operand, primary, hpeek, htake, ok_bind, pure_eq_ok, opened, call]
    · simp [Frame.isLevel]
    · simp [hopenings, Reading.openings, Construct.opening?]
  | operator symbol =>
    cases hunary : grammar.isUnary symbol with
    | false =>
      simp only [Grammar.beginOperand, hunary]
      refine .error ?_
      simp [advance, operand, hpeek, hunary, ok_bind, throw_eq_error]
    | true =>
      have hdepth : levels frames + 1 = Reading.depth (.unary symbol offset :: pending) := by
        rw [awaits.levels_eq]
        rfl
      simp only [Grammar.beginOperand, hunary, if_true]
      cases henter : grammar.enter (Reading.depth (.unary symbol offset :: pending)) offset with
      | error e =>
        refine .error ?_
        simp [advance, operand, hpeek, htake, hunary, ok_bind, enter, hdepth, henter]
      | ok entered =>
        refine .via ⟨stream'', levels frames + 1, openings,
          .unary symbol offset :: frames, .operand⟩ ?_ (hnext (by simp) ⟨ahead'', ?_, hopenings,
            .operand (.unary awaits symbol offset)⟩)
        · simp [advance, operand, hpeek, htake, hunary, ok_bind, pure_eq_ok, enter, hdepth, henter,
            call]
        · simp [Frame.isLevel]
  | rightParen =>
    simp only [Grammar.beginOperand]
    cases hpending : Reading.openings pending <;> refine .error ?_ <;>
      simp [advance, operand, primary, hpeek, htake, ok_bind, throw_eq_error, hopenings, hpending]
  | comma =>
    refine .error ?_
    simp [advance, operand, primary, hpeek, htake, ok_bind, throw_eq_error]
  | finish =>
    refine .error ?_
    simp [advance, operand, primary, hpeek, htake, ok_bind, throw_eq_error, hend]

/-- A token that begins an expression which a construct cannot do without. -/
theorem expression_leads
    (awaits : AwaitsExpression frames pending floor) (ahead : stream.Ahead lexed)
    (first : lexed.first = .ok spanned)
    (hopenings : openings = (Reading.openings pending).reverse)
    (hnext : spanned.token ≠ .finish → Continues grammar lexed.rest next) :
    Leads grammar ⟨stream, levels frames, openings, frames, .expression floor⟩
      ((do
        grammar.enter (Reading.depth pending) spanned.offset
        grammar.beginOperand pending spanned) >>= next) := by
  obtain ⟨stream', ahead', hpeek⟩ := exists_peek ahead first
  have hdepth : levels frames + 1 = Reading.depth pending := by
    rw [awaits.levels_eq]
    rfl
  cases henter : grammar.enter (Reading.depth pending) spanned.offset with
  | error e =>
    refine .error ?_
    simp [advance, expression, hpeek, ok_bind, enter, hdepth, henter]
  | ok entered =>
    refine .via ⟨stream', levels (.climb floor :: .expression :: frames), openings,
      .climb floor :: .expression :: frames, .operand⟩ ?_
      (operand_leads (.first awaits) ahead' first hopenings hnext)
    simp [advance, expression, hpeek, ok_bind, pure_eq_ok, enter, hdepth, henter, Frame.isLevel]

/-- A call may close without arguments. -/
theorem arguments_leads {name : String} {bounds : ArgBounds} {offset opening : Nat}
    (awaits : AwaitsOperand frames pending) (ahead : stream.Ahead lexed)
    (first : lexed.first = .ok spanned)
    (hopenings :
      openings = (Reading.openings (.call name bounds offset opening [] :: pending)).reverse)
    (hnext : spanned.token ≠ .finish → Continues grammar lexed.rest next) :
    Leads grammar ⟨stream, levels frames, openings, frames, .arguments name bounds offset⟩
      (grammar.beginExpression (.call name bounds offset opening [] :: pending) spanned >>=
        next) := by
  obtain ⟨stream', ahead', hpeek⟩ := exists_peek ahead first
  by_cases hclosing : spanned.token = .rightParen
  · have houter : openings = (Reading.openings pending).reverse ++ [opening] := by
      simpa [Reading.openings, Construct.opening?] using hopenings
    simp only [Grammar.beginExpression, hclosing]
    refine closeCall_leads (.arguments name bounds offset) awaits ahead' first hclosing houter
      (hnext (by simp [hclosing])) ?_
    simp [advance, arguments, hpeek, hclosing, ok_bind]
  · refine .via ⟨stream', levels (.call name bounds offset [] :: frames), openings,
      .call name bounds offset [] :: frames, .expression 0⟩ ?_ ?_
    · simp [advance, arguments, hpeek, hclosing, ok_bind, pure_eq_ok, call, Frame.isLevel]
    · have := expression_leads (.call awaits name bounds offset opening []) ahead' first
        hopenings hnext
      obtain ⟨token, place⟩ := spanned
      cases token with
      | rightParen => exact absurd rfl hclosing
      | _ => exact this

/-- A ternary operator lacks its separator if there is nothing after its symbol. -/
theorem branch_leads {symbol separator : String} {offset last : Nat} {condition : Subtree}
    (awaits : AwaitsExpression frames pending floor) (ahead : stream.Ahead lexed)
    (first : lexed.first = .ok spanned)
    (hopenings : openings = (Reading.openings pending).reverse)
    (hnext : spanned.token ≠ .finish → Continues grammar lexed.rest next) :
    Leads grammar ⟨stream, levels (.expression :: frames), openings, .expression :: frames,
        .branch floor symbol separator offset last condition⟩
      (grammar.beginExpression (.ternary symbol separator offset last condition :: pending) spanned
        >>= next) := by
  obtain ⟨stream', ahead', hpeek⟩ := exists_peek ahead first
  have hrest := expression_leads (awaits.ternary symbol separator offset last condition) ahead'
    first hopenings hnext
  have hcall : levels (.ifTrue floor symbol separator offset last condition :: .expression ::
    frames) = levels (.expression :: frames) := by simp [Frame.isLevel]
  rw [hcall] at hrest
  obtain ⟨token, place⟩ := spanned
  cases token with
  | rightParen | comma | finish =>
    exact .error (by simp [advance, branch, hpeek, ok_bind, throw_eq_error])
  | _ =>
    refine .going ?_ hrest
    simp [advance, branch, hpeek, ok_bind, pure_eq_ok, call]

/-- A construct that cannot do without the expression that it waits for leaves every token to
it. -/
theorem beginExpression_of_demanding (demanding : Demanding pending) (spanned : Spanned) :
    grammar.beginExpression pending spanned = (do
      grammar.enter (Reading.depth pending) spanned.offset
      grammar.beginOperand pending spanned) := by
  unfold Grammar.beginExpression
  split
  all_goals first | exact demanding.elim | rfl

/-- A token that follows a name. -/
theorem name_leads {text : String} {offset : Nat}
    (awaits : AwaitsOperand frames pending) (ahead : stream.Ahead lexed)
    (first : lexed.first = .ok spanned)
    (hopenings : openings = (Reading.openings pending).reverse)
    (hnext : spanned.token ≠ .finish → Continues grammar lexed.rest next)
    (hlast : spanned.token = .finish → ∀ tree, next ⟨[], .complete tree⟩ = .ok tree.expr) :
    Leads grammar ⟨stream, levels frames, openings, frames, .name text offset⟩
      (grammar.step ⟨pending, .name text offset⟩ spanned >>= next) := by
  obtain ⟨stream', ahead', hpeek⟩ := exists_peek ahead first
  by_cases hparen : spanned.token = .leftParen
  · simp only [Grammar.step, hparen]
    cases hsignature : grammar.signature? text with
    | none =>
      refine .error ?_
      simp [advance, name, hpeek, hparen, hsignature, ok_bind, throw_eq_error]
    | some signature =>
      obtain ⟨name, bounds⟩ := signature
      obtain ⟨stream'', ahead'', htake⟩ := exists_take ahead' first
      refine .via ⟨stream'', levels frames, openings ++ [spanned.offset], frames,
        .arguments name bounds offset⟩ ?_ (hnext (by simp [hparen]) ⟨ahead'', rfl, ?_,
          .arguments awaits name bounds offset spanned.offset⟩)
      · simp [advance, Descent.name, hpeek, htake, hparen, hsignature, ok_bind, pure_eq_ok, opened,
          goOn]
      · simp [hopenings, Reading.openings, Construct.opening?]
  · have hstep : grammar.step ⟨pending, .name text offset⟩ spanned =
        grammar.settle ⟨.var text, 1⟩ pending >>= fun settled =>
          grammar.proceed spanned settled.1 settled.2 := by
      obtain ⟨token, place⟩ := spanned
      cases token with
      | leftParen => exact absurd rfl hparen
      | _ => rfl
    refine .via ⟨stream', levels frames, openings, frames, .value ⟨.var text, 1⟩⟩ ?_ ?_
    · simp [advance, name, hpeek, hparen, ok_bind, pure_eq_ok, goOn]
    · rw [hstep, bind_assoc]
      exact settle_leads awaits hopenings fun outer houter =>
        proceed_leads outer ahead' first houter hnext hlast

/-- One token leads the calls as it leads the reading. -/
theorem step_leads {descent : Descent} {reading : Reading}
    (follows : Follows descent reading lexed) (first : lexed.first = .ok spanned)
    (hnext : spanned.token ≠ .finish → Continues grammar lexed.rest next)
    (hlast : spanned.token = .finish → ∀ tree, next ⟨[], .complete tree⟩ = .ok tree.expr) :
    Leads grammar descent (grammar.step reading spanned >>= next) := by
  obtain ⟨stream, depth, openings, frames, control⟩ := descent
  obtain ⟨ahead, hdepth, hopenings, position⟩ := follows
  dsimp only at hdepth
  subst hdepth
  cases position with
  | expression awaits demanding =>
    have := expression_leads awaits ahead first hopenings hnext
    rw [Grammar.step]
    dsimp only
    rwa [beginExpression_of_demanding demanding]
  | operand awaits => exact operand_leads awaits ahead first hopenings hnext
  | name awaits => exact name_leads awaits ahead first hopenings hnext hlast
  | arguments awaits => exact arguments_leads awaits ahead first hopenings hnext
  | branch awaits => exact branch_leads awaits ahead first hopenings hnext
  | loop awaits => exact proceed_leads awaits ahead first hopenings hnext hlast

/-- Where no token starts, every call fails as the text does. -/
theorem lexical_leads {descent : Descent} {reading : Reading} {e : LexError}
    (follows : Follows descent reading lexed) (first : lexed.first = .error e) :
    Leads grammar descent (.error (.lexical e)) := by
  obtain ⟨stream, depth, openings, frames, control⟩ := descent
  obtain ⟨ahead, -, -, position⟩ := follows
  have hpeek (frames : List Frame) (control : Control) :
      peek ⟨stream, depth, openings, frames, control⟩ = .error (.lexical e) := by
    obtain ⟨answer, -, -⟩ := TokenStream.Ahead.peek ahead
    dsimp only at answer
    rw [first] at answer
    unfold peek
    cases hfound : stream.peek with
    | mk found after =>
      rw [hfound] at answer
      cases answer
      rfl
  refine .error ?_
  cases position <;>
    simp [advance, expression, operand, name, arguments, branch, loop, hpeek, error_bind]

end Token

/-! ## All tokens -/

/-- The calls read what is ahead as the reading does. -/
theorem run_leads {grammar : Grammar σ} {descent : Descent} {reading : Reading} {lexed : Lexed}
    (more : ∀ spanned ∈ lexed.tokens, spanned.token ≠ .finish)
    (follows : Follows descent reading lexed) :
    Leads grammar descent (do
      let reading ← lexed.tokens.foldlM grammar.step reading
      match lexed.ending with
      | .ok offset => grammar.finish reading offset
      | .error e => throw (.lexical e)) := by
  -- Behind the last token the calls look once more, and find the end of the text or the error.
  obtain ⟨tokens, ending⟩ := lexed
  induction tokens generalizing descent reading with
  | nil =>
    cases ending with
    | error e => exact lexical_leads follows rfl
    | ok offset =>
      have first : Lexed.first ⟨[], .ok offset⟩ = .ok ⟨.finish, offset⟩ := rfl
      exact step_leads follows first (fun more => absurd rfl more) fun _ _ => rfl
  | cons spanned tokens ih =>
    have htoken : spanned.token ≠ .finish := more spanned List.mem_cons_self
    rw [List.foldlM_cons, bind_assoc]
    refine step_leads follows rfl (fun _ descent reading hnext => ?_)
      (fun last => absurd last htoken)
    exact ih (fun other member => more other (List.mem_cons_of_mem _ member)) hnext

/-- Reading a text by calls ends as reading it token by token does. -/
theorem leads_parse (registry : Registry σ) (maxDepth : Nat) (text : String) :
    Leads (Dialect.grammar ⟨registry, maxDepth⟩) (start registry.lexicon text)
      (Grammar.parse ⟨registry, maxDepth⟩ text) :=
  run_leads Lexicon.token_ne_finish
    ⟨.ofText registry.lexicon text, rfl, rfl, .expression .whole trivial⟩

end Descent

end Formulary
