import Formulary.Proofs.Reading.Descent

/-!
# Formulary.Proofs.Reading.Moves

What one advance of a descent can do.

Every advance that goes on is one of the moves that are listed here (`Descent.Moves`), so an
invariant of the run (`Descent.Visits`) has one case for each of them, and none of these opens the
procedures that make the move. A move looks at the first token ahead, or takes it, or leaves the
tokens alone.
-/

namespace Formulary

variable {σ : Type}

/-- What becomes of a result, if there is one. -/
theorem exists_of_map_eq_ok {ε α β : Type} {first : Except ε α} {f : α → β} {result : β}
    (h : (f <$> first) = .ok result) : ∃ value, first = .ok value ∧ f value = result := by
  cases first with
  | error e => contradiction
  | ok value => exact ⟨value, rfl, Except.ok.inj h⟩

namespace TokenStream

variable {stream middle last : TokenStream} {spanned other : Spanned}

/-- The token is the first one ahead of the stream, and still is so afterwards. -/
def Looks (stream : TokenStream) (spanned : Spanned) (after : TokenStream) : Prop :=
  ∀ ⦃lexed : Lexed⦄, stream.Ahead lexed → lexed.first = .ok spanned ∧ after.Ahead lexed

/-- The token is the first one ahead of the stream, and is taken off it. -/
def Takes (stream : TokenStream) (spanned : Spanned) (after : TokenStream) : Prop :=
  ∀ ⦃lexed : Lexed⦄, stream.Ahead lexed → lexed.first = .ok spanned ∧ after.Ahead lexed.rest

/-- Looking at a token does not change what is taken. -/
theorem Looks.takes (looks : stream.Looks other middle) (takes : middle.Takes spanned last) :
    stream.Takes spanned last := fun _ ahead => takes (looks ahead).2

/-- What is taken has been looked at. -/
theorem Looks.takes_same (looks : stream.Looks spanned middle) (takes : middle.Takes other last) :
    stream.Takes spanned last := fun _ ahead =>
  ⟨(looks ahead).1, (takes (looks ahead).2).2⟩

/-- A token that is taken as what it was looked at as. -/
theorem Looks.takes_token {token : Token} (looks : stream.Looks spanned middle)
    (h : spanned.token = token) (takes : middle.Takes other last) :
    stream.Takes ⟨token, other.offset⟩ last := fun lexed ahead => by
  obtain ⟨first, behind⟩ := looks ahead
  obtain ⟨again, rest⟩ := takes behind
  cases first.symm.trans again
  rw [← h]
  exact ⟨first, rest⟩

end TokenStream

namespace Descent

/-- One advance that goes on. -/
inductive Moves (grammar : Grammar σ) : Descent → Descent → Prop
  /-- An expression is begun, one level further in. -/
  | expression {stream after : TokenStream} {depth floor : Nat} {openings : List Nat}
      {frames : List Frame} {spanned : Spanned} (looks : stream.Looks spanned after)
      (allowed : depth < grammar.maxDepth) :
      Moves grammar ⟨stream, depth, openings, frames, .expression floor⟩
        ⟨after, depth + 1, openings, .climb floor :: .expression :: frames, .operand⟩
  /-- A prefix operator begins its operand, one level further in. -/
  | unary {stream after : TokenStream} {depth offset : Nat} {openings : List Nat}
      {frames : List Frame} {symbol : String}
      (takes : stream.Takes ⟨.operator symbol, offset⟩ after)
      (isUnary : grammar.isUnary symbol = true) (allowed : depth < grammar.maxDepth) :
      Moves grammar ⟨stream, depth, openings, frames, .operand⟩
        ⟨after, depth + 1, openings, .unary symbol offset :: frames, .operand⟩
  | number {stream after : TokenStream} {depth offset : Nat} {openings : List Nat}
      {frames : List Frame} {value : Float} (takes : stream.Takes ⟨.number value, offset⟩ after) :
      Moves grammar ⟨stream, depth, openings, frames, .operand⟩
        ⟨after, depth, openings, frames, .value ⟨.constant value, 1⟩⟩
  | name {stream after : TokenStream} {depth offset : Nat} {openings : List Nat}
      {frames : List Frame} {text : String} (takes : stream.Takes ⟨.name text, offset⟩ after) :
      Moves grammar ⟨stream, depth, openings, frames, .operand⟩
        ⟨after, depth, openings, frames, .name text offset⟩
  | group {stream after : TokenStream} {depth opening : Nat} {openings : List Nat}
      {frames : List Frame} (takes : stream.Takes ⟨.leftParen, opening⟩ after) :
      Moves grammar ⟨stream, depth, openings, frames, .operand⟩
        ⟨after, depth, openings ++ [opening], .group :: frames, .expression 0⟩
  /-- A name without a parenthesis behind it is a variable. -/
  | var {stream after : TokenStream} {depth offset : Nat} {openings : List Nat}
      {frames : List Frame} {text : String} {spanned : Spanned}
      (looks : stream.Looks spanned after) (notCalled : spanned.token ≠ .leftParen) :
      Moves grammar ⟨stream, depth, openings, frames, .name text offset⟩
        ⟨after, depth, openings, frames, .value ⟨.var text, 1⟩⟩
  | function {stream after : TokenStream} {depth offset opening : Nat} {openings : List Nat}
      {frames : List Frame} {text name : String} {bounds : ArgBounds}
      (takes : stream.Takes ⟨.leftParen, opening⟩ after)
      (known : grammar.signature? text = some (name, bounds)) :
      Moves grammar ⟨stream, depth, openings, frames, .name text offset⟩
        ⟨after, depth, openings ++ [opening], frames, .arguments name bounds offset⟩
  /-- A call closes without arguments. -/
  | nullary {stream after : TokenStream} {depth offset closing : Nat} {openings : List Nat}
      {frames : List Frame} {name : String} {bounds : ArgBounds} {tree : Subtree}
      (takes : stream.Takes ⟨.rightParen, closing⟩ after)
      (built : grammar.applyCall name bounds offset [] = .ok tree) :
      Moves grammar ⟨stream, depth, openings, frames, .arguments name bounds offset⟩
        ⟨after, depth, openings.dropLast, frames, .value tree⟩
  | argument {stream after : TokenStream} {depth offset : Nat} {openings : List Nat}
      {frames : List Frame} {name : String} {bounds : ArgBounds} {spanned : Spanned}
      (looks : stream.Looks spanned after) (more : spanned.token ≠ .rightParen) :
      Moves grammar ⟨stream, depth, openings, frames, .arguments name bounds offset⟩
        ⟨after, depth, openings, .call name bounds offset [] :: frames, .expression 0⟩
  /-- There is a first branch behind the symbol of a ternary operator. -/
  | branch {stream after : TokenStream} {depth floor offset next : Nat} {openings : List Nat}
      {frames : List Frame} {symbol separator : String} {condition : Subtree} {spanned : Spanned}
      (looks : stream.Looks spanned after) :
      Moves grammar
        ⟨stream, depth, openings, frames, .branch floor symbol separator offset next condition⟩
        ⟨after, depth, openings, .ifTrue floor symbol separator offset next condition :: frames,
          .expression 0⟩
  /-- No operator takes the operand as its left one. -/
  | stop {stream after : TokenStream} {depth floor : Nat} {openings : List Nat}
      {frames : List Frame} {tree : Subtree} {spanned : Spanned}
      (looks : stream.Looks spanned after) :
      Moves grammar ⟨stream, depth, openings, frames, .loop floor tree⟩
        ⟨after, depth, openings, frames, .value tree⟩
  | binary {stream after : TokenStream} {depth floor offset : Nat} {openings : List Nat}
      {frames : List Frame} {symbol : String} {joiner : Joiner} {tree : Subtree}
      (takes : stream.Takes ⟨.operator symbol, offset⟩ after)
      (joins : grammar.joiner? symbol = some joiner) (tight : floor ≤ joiner.precedence)
      (isBinary : joiner.separator = none) :
      Moves grammar ⟨stream, depth, openings, frames, .loop floor tree⟩
        ⟨after, depth, openings, .right floor symbol offset tree :: frames,
          .expression joiner.floor⟩
  | ternary {stream after : TokenStream} {depth floor offset : Nat} {openings : List Nat}
      {frames : List Frame} {symbol separator : String} {joiner : Joiner} {tree : Subtree}
      (takes : stream.Takes ⟨.operator symbol, offset⟩ after)
      (joins : grammar.joiner? symbol = some joiner) (tight : floor ≤ joiner.precedence)
      (isTernary : joiner.separator = some separator) :
      Moves grammar ⟨stream, depth, openings, frames, .loop floor tree⟩
        ⟨after, depth, openings, frames, .branch floor symbol separator offset joiner.floor tree⟩
  /-- An expression is returned from its level. -/
  | leave {stream : TokenStream} {depth : Nat} {openings : List Nat} {frames : List Frame}
      {tree : Subtree} :
      Moves grammar ⟨stream, depth, openings, .expression :: frames, .value tree⟩
        ⟨stream, depth - 1, openings, frames, .value tree⟩
  | first {stream : TokenStream} {depth floor : Nat} {openings : List Nat} {frames : List Frame}
      {tree : Subtree} :
      Moves grammar ⟨stream, depth, openings, .climb floor :: frames, .value tree⟩
        ⟨stream, depth, openings, frames, .loop floor tree⟩
  | right {stream : TokenStream} {depth floor offset : Nat} {openings : List Nat}
      {frames : List Frame} {symbol : String} {left right tree : Subtree}
      (built : grammar.build (.binary symbol left.expr right.expr offset)
        (max left.height right.height + 1) offset = .ok tree) :
      Moves grammar
        ⟨stream, depth, openings, .right floor symbol offset left :: frames, .value right⟩
        ⟨stream, depth, openings, frames, .loop floor tree⟩
  | separator {stream after : TokenStream} {depth floor offset between next : Nat}
      {openings : List Nat} {frames : List Frame} {symbol separator : String}
      {condition ifTrue : Subtree} (takes : stream.Takes ⟨.operator separator, between⟩ after) :
      Moves grammar
        ⟨stream, depth, openings, .ifTrue floor symbol separator offset next condition :: frames,
          .value ifTrue⟩
        ⟨after, depth, openings, .ifFalse floor symbol offset condition ifTrue :: frames,
          .expression next⟩
  | ifFalse {stream : TokenStream} {depth floor offset : Nat} {openings : List Nat}
      {frames : List Frame} {symbol : String} {condition ifTrue ifFalse tree : Subtree}
      (built : grammar.build (.ternary symbol condition.expr ifTrue.expr ifFalse.expr offset)
        (max (max condition.height ifTrue.height) ifFalse.height + 1) offset = .ok tree) :
      Moves grammar
        ⟨stream, depth, openings, .ifFalse floor symbol offset condition ifTrue :: frames,
          .value ifFalse⟩
        ⟨stream, depth, openings, frames, .loop floor tree⟩
  /-- The operand of a prefix operator is returned from its level. -/
  | operand {stream : TokenStream} {depth offset : Nat} {openings : List Nat}
      {frames : List Frame} {symbol : String} {operand tree : Subtree}
      (built : grammar.build (.unary symbol operand.expr offset) (operand.height + 1) offset =
        .ok tree) :
      Moves grammar ⟨stream, depth, openings, .unary symbol offset :: frames, .value operand⟩
        ⟨stream, depth - 1, openings, frames, .value tree⟩
  | closeGroup {stream after : TokenStream} {depth closing : Nat} {openings : List Nat}
      {frames : List Frame} {tree : Subtree}
      (takes : stream.Takes ⟨.rightParen, closing⟩ after) :
      Moves grammar ⟨stream, depth, openings, .group :: frames, .value tree⟩
        ⟨after, depth, openings.dropLast, frames, .value tree⟩
  | comma {stream after : TokenStream} {depth offset between : Nat} {openings : List Nat}
      {frames : List Frame} {name : String} {bounds : ArgBounds} {args : List Subtree}
      {tree : Subtree} (takes : stream.Takes ⟨.comma, between⟩ after) :
      Moves grammar ⟨stream, depth, openings, .call name bounds offset args :: frames, .value tree⟩
        ⟨after, depth, openings, .call name bounds offset (tree :: args) :: frames, .expression 0⟩
  | closeCall {stream after : TokenStream} {depth offset closing : Nat} {openings : List Nat}
      {frames : List Frame} {name : String} {bounds : ArgBounds} {args : List Subtree}
      {last tree : Subtree} (takes : stream.Takes ⟨.rightParen, closing⟩ after)
      (built : grammar.applyCall name bounds offset (last :: args) = .ok tree) :
      Moves grammar ⟨stream, depth, openings, .call name bounds offset args :: frames, .value last⟩
        ⟨after, depth, openings.dropLast, frames, .value tree⟩

/-! ## Tokens -/

variable {grammar : Grammar σ} {descent next : Descent} {spanned : Spanned}

/-- Peeking changes the stream and nothing else. -/
theorem exists_of_peek_eq_ok (h : descent.peek = .ok (spanned, next)) :
    ∃ after, descent.stream.Looks spanned after ∧ next = { descent with stream := after } := by
  unfold peek at h
  split at h
  · next found after hpeek =>
    cases h
    refine ⟨after, fun lexed ahead => ?_, rfl⟩
    obtain ⟨answer, behind, -⟩ := ahead.peek
    rw [hpeek] at answer behind
    exact ⟨answer.symm, behind⟩
  · contradiction

/-- Taking a token changes the stream and nothing else. -/
theorem exists_of_take_eq_ok (h : descent.take = .ok (spanned, next)) :
    ∃ after, descent.stream.Takes spanned after ∧ next = { descent with stream := after } := by
  unfold take at h
  split at h
  · next found after hnext =>
    cases h
    refine ⟨after, fun lexed ahead => ?_, rfl⟩
    obtain ⟨cursor, answer, tokens⟩ := ahead.next
    rw [hnext] at answer
    obtain ⟨first, rfl⟩ := Prod.mk.inj answer
    exact ⟨first.symm, .scanned tokens _⟩
  · contradiction

/-- A level is entered if the limit allows it. -/
theorem enter_eq (descent : Descent) (offset : Nat) :
    descent.enter grammar offset =
      if descent.depth < grammar.maxDepth then .ok { descent with depth := descent.depth + 1 }
      else .error (.tooDeep grammar.maxDepth offset) := by
  unfold enter Grammar.enter
  by_cases allowed : descent.depth < grammar.maxDepth
  · rw [if_pos allowed, if_neg (by omega)]
    rfl
  · rw [if_neg allowed, if_pos (by omega)]
    rfl

/-- The limit allows one level more. -/
theorem of_enter_eq_ok {offset : Nat} (h : descent.enter grammar offset = .ok next) :
    descent.depth < grammar.maxDepth ∧ next = { descent with depth := descent.depth + 1 } := by
  rw [enter_eq] at h
  split at h
  · next allowed =>
    cases h
    exact ⟨allowed, rfl⟩
  · contradiction

/-- A parenthesis has closed. -/
theorem exists_of_close_eq_ok (h : descent.close = .ok next) :
    ∃ closing after, descent.stream.Takes ⟨.rightParen, closing⟩ after ∧
      next = { descent with stream := after, openings := descent.openings.dropLast } := by
  obtain ⟨⟨⟨token, closing⟩, taken⟩, htake, hrest⟩ := exists_of_bind_eq_ok h
  obtain ⟨after, takes, rfl⟩ := exists_of_take_eq_ok htake
  cases token with
  | rightParen =>
    cases hrest
    exact ⟨closing, after, takes, rfl⟩
  | _ => contradiction

/-! ## Procedures -/

section Procedures

variable {stream : TokenStream} {depth : Nat} {openings : List Nat} {frames : List Frame}

/-- An expression that begins is one of the moves. -/
theorem expression_moves {floor : Nat}
    (h : expression grammar ⟨stream, depth, openings, frames, .expression floor⟩ floor = .ok next) :
    Moves grammar ⟨stream, depth, openings, frames, .expression floor⟩ next := by
  obtain ⟨⟨spanned, looked⟩, hpeek, hrest⟩ := exists_of_bind_eq_ok h
  obtain ⟨after, looks, rfl⟩ := exists_of_peek_eq_ok hpeek
  obtain ⟨entered, henter, hnext⟩ := exists_of_bind_eq_ok hrest
  obtain ⟨allowed, rfl⟩ := of_enter_eq_ok henter
  cases hnext
  exact .expression looks allowed

/-- An operand that begins is one of the moves. -/
theorem operand_moves
    (h : operand grammar ⟨stream, depth, openings, frames, .operand⟩ = .ok next) :
    Moves grammar ⟨stream, depth, openings, frames, .operand⟩ next := by
  obtain ⟨⟨⟨token, offset⟩, looked⟩, hpeek, hrest⟩ := exists_of_bind_eq_ok h
  obtain ⟨middle, looks, rfl⟩ := exists_of_peek_eq_ok hpeek
  have primary {next : Descent}
      (h : primary ⟨middle, depth, openings, frames, .operand⟩ = .ok next) :
      Moves grammar ⟨stream, depth, openings, frames, .operand⟩ next := by
    obtain ⟨⟨⟨token, offset⟩, taken⟩, htake, hrest⟩ := exists_of_bind_eq_ok h
    obtain ⟨after, takes, rfl⟩ := exists_of_take_eq_ok htake
    cases token with
    | number value =>
      cases hrest
      exact .number (looks.takes takes)
    | name text =>
      cases hrest
      exact .name (looks.takes takes)
    | leftParen =>
      cases hrest
      exact .group (looks.takes takes)
    | rightParen =>
      dsimp only at hrest
      split at hrest <;> contradiction
    | _ => contradiction
  cases token with
  | operator symbol =>
    dsimp only at hrest
    split at hrest
    · next isUnary =>
      obtain ⟨⟨other, taken⟩, htake, hrest⟩ := exists_of_bind_eq_ok hrest
      obtain ⟨after, takes, rfl⟩ := exists_of_take_eq_ok htake
      obtain ⟨entered, henter, hnext⟩ := exists_of_bind_eq_ok hrest
      obtain ⟨allowed, rfl⟩ := of_enter_eq_ok henter
      cases hnext
      exact .unary (looks.takes_same takes) isUnary allowed
    · contradiction
  | _ => exact primary hrest

/-- A name is a variable or the beginning of a call. -/
theorem name_moves {text : String} {offset : Nat}
    (h : name grammar ⟨stream, depth, openings, frames, .name text offset⟩ text offset = .ok next) :
    Moves grammar ⟨stream, depth, openings, frames, .name text offset⟩ next := by
  obtain ⟨⟨spanned, looked⟩, hpeek, hrest⟩ := exists_of_bind_eq_ok h
  obtain ⟨middle, looks, rfl⟩ := exists_of_peek_eq_ok hpeek
  dsimp only at hrest
  split at hrest
  · next hparen =>
    split at hrest
    · next known =>
      obtain ⟨⟨opening, taken⟩, htake, hnext⟩ := exists_of_bind_eq_ok hrest
      obtain ⟨after, takes, rfl⟩ := exists_of_take_eq_ok htake
      cases hnext
      exact .function (looks.takes_token hparen takes) known
    · contradiction
  · next notCalled =>
    cases hrest
    exact .var looks notCalled

/-- Arguments end at once or begin with the first of them. -/
theorem arguments_moves {name : String} {bounds : ArgBounds} {offset : Nat}
    (h : arguments grammar ⟨stream, depth, openings, frames, .arguments name bounds offset⟩ name
      bounds offset = .ok next) :
    Moves grammar ⟨stream, depth, openings, frames, .arguments name bounds offset⟩ next := by
  obtain ⟨⟨spanned, looked⟩, hpeek, hrest⟩ := exists_of_bind_eq_ok h
  obtain ⟨middle, looks, rfl⟩ := exists_of_peek_eq_ok hpeek
  dsimp only at hrest
  split at hrest
  · obtain ⟨closed, hclose, hrest⟩ := exists_of_bind_eq_ok hrest
    obtain ⟨closing, after, takes, rfl⟩ := exists_of_close_eq_ok hclose
    obtain ⟨tree, built, hnext⟩ := exists_of_bind_eq_ok hrest
    cases hnext
    exact .nullary (looks.takes takes) built
  · next more =>
    cases hrest
    exact .argument looks more

/-- The first branch ends at its separator. -/
theorem branch_moves {floor offset last : Nat} {symbol separator : String} {condition : Subtree}
    (h : branch
      ⟨stream, depth, openings, frames, .branch floor symbol separator offset last condition⟩
      floor symbol separator offset last condition = .ok next) :
    Moves grammar
      ⟨stream, depth, openings, frames, .branch floor symbol separator offset last condition⟩
      next := by
  obtain ⟨⟨⟨token, between⟩, looked⟩, hpeek, hrest⟩ := exists_of_bind_eq_ok h
  obtain ⟨after, looks, rfl⟩ := exists_of_peek_eq_ok hpeek
  cases token with
  | rightParen | comma | finish => contradiction
  | _ =>
    cases hrest
    exact .branch looks

/-- Behind an operand an operator goes on, or the expression is complete. -/
theorem loop_moves {floor : Nat} {tree : Subtree}
    (h : loop grammar ⟨stream, depth, openings, frames, .loop floor tree⟩ floor tree = .ok next) :
    Moves grammar ⟨stream, depth, openings, frames, .loop floor tree⟩ next := by
  obtain ⟨⟨⟨token, offset⟩, looked⟩, hpeek, hrest⟩ := exists_of_bind_eq_ok h
  obtain ⟨middle, looks, rfl⟩ := exists_of_peek_eq_ok hpeek
  cases token with
  | operator symbol =>
    dsimp only at hrest
    split at hrest
    · next joiner joins =>
      split at hrest
      · cases hrest
        exact .stop looks
      · next tight =>
        obtain ⟨⟨other, taken⟩, htake, hrest⟩ := exists_of_bind_eq_ok hrest
        obtain ⟨after, takes, rfl⟩ := exists_of_take_eq_ok htake
        dsimp only at hrest
        split at hrest
        · next isBinary =>
          cases hrest
          exact .binary (looks.takes_same takes) joins (Nat.le_of_not_lt tight) isBinary
        · next isTernary =>
          cases hrest
          exact .ternary (looks.takes_same takes) joins (Nat.le_of_not_lt tight) isTernary
    · cases hrest
      exact .stop looks
  | _ =>
    cases hrest
    exact .stop looks

/-- A complete tree is handed to the frame that waits for it. -/
theorem resume_moves {frame : Frame} {tree : Subtree}
    (h : resume grammar ⟨stream, depth, openings, frames, .value tree⟩ tree frame = .ok next) :
    Moves grammar ⟨stream, depth, openings, frame :: frames, .value tree⟩ next := by
  cases frame with
  | expression =>
    cases h
    exact .leave
  | climb floor =>
    cases h
    exact .first
  | right floor symbol offset left =>
    obtain ⟨larger, built, hnext⟩ := exists_of_bind_eq_ok h
    cases hnext
    exact .right built
  | ifTrue floor symbol separator offset last condition =>
    obtain ⟨⟨spanned, looked⟩, hpeek, hrest⟩ := exists_of_bind_eq_ok h
    obtain ⟨middle, looks, rfl⟩ := exists_of_peek_eq_ok hpeek
    dsimp only at hrest
    split at hrest
    · next hseparator =>
      obtain ⟨⟨other, taken⟩, htake, hnext⟩ := exists_of_bind_eq_ok hrest
      obtain ⟨after, takes, rfl⟩ := exists_of_take_eq_ok htake
      cases hnext
      exact .separator (looks.takes_token hseparator takes)
    · contradiction
  | ifFalse floor symbol offset condition ifTrue =>
    obtain ⟨larger, built, hnext⟩ := exists_of_bind_eq_ok h
    cases hnext
    exact .ifFalse built
  | unary symbol offset =>
    obtain ⟨larger, built, hnext⟩ := exists_of_bind_eq_ok h
    cases hnext
    exact .operand built
  | group =>
    obtain ⟨closed, hclose, hnext⟩ := exists_of_bind_eq_ok h
    obtain ⟨closing, after, takes, rfl⟩ := exists_of_close_eq_ok hclose
    cases hnext
    exact .closeGroup takes
  | call name bounds offset args =>
    obtain ⟨⟨spanned, looked⟩, hpeek, hrest⟩ := exists_of_bind_eq_ok h
    obtain ⟨middle, looks, rfl⟩ := exists_of_peek_eq_ok hpeek
    dsimp only at hrest
    split at hrest
    · next hcomma =>
      obtain ⟨⟨other, taken⟩, htake, hnext⟩ := exists_of_bind_eq_ok hrest
      obtain ⟨after, takes, rfl⟩ := exists_of_take_eq_ok htake
      cases hnext
      exact .comma (looks.takes_token hcomma takes)
    · obtain ⟨closed, hclose, hrest⟩ := exists_of_bind_eq_ok hrest
      obtain ⟨closing, after, takes, rfl⟩ := exists_of_close_eq_ok hclose
      obtain ⟨larger, built, hnext⟩ := exists_of_bind_eq_ok hrest
      cases hnext
      exact .closeCall (looks.takes takes) built

end Procedures

/-- An advance that goes on is one of the moves. -/
theorem moves_of_advance (h : descent.advance grammar = .ok (.going next)) :
    Moves grammar descent next := by
  have going {result : Except ParseError Descent}
      (h : Outcome.going <$> result = .ok (.going next)) : result = .ok next := by
    obtain ⟨found, hfound, hnext⟩ := exists_of_map_eq_ok h
    cases hnext
    exact hfound
  obtain ⟨stream, depth, openings, frames, control⟩ := descent
  cases control with
  | expression floor => exact expression_moves (going h)
  | operand => exact operand_moves (going h)
  | name text offset => exact name_moves (going h)
  | arguments name bounds offset => exact arguments_moves (going h)
  | branch floor symbol separator offset last condition => exact branch_moves (going h)
  | loop floor tree => exact loop_moves (going h)
  | value tree =>
    cases frames with
    | nil =>
      obtain ⟨expr, -, hnext⟩ := exists_of_map_eq_ok h
      contradiction
    | cons frame frames => exact resume_moves (going h)

/-! ## Runs -/

/-- The run from the first descent comes to the second. -/
inductive Visits (grammar : Grammar σ) (first : Descent) : Descent → Prop
  | refl : Visits grammar first first
  | going {descent next : Descent} (visits : Visits grammar first descent)
      (h : descent.advance grammar = .ok (.going next)) : Visits grammar first next

/-- What every move preserves holds wherever the run comes to. -/
theorem Visits.invariant {first : Descent} {motive : Descent → Prop}
    (visits : Visits grammar first descent) (start : motive first)
    (moves : ∀ {descent next : Descent}, Moves grammar descent next → motive descent →
      motive next) : motive descent := by
  induction visits with
  | refl => exact start
  | going _ h ih => exact moves (moves_of_advance h) ih

/-- A run has one end. -/
theorem Leads.unique {result other : Except ParseError Expr} (leads : Leads grammar descent result)
    (leads' : Leads grammar descent other) : result = other := by
  induction leads with
  | error h =>
    cases leads' with
    | error h' => exact congrArg _ (Except.error.inj (h.symm.trans h'))
    | done h' | going h' => exact absurd (h.symm.trans h') (by simp)
  | done h =>
    cases leads' with
    | done h' =>
      cases h.symm.trans h'
      rfl
    | error h' | going h' => exact absurd (h.symm.trans h') (by simp)
  | going h _ ih =>
    cases leads' with
    | going h' rest =>
      cases h.symm.trans h'
      exact ih rest
    | error h' | done h' => exact absurd (h.symm.trans h') (by simp)

/-- A run that ends, ends alike from wherever it comes to. -/
theorem Leads.of_visits {first : Descent} {result : Except ParseError Expr}
    (leads : Leads grammar first result) (visits : Visits grammar first descent) :
    Leads grammar descent result := by
  induction visits with
  | refl => exact leads
  | going _ h ih =>
    cases ih with
    | error h' | done h' =>
      rw [h] at h'
      cases h'
    | going h' rest =>
      rw [h] at h'
      cases h'
      exact rest

end Descent

end Formulary
