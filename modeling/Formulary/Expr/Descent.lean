import Formulary.Expr.Reading
import Formulary.Token.Stream

/-!
# Formulary.Expr.Descent

Reading an expression by calls that make each other.

A `Descent` reads the tokens off a stream, looking one token ahead. What a `Reading` keeps in one
list is spread over the calls that have been made and have not returned (`Descent.frames`). Beside
them stand two things that nothing but the calls keeps in step with them: a count of the levels of
nesting, raised and lowered by those who make a level, and the offsets of the open parentheses.

`Descent.advance` goes on from one look at a token, call or return to the next.
-/

namespace Formulary

variable {σ : Type}

/-! ## Calls -/

/-- A call that waits for the one that it has made. -/
inductive Frame
  /-- It reads an expression, which is a level of nesting. -/
  | expression
  /-- It reads operands and the operators between them, of precedence `floor` at least, and waits
  for the first operand. -/
  | climb (floor : Nat)
  /-- It waits for the right operand of a binary operator instead. -/
  | right (floor : Nat) (symbol : String) (offset : Nat) (left : Subtree)
  /-- It waits for the first branch of a ternary operator, the last one having operators of
  precedence `next` at least. -/
  | ifTrue (floor : Nat) (symbol separator : String) (offset next : Nat) (condition : Subtree)
  /-- It waits for the last branch of a ternary operator. -/
  | ifFalse (floor : Nat) (symbol : String) (offset : Nat) (condition ifTrue : Subtree)
  /-- It reads a prefix operator and waits for the operand. -/
  | unary (symbol : String) (offset : Nat)
  /-- It waits for the expression in parentheses. -/
  | group
  /-- It reads a function call and waits for an argument, the last of those before it first. -/
  | call (name : String) (bounds : ArgBounds) (offset : Nat) (args : List Subtree)
deriving Repr

/-- Where the innermost call is. -/
inductive Control
  /-- It begins an expression with operators of precedence `floor` at least. -/
  | expression (floor : Nat)
  /-- It begins an operand. -/
  | operand
  /-- It has taken a name. -/
  | name (text : String) (offset : Nat)
  /-- It has taken the name of a function and the parenthesis behind it. -/
  | arguments (name : String) (bounds : ArgBounds) (offset : Nat)
  /-- It has taken a condition and the symbol of a ternary operator. -/
  | branch (floor : Nat) (symbol separator : String) (offset next : Nat) (condition : Subtree)
  /-- It has taken an operand, which operators of precedence `floor` at least may follow. -/
  | loop (floor : Nat) (tree : Subtree)
  /-- It returns. -/
  | value (tree : Subtree)
deriving Repr

/-- What has been read of a formula, and by whom. -/
structure Descent where
  stream : TokenStream
  /-- The levels of nesting. -/
  depth : Nat
  /-- The offsets of the open parentheses, innermost last. -/
  openings : List Nat
  /-- The calls that wait, innermost first. -/
  frames : List Frame
  control : Control
deriving Repr

namespace Descent

/-- Nothing has been read of a text. -/
def start (lexicon : Lexicon) (text : String) : Descent :=
  ⟨.ofText lexicon text, 0, [], [], .expression 0⟩

/-! ## Tokens, levels and parentheses -/

/-- Look at the next token. -/
def peek (descent : Descent) : Except ParseError (Spanned × Descent) :=
  match descent.stream.peek with
  | (.ok spanned, stream) => .ok (spanned, { descent with stream })
  | (.error e, _) => .error (.lexical e)

/-- Take the next token. -/
def take (descent : Descent) : Except ParseError (Spanned × Descent) :=
  match descent.stream.next with
  | (.ok spanned, stream) => .ok (spanned, { descent with stream })
  | (.error e, _) => .error (.lexical e)

/-- Go one level down, unless that is beyond the limit. -/
def enter (grammar : Grammar σ) (descent : Descent) (offset : Nat) : Except ParseError Descent := do
  grammar.enter (descent.depth + 1) offset
  return { descent with depth := descent.depth + 1 }

/-- Go one level up. -/
def leave (descent : Descent) : Descent := { descent with depth := descent.depth - 1 }

/-- A parenthesis opens. -/
def opened (descent : Descent) (opening : Nat) : Descent :=
  { descent with openings := descent.openings ++ [opening] }

/-- The end of the text inside parentheses blames the innermost open one. -/
def unexpectedEnd (descent : Descent) (offset : Nat) : ParseError :=
  match descent.openings.getLast? with
  | some opening => .unbalanced opening
  | none => .unexpected .finish offset

/-- The innermost parenthesis must close. -/
def close (descent : Descent) : Except ParseError Descent := do
  let (spanned, descent) ← descent.take
  match spanned.token with
  | .rightParen => return { descent with openings := descent.openings.dropLast }
  | .finish => throw (descent.unexpectedEnd spanned.offset)
  | token => throw (.unexpected token spanned.offset)

/-- Make a call. -/
def call (descent : Descent) (frame : Frame) (control : Control) : Descent :=
  { descent with frames := frame :: descent.frames, control }

/-- Go on within the innermost call. -/
def goOn (descent : Descent) (control : Control) : Descent := { descent with control }

/-! ## The calls -/

/-- Begin an expression. -/
def expression (grammar : Grammar σ) (descent : Descent) (floor : Nat) :
    Except ParseError Descent := do
  let (spanned, descent) ← descent.peek
  let descent ← descent.enter grammar spanned.offset
  return { descent with
    frames := .climb floor :: .expression :: descent.frames
    control := .operand }

/-- Begin an operand that has no prefix operator. -/
def primary (descent : Descent) : Except ParseError Descent := do
  let (spanned, descent) ← descent.take
  match spanned.token with
  | .number value => return descent.goOn (.value ⟨.constant value, 1⟩)
  | .name text => return descent.goOn (.name text spanned.offset)
  | .leftParen => return (descent.opened spanned.offset).call .group (.expression 0)
  | .rightParen =>
    if descent.openings.isEmpty then throw (.unbalanced spanned.offset)
    else throw (.unexpected .rightParen spanned.offset)
  | .finish => throw (descent.unexpectedEnd spanned.offset)
  | token => throw (.unexpected token spanned.offset)

/-- Begin an operand. -/
def operand (grammar : Grammar σ) (descent : Descent) : Except ParseError Descent := do
  let (spanned, descent) ← descent.peek
  match spanned.token with
  | .operator symbol =>
    if grammar.isUnary symbol then do
      let (_, descent) ← descent.take
      let descent ← descent.enter grammar spanned.offset
      return descent.call (.unary symbol spanned.offset) .operand
    else throw (.unexpected spanned.token spanned.offset)
  | _ => descent.primary

/-- A name has been taken, which is a function if a parenthesis opens and else a variable. -/
def name (grammar : Grammar σ) (descent : Descent) (text : String) (offset : Nat) :
    Except ParseError Descent := do
  let (spanned, descent) ← descent.peek
  if spanned.token = .leftParen then
    match grammar.signature? text with
    | some (name, bounds) => do
      let (opening, descent) ← descent.take
      return (descent.opened opening.offset).goOn (.arguments name bounds offset)
    | none => throw (.unknownFunction text offset)
  else return descent.goOn (.value ⟨.var text, 1⟩)

/-- The arguments of a function call are complete. -/
def closeCall (grammar : Grammar σ) (descent : Descent) (name : String) (bounds : ArgBounds)
    (offset : Nat) (args : List Subtree) : Except ParseError Descent := do
  let descent ← descent.close
  let tree ← grammar.applyCall name bounds offset args
  return descent.goOn (.value tree)

/-- A function call may close without arguments. -/
def arguments (grammar : Grammar σ) (descent : Descent) (name : String) (bounds : ArgBounds)
    (offset : Nat) : Except ParseError Descent := do
  let (spanned, descent) ← descent.peek
  if spanned.token = .rightParen then descent.closeCall grammar name bounds offset []
  else return descent.call (.call name bounds offset []) (.expression 0)

/-- A ternary operator lacks its separator if there is nothing after its symbol. -/
def branch (descent : Descent) (floor : Nat) (symbol separator : String) (offset next : Nat)
    (condition : Subtree) : Except ParseError Descent := do
  let (spanned, descent) ← descent.peek
  match spanned.token with
  | .rightParen | .comma | .finish => throw (.unmatchedTernary symbol separator offset)
  | _ =>
    return descent.call (.ifTrue floor symbol separator offset next condition) (.expression 0)

/-- An operand has been taken. An operator behind it takes it as its left one if it binds tightly
enough. -/
def loop (grammar : Grammar σ) (descent : Descent) (floor : Nat) (tree : Subtree) :
    Except ParseError Descent := do
  let (spanned, descent) ← descent.peek
  match spanned.token with
  | .operator symbol =>
    match grammar.joiner? symbol with
    | some joiner =>
      if joiner.precedence < floor then return descent.goOn (.value tree)
      else do
        let (_, descent) ← descent.take
        match joiner.separator with
        | none =>
          return descent.call (.right floor symbol spanned.offset tree) (.expression joiner.floor)
        | some separator =>
          return descent.goOn (.branch floor symbol separator spanned.offset joiner.floor tree)
    | none => return descent.goOn (.value tree)
  | _ => return descent.goOn (.value tree)

/-! ## Returning -/

/-- An expression is returned to the call that has waited for it. -/
def resume (grammar : Grammar σ) (descent : Descent) (tree : Subtree) :
    Frame → Except ParseError Descent
  | .expression => return descent.leave.goOn (.value tree)
  | .climb floor => return descent.goOn (.loop floor tree)
  | .right floor symbol offset left => do
    let tree ← grammar.build (.binary symbol left.expr tree.expr offset)
      (max left.height tree.height + 1) offset
    return descent.goOn (.loop floor tree)
  | .ifTrue floor symbol separator offset next condition => do
    let (spanned, descent) ← descent.peek
    if spanned.token = .operator separator then do
      let (_, descent) ← descent.take
      return descent.call (.ifFalse floor symbol offset condition tree) (.expression next)
    else throw (.unmatchedTernary symbol separator offset)
  | .ifFalse floor symbol offset condition ifTrue => do
    let tree ← grammar.build (.ternary symbol condition.expr ifTrue.expr tree.expr offset)
      (max (max condition.height ifTrue.height) tree.height + 1) offset
    return descent.goOn (.loop floor tree)
  | .unary symbol offset => do
    let tree ← grammar.build (.unary symbol tree.expr offset) (tree.height + 1) offset
    return descent.leave.goOn (.value tree)
  | .group => do
    let descent ← descent.close
    return descent.goOn (.value tree)
  | .call name bounds offset args => do
    let (spanned, descent) ← descent.peek
    if spanned.token = .comma then do
      let (_, descent) ← descent.take
      return descent.call (.call name bounds offset (tree :: args)) (.expression 0)
    else descent.closeCall grammar name bounds offset (tree :: args)

/-- The whole expression is returned, which the text must end behind. -/
def conclude (descent : Descent) (tree : Subtree) : Except ParseError Expr := do
  let (spanned, _) ← descent.take
  match spanned.token with
  | .finish => return tree.expr
  | .rightParen => throw (.unbalanced spanned.offset)
  | token => throw (.unexpected token spanned.offset)

/-- What advancing comes to. -/
inductive Outcome
  | going (descent : Descent)
  | done (expr : Expr)

/-- Go on to the next look at a token, call or return. -/
def advance (grammar : Grammar σ) (descent : Descent) : Except ParseError Outcome :=
  match descent.control with
  | .expression floor => .going <$> descent.expression grammar floor
  | .operand => .going <$> descent.operand grammar
  | .name text offset => .going <$> descent.name grammar text offset
  | .arguments name bounds offset => .going <$> descent.arguments grammar name bounds offset
  | .branch floor symbol separator offset next condition =>
    .going <$> descent.branch floor symbol separator offset next condition
  | .loop floor tree => .going <$> descent.loop grammar floor tree
  | .value tree =>
    match descent.frames with
    | frame :: frames => .going <$> resume grammar { descent with frames } tree frame
    | [] => .done <$> descent.conclude tree

end Descent

end Formulary
