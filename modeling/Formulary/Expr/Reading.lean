import Formulary.Expr
import Formulary.Expr.ParseError

/-!
# Formulary.Expr.Reading

Reading an expression from tokens, one token at a time.

What has been read of a formula is a `Reading`: the constructs that have been
begun and wait for an operand, innermost first, and what the next token finds.
`Grammar.step` takes one token, `Grammar.parse` all tokens of a text.

Binary and ternary operators group by precedence and associativity: a token
that joins a complete operand goes to the innermost construct that it does not
bind looser than (`Construct.admits`), after the constructs within have taken
the operand (`Grammar.proceed`). Prefix operators bind tighter than all of
them and take their operand at once (`Grammar.settle`).

Two guards keep trees shallow. Every construct that waits is one level of
nesting, and so is the formula itself; there may be at most `maxDepth` levels.
Flat chains of operators grow a tree without nesting, and so its height has a
wider bound, `maxHeight`.
-/

namespace Formulary

variable {σ : Type}

/-! ## Readings -/

/-- An expression that has been read, and the height of its tree. -/
structure Subtree where
  expr : Expr
  height : Nat
deriving Repr

/-- A construct that waits for an operand. -/
inductive Construct
  /-- A prefix operator. -/
  | unary (symbol : String) (offset : Nat)
  /-- A binary operator and its left operand. Operators of a precedence below `floor` do not
  belong to the right operand. -/
  | binary (symbol : String) (offset floor : Nat) (left : Subtree)
  /-- A ternary operator up to its first symbol. -/
  | ternary (symbol separator : String) (offset floor : Nat) (condition : Subtree)
  /-- A ternary operator up to its separator. -/
  | alternative (symbol : String) (offset floor : Nat) (condition ifTrue : Subtree)
  /-- A parenthesis around an expression. -/
  | group (opening : Nat)
  /-- A function call, with the arguments before the present one, the last of them first. -/
  | call (name : String) (bounds : ArgBounds) (offset opening : Nat) (args : List Subtree)
deriving Repr

/-- What the next token finds. -/
inductive Focus
  /-- It begins an expression. -/
  | expression
  /-- It begins the operand of a prefix operator. -/
  | operand
  /-- It follows a name, which is a function if a parenthesis opens and else a variable. -/
  | name (text : String) (offset : Nat)
  /-- It follows a complete operand. -/
  | complete (tree : Subtree)
deriving Repr

/-- What has been read of a formula. -/
structure Reading where
  /-- The constructs that wait for an operand, innermost first. -/
  pending : List Construct
  focus : Focus
deriving Repr

namespace Construct

/-- The offset of the parenthesis that the construct has open. -/
def opening? : Construct → Option Nat
  | group opening => some opening
  | call _ _ _ opening _ => some opening
  | _ => none

/-- An operator of this precedence, after the operand that the construct waits for, belongs to
that operand. -/
def admits (precedence : Nat) : Construct → Bool
  | unary _ _ => false
  | binary _ _ floor _ => floor ≤ precedence
  | alternative _ _ floor _ _ => floor ≤ precedence
  | ternary .. | group _ | call .. => true

end Construct

namespace Reading

/-- Nothing has been read. -/
def start : Reading := ⟨[], .expression⟩

/-- The offsets of the open parentheses, innermost first. -/
def openings (pending : List Construct) : List Nat := pending.filterMap Construct.opening?

/-- The levels of nesting of the operand that is being read. -/
def depth (pending : List Construct) : Nat := pending.length + 1

/-- The end of the text inside parentheses blames the innermost open one. -/
def unexpectedEnd (pending : List Construct) (offset : Nat) : ParseError :=
  match openings pending with
  | opening :: _ => .unbalanced opening
  | [] => .unexpected .finish offset

end Reading

/-! ## Grammars -/

/-- The operators that a text may use, and how deep it may nest. -/
structure Dialect (σ : Type) where
  registry : Registry σ
  maxDepth : Nat

/-- What tokens are read by: a registry and the limits of nesting and of height. -/
structure Grammar (σ : Type) where
  registry : Registry σ
  maxDepth : Nat
  maxHeight : Nat

/-- A tree may be four times as high as there may be levels of nesting, as far as one counts. -/
def Dialect.grammar (dialect : Dialect σ) : Grammar σ :=
  ⟨dialect.registry, dialect.maxDepth, min (4 * dialect.maxDepth) 0xFFFFFFFFFFFFFFFF⟩

/-- How an operator goes on after an operand. -/
structure Joiner where
  precedence : Nat
  /-- The least precedence of an operator within the last operand. -/
  floor : Nat
  /-- The separator, if the operator is ternary. -/
  separator : Option String
deriving DecidableEq, Repr

namespace Grammar

/-- The symbol is a prefix operator. -/
def isUnary (grammar : Grammar σ) (symbol : String) : Bool :=
  (grammar.registry.resolve? symbol .unary).isSome

/-- How a symbol goes on after an operand: as a binary operator if it is one, else as a ternary
operator if it is one. -/
def joiner? (grammar : Grammar σ) (symbol : String) : Option Joiner :=
  match grammar.registry.resolve? symbol .binary with
  | some operator => some ⟨operator.precedence.toNat, operator.rightPrecedence, none⟩
  | none => (grammar.registry.resolve? symbol .ternary).map fun operator =>
      ⟨operator.precedence.toNat, operator.rightPrecedence, some (operator.separator?.getD "")⟩

/-- The name and the argument counts of a function. -/
def signature? (grammar : Grammar σ) (name : String) : Option (String × ArgBounds) := do
  let operator ← grammar.registry.function? name
  let bounds ← operator.bounds?
  return (operator.symbol, bounds)

/-- Refuse a level of nesting beyond the limit. -/
def enter (grammar : Grammar σ) (depth offset : Nat) : Except ParseError Unit :=
  if grammar.maxDepth < depth then .error (.tooDeep grammar.maxDepth offset) else .ok ()

/-- Build a node, which must not be too high. -/
def build (grammar : Grammar σ) (expr : Expr) (height offset : Nat) :
    Except ParseError Subtree :=
  if grammar.maxHeight < height then .error (.tooDeep grammar.maxHeight offset)
  else .ok ⟨expr, height⟩

/-- Build the node of an operator with the operand it waited for. A construct that is closed by
a token of its own gives the operand back. -/
def apply (grammar : Grammar σ) (construct : Construct) (tree : Subtree) :
    Except ParseError Subtree :=
  match construct with
  | .unary symbol offset => grammar.build (.unary symbol tree.expr offset) (tree.height + 1) offset
  | .binary symbol offset _ left =>
    grammar.build (.binary symbol left.expr tree.expr offset) (max left.height tree.height + 1)
      offset
  | .alternative symbol offset _ condition ifTrue =>
    grammar.build (.ternary symbol condition.expr ifTrue.expr tree.expr offset)
      (max (max condition.height ifTrue.height) tree.height + 1) offset
  | .ternary .. | .group _ | .call .. => .ok tree

/-- Build the node of a call from its arguments, the last of them first. -/
def applyCall (grammar : Grammar σ) (name : String) (bounds : ArgBounds) (offset : Nat)
    (args : List Subtree) : Except ParseError Subtree :=
  if bounds.admits args.length then
    grammar.build (.call name (args.reverse.map Subtree.expr) offset)
      ((args.map Subtree.height).foldl max 0 + 1) offset
  else .error (.argumentCount name bounds args.length offset)

/-- Hand a complete operand to the prefix operators right before it. -/
def settle (grammar : Grammar σ) (tree : Subtree) :
    List Construct → Except ParseError (Subtree × List Construct)
  | .unary symbol offset :: pending => do
    let tree ← grammar.apply (.unary symbol offset) tree
    grammar.settle tree pending
  | pending => .ok (tree, pending)

/-- An operand is complete. -/
def complete (grammar : Grammar σ) (tree : Subtree) (pending : List Construct) :
    Except ParseError Reading := do
  let (tree, pending) ← grammar.settle tree pending
  return ⟨pending, .complete tree⟩

/-! ## Steps -/

/-- A token that begins an operand. -/
def beginOperand (grammar : Grammar σ) (pending : List Construct) (spanned : Spanned) :
    Except ParseError Reading :=
  let offset := spanned.offset
  match spanned.token with
  | .number value => grammar.complete ⟨.constant value, 1⟩ pending
  | .name text => .ok ⟨pending, .name text offset⟩
  | .operator symbol =>
    if grammar.isUnary symbol then do
      let pending := .unary symbol offset :: pending
      grammar.enter (Reading.depth pending) offset
      return ⟨pending, .operand⟩
    else .error (.unexpected spanned.token offset)
  | .leftParen => .ok ⟨.group offset :: pending, .expression⟩
  | .rightParen =>
    if (Reading.openings pending).isEmpty then .error (.unbalanced offset)
    else .error (.unexpected spanned.token offset)
  | .comma => .error (.unexpected spanned.token offset)
  | .finish => .error (Reading.unexpectedEnd pending offset)

/-- A token that begins an expression, which is a new level of nesting. Two constructs can do
without the expression: a call may close without arguments, and a ternary operator without
anything after its symbol lacks its separator. -/
def beginExpression (grammar : Grammar σ) (pending : List Construct) (spanned : Spanned) :
    Except ParseError Reading :=
  match pending, spanned.token with
  | .call name bounds offset _ [] :: pending, .rightParen => do
    let tree ← grammar.applyCall name bounds offset []
    grammar.complete tree pending
  | .ternary symbol separator offset _ _ :: _, .rightParen
  | .ternary symbol separator offset _ _ :: _, .comma
  | .ternary symbol separator offset _ _ :: _, .finish =>
    .error (.unmatchedTernary symbol separator offset)
  | pending, _ => do
    grammar.enter (Reading.depth pending) spanned.offset
    grammar.beginOperand pending spanned

/-- The joiner of a token that may follow the operand of these constructs. -/
def joins? (grammar : Grammar σ) (pending : List Construct) (token : Token) :
    Option (String × Joiner) :=
  match token with
  | .operator symbol => do
    let joiner ← grammar.joiner? symbol
    if pending.head?.all (Construct.admits joiner.precedence) then some (symbol, joiner) else none
  | _ => none

/-- Begin the construct of a joiner, which takes the operand before it. -/
def join (symbol : String) (joiner : Joiner) (offset : Nat) (tree : Subtree)
    (pending : List Construct) : Reading :=
  let construct := match joiner.separator with
    | none => .binary symbol offset joiner.floor tree
    | some separator => .ternary symbol separator offset joiner.floor tree
  ⟨construct :: pending, .expression⟩

/-- A token that follows a complete operand. An operator takes the operand as its left one if
it binds tightly enough. Else the innermost construct takes it, and the token follows the
operand that this makes. -/
def proceed (grammar : Grammar σ) (spanned : Spanned) (tree : Subtree) :
    List Construct → Except ParseError Reading
  | [] =>
    match grammar.joins? [] spanned.token with
    | some (symbol, joiner) => .ok (join symbol joiner spanned.offset tree [])
    | none =>
      match spanned.token with
      | .finish => .ok ⟨[], .complete tree⟩
      | .rightParen => .error (.unbalanced spanned.offset)
      | token => .error (.unexpected token spanned.offset)
  | construct :: outer =>
    match grammar.joins? (construct :: outer) spanned.token with
    | some (symbol, joiner) => .ok (join symbol joiner spanned.offset tree (construct :: outer))
    | none =>
      match construct with
      | .group opening =>
        match spanned.token with
        | .rightParen => grammar.complete tree outer
        | .finish => .error (.unbalanced opening)
        | token => .error (.unexpected token spanned.offset)
      | .call name bounds offset opening args =>
        match spanned.token with
        | .comma => .ok ⟨.call name bounds offset opening (tree :: args) :: outer, .expression⟩
        | .rightParen => do
          let tree ← grammar.applyCall name bounds offset (tree :: args)
          grammar.complete tree outer
        | .finish => .error (.unbalanced opening)
        | token => .error (.unexpected token spanned.offset)
      | .ternary symbol separator offset floor condition =>
        if spanned.token = .operator separator then
          .ok ⟨.alternative symbol offset floor condition tree :: outer, .expression⟩
        else .error (.unmatchedTernary symbol separator offset)
      | .unary .. | .binary .. | .alternative .. => do
        let tree ← grammar.apply construct tree
        grammar.proceed spanned tree outer

/-- Take one token. -/
def step (grammar : Grammar σ) (reading : Reading) (spanned : Spanned) :
    Except ParseError Reading :=
  match reading.focus with
  | .expression => grammar.beginExpression reading.pending spanned
  | .operand => grammar.beginOperand reading.pending spanned
  | .name text offset =>
    match spanned.token with
    | .leftParen =>
      match grammar.signature? text with
      | some (name, bounds) =>
        .ok ⟨.call name bounds offset spanned.offset [] :: reading.pending, .expression⟩
      | none => .error (.unknownFunction text offset)
    | _ => do
      let (tree, pending) ← grammar.settle ⟨.var text, 1⟩ reading.pending
      grammar.proceed spanned tree pending
  | .complete tree => grammar.proceed spanned tree reading.pending

/-- Take the end of the text, at the given offset. -/
def finish (grammar : Grammar σ) (reading : Reading) (offset : Nat) : Except ParseError Expr := do
  let reading ← grammar.step reading ⟨.finish, offset⟩
  match reading.focus with
  | .complete tree => return tree.expr
  | _ => throw (Reading.unexpectedEnd reading.pending offset)

/-- Read an expression from the tokens of a text. -/
def read (grammar : Grammar σ) (lexed : Lexed) : Except ParseError Expr := do
  let reading ← lexed.tokens.foldlM grammar.step Reading.start
  match lexed.ending with
  | .ok offset => grammar.finish reading offset
  | .error e => throw (.lexical e)

/-- Read an expression from a text. -/
def parse (dialect : Dialect σ) (text : String) : Except ParseError Expr :=
  dialect.grammar.read (dialect.registry.lexicon.tokens text)

end Grammar

end Formulary
