import Formulary.Builtin
import Formulary.Proofs.Decimal.ReadBack
import Formulary.Proofs.Lexing.Written
import Formulary.Proofs.Reading.Compiles

/-!
# Formulary.Proofs.Rendering

The rendering with all parentheses is read back.

A rendering is the text of a tree that stands in all its parentheses
(`Expr.bracketed`). Such a tree is read whatever the precedences of its operators are,
so all that has to be known of the expression is about its leaves and symbols: what is
written for each of them spells it again (`Expr.Writable`). Of a tree that was read,
this has to be shown of the numbers, whose digits may be others than those that were
read, and of the words that are written in upper case.
-/

namespace Formulary

variable {σ : Type}

namespace Expr

/-! ## Expressions up to offsets -/

mutual

/-- The expression with all offsets forgotten. -/
def withoutOffsets : Expr → Expr
  | constant value => .constant value
  | var name => .var name
  | unary symbol operand _ => .unary symbol operand.withoutOffsets 0
  | binary symbol left right _ => .binary symbol left.withoutOffsets right.withoutOffsets 0
  | ternary symbol condition ifTrue ifFalse _ =>
    .ternary symbol condition.withoutOffsets ifTrue.withoutOffsets ifFalse.withoutOffsets 0
  | call name args _ => .call name (withoutOffsetsAll args) 0

/-- The expressions with all offsets forgotten. -/
def withoutOffsetsAll : List Expr → List Expr
  | [] => []
  | arg :: args => arg.withoutOffsets :: withoutOffsetsAll args

end

/-- The node is a ternary operator. -/
def isTernary : Expr → Bool
  | ternary .. => true
  | _ => false

/-- The number that the node is, if it is a literal. -/
def literal? : Expr → Option Float
  | constant value => some value
  | _ => none

/-! ## The tree that a rendering writes -/

mutual

/-- The expression with parentheses around every operator, a ternary one as a call of its
symbol. -/
def bracketed : Expr → Bracketed
  | constant value => .constant value
  | var name => .var name
  | unary symbol operand _ => .group (.unary symbol operand.bracketed)
  | binary symbol left right _ => .group (.binary symbol left.bracketed right.bracketed)
  | ternary symbol condition ifTrue ifFalse _ =>
    .call symbol [condition.bracketed, ifTrue.bracketed, ifFalse.bracketed]
  | call name args _ => .call name (bracketedAll args)

/-- The expressions with parentheses around every operator. -/
def bracketedAll : List Expr → List Bracketed
  | [] => []
  | arg :: args => arg.bracketed :: bracketedAll args

end

theorem bracketedAll_eq_map (args : List Expr) : bracketedAll args = args.map bracketed := by
  induction args with
  | nil => rfl
  | cons arg args ih => rw [bracketedAll, ih, List.map_cons]

/-- No operator joins the whole. -/
theorem isJoined_bracketed (expr : Expr) : expr.bracketed.isJoined = false := by
  cases expr <;> rfl

theorem heightAll_bracketed {args : List Expr}
    (ih : ∀ arg ∈ args, arg.bracketed.height = arg.height) :
    Bracketed.heightAll (bracketedAll args) = heightAll args := by
  induction args with
  | nil => rfl
  | cons arg args iht =>
    rw [bracketedAll, Bracketed.heightAll, heightAll, ih arg List.mem_cons_self,
      iht fun other member => ih other (List.mem_cons_of_mem _ member)]

/-- Parentheses do not make an expression higher. -/
theorem height_bracketed (expr : Expr) : expr.bracketed.height = expr.height := by
  induction expr with
  | constant value => rfl
  | var name => rfl
  | unary symbol operand offset ih => simp only [bracketed, Bracketed.height, height, ih]
  | binary symbol left right offset ihl ihr =>
    simp only [bracketed, Bracketed.height, height, ihl, ihr]
  | ternary symbol condition ifTrue ifFalse offset ihc iht ihf =>
    simp only [bracketed, Bracketed.height, Bracketed.heightAll, height, ihc, iht, ihf]
    omega
  | call name args offset ih =>
    rw [bracketed, Bracketed.height, height, heightAll_bracketed ih]

theorem levelsAll_bracketed_le {args : List Expr}
    (ih : ∀ arg ∈ args, arg.bracketed.levels ≤ 2 * arg.height) :
    Bracketed.levelsAll (bracketedAll args) ≤ 2 * heightAll args := by
  induction args with
  | nil => rfl
  | cons arg args iht =>
    have hfirst := ih arg List.mem_cons_self
    have hrest := iht fun other member => ih other (List.mem_cons_of_mem _ member)
    rw [bracketedAll, Bracketed.levelsAll, heightAll]
    omega

/-- An operator takes a level for its parentheses and one for its operands. -/
theorem levels_bracketed_le (expr : Expr) : expr.bracketed.levels ≤ 2 * expr.height := by
  induction expr with
  | constant value => simp [bracketed, Bracketed.levels, height]
  | var name => simp [bracketed, Bracketed.levels, height]
  | unary symbol operand offset ih =>
    simp only [bracketed, Bracketed.levels, height]
    omega
  | binary symbol left right offset ihl ihr =>
    simp only [bracketed, Bracketed.levels, height]
    omega
  | ternary symbol condition ifTrue ifFalse offset ihc iht ihf =>
    simp only [bracketed, Bracketed.levels, Bracketed.levelsAll, height]
    omega
  | call name args offset ih =>
    have := levelsAll_bracketed_le ih
    simp only [bracketed, Bracketed.levels, height]
    omega

/-! ## Expressions that can be written -/

/-- What is written for each leaf and each symbol spells it, and every operator and function
takes as many operands as it has. -/
inductive Writable (registry : Registry σ) : Expr → Prop
  | constant {value : Float}
      (spells : Spells registry .number (floatChars .plain value) (.number value)) :
      Writable registry (.constant value)
  | var {name : String} (spells : Spells registry .word name.toList (.name name)) :
      Writable registry (.var name)
  | unary {symbol : String} {operand : Expr} {offset : Nat} {kind : Lettering}
      {operator : Operator σ} (spells : Spells registry kind symbol.toList (.operator symbol))
      (resolved : registry.resolve? symbol .unary = some operator)
      (inner : Writable registry operand) : Writable registry (.unary symbol operand offset)
  | binary {symbol : String} {left right : Expr} {offset : Nat} {kind : Lettering}
      {operator : Operator σ} (spells : Spells registry kind symbol.toList (.operator symbol))
      (resolved : registry.resolve? symbol .binary = some operator)
      (first : Writable registry left) (second : Writable registry right) :
      Writable registry (.binary symbol left right offset)
  | call {name : String} {args : List Expr} {offset : Nat} {operator : Operator σ}
      {bounds : ArgBounds} (spells : Spells registry .word name.toList (.name name))
      (normal : Symbol.normalize name = name)
      (resolved : registry.function? name = some operator)
      (bounded : operator.bounds? = some bounds) (admitted : bounds.admits args.length = true)
      (all : ∀ arg ∈ args, Writable registry arg) : Writable registry (.call name args offset)

end Expr

/-! ### What is read can be written -/

namespace Spells

variable {registry : Registry σ} {kind : Lettering} {slice : List Char}

/-- The decimal that is written for a finite number spells the number. -/
theorem number_chars {value : Float} (h : Spells registry kind slice (.number value))
    (finite : value ≠ infinity) :
    Spells registry .number (floatChars .plain value) (.number value) := by
  cases h with
  | @number numeral _ formed reads =>
    rw [readNumber_text formed] at reads
    have hvalue : value = Float.ofBits (UInt64.ofNat numeral.toDecimal.bits) :=
      (Except.ok.inj reads).symm
    have hbits : numeral.toDecimal.bits < infinityBits := by
      apply Nat.lt_of_le_of_ne (Decimal.bits_le _)
      intro infinite
      rw [infinite] at hvalue
      exact finite hvalue
    obtain ⟨other, hother, -, htext, hfloat⟩ := exists_numeral_floatChars hbits
    rw [hvalue, htext]
    exact .number hother (by rw [readNumber_text hother, hfloat])

/-- A name that is spelled by some slice is spelled by itself. -/
theorem name_chars {name : String} (h : Spells registry kind slice (.name name)) :
    Spells registry .word name.toList (.name name) := by
  cases h with
  | name word free =>
    rw [String.toList_ofList]
    exact .name word free

/-- The upper case of a name is a name, too. -/
theorem normalize_chars {name : String} (h : Spells registry kind slice (.name name)) :
    Spells registry .word (Symbol.normalize name).toList (.name (Symbol.normalize name)) := by
  cases h with
  | name word free =>
    have hword : Symbol.isWord (String.ofList slice) = true := by
      rw [Symbol.isWord, String.toList_ofList, word]
    have hupper : Symbol.isWordChars (Symbol.upper (String.ofList slice)).toList = true :=
      (Symbol.isWord_upper _).trans hword
    have hfree : ¬ registry.HasSymbol
        (Symbol.upper (String.ofList (Symbol.upper (String.ofList slice)).toList)) := by
      rwa [String.ofList_toList, Symbol.upper_upper]
    have hname := Spells.name hupper hfree
    rw [String.ofList_toList] at hname
    rwa [Symbol.normalize, if_pos hword]

/-- A symbol spells itself. -/
theorem operator_chars {symbol : String} (h : Spells registry kind slice (.operator symbol)) :
    Spells registry kind symbol.toList (.operator symbol) := by
  cases h with
  | operator word registered =>
    have hupper : Symbol.isWordChars (Symbol.upper (String.ofList slice)).toList = true := by
      rw [Symbol.toList_upper, Symbol.isWordChars_map_toUpper, String.toList_ofList, word]
    -- A word is normalized when it is read, so the symbol is its own upper case.
    have hregistered : registry.HasSymbol
        (Symbol.upper (String.ofList (Symbol.upper (String.ofList slice)).toList)) := by
      rwa [String.ofList_toList, Symbol.upper_upper]
    have hoperator := Spells.operator hupper hregistered
    rwa [String.ofList_toList, Symbol.upper_upper] at hoperator
  | punctuation registered notWord => exact .punctuation registered notWord

end Spells

namespace Bracketed

variable {registry : Registry σ}

/-- The tokens of an argument are among those of the call. -/
theorem mem_tokens_call (name : String) {args : List Bracketed} {arg : Bracketed} {token : Token}
    (member : arg ∈ args) (h : token ∈ arg.tokens) : token ∈ (call name args).tokens := by
  have hrest {args : List Bracketed} (member : arg ∈ args) : token ∈ tokensRest args := by
    induction args with
    | nil => simp at member
    | cons first rest ih =>
      rw [tokensRest]
      rcases List.mem_cons.1 member with rfl | member
      · simp [h]
      · simp [ih member]
  cases args with
  | nil => simp at member
  | cons first rest =>
    rw [tokens]
    rcases List.mem_cons.1 member with rfl | member
    · simp [h]
    · simp [hrest member]

/-- A well-grouped tree of spelled tokens can be written, if it has no ternary operator and no
infinite number. -/
theorem Grouped.writable {tree : Bracketed} (h : tree.Grouped registry)
    (spelled : ∀ token ∈ tree.tokens, ∃ kind slice, Spells registry kind slice token)
    {offsets : List Nat} (binary : ∀ node ∈ (tree.expr offsets).nodes, node.isTernary = false)
    (finite : ∀ node ∈ (tree.expr offsets).nodes, node.literal? ≠ some infinity) :
    (tree.expr offsets).Writable registry := by
  -- Parentheses of the text are dropped, so the offsets of the parts vary with the tree.
  induction h generalizing offsets with
  | constant value =>
    obtain ⟨kind, slice, spells⟩ := spelled _ List.mem_cons_self
    refine .constant (spells.number_chars ?_)
    rintro rfl
    exact finite _ List.mem_cons_self rfl
  | var name =>
    obtain ⟨kind, slice, spells⟩ := spelled _ List.mem_cons_self
    exact .var spells.name_chars
  | unary resolved grouped tight ih =>
    simp only [tokens, expr, Expr.nodes, List.forall_mem_cons] at spelled binary finite
    obtain ⟨⟨kind, slice, spells⟩, spelled⟩ := spelled
    exact .unary spells.operator_chars resolved (ih spelled binary.2 finite.2)
  | binary resolved _ _ fitsLeft fitsRight ihl ihr =>
    simp only [tokens, expr, Expr.nodes, List.forall_mem_cons, List.forall_mem_append]
      at spelled binary finite
    obtain ⟨spelledLeft, ⟨kind, slice, spells⟩, spelledRight⟩ := spelled
    exact .binary spells.operator_chars resolved (ihl spelledLeft binary.2.1 finite.2.1)
      (ihr spelledRight binary.2.2 finite.2.2)
  | ternary => simpa [Expr.isTernary] using binary _ List.mem_cons_self
  | @call name operator bounds args resolved bounded admitted _ ih =>
    have hname : ∃ kind slice, Spells registry kind slice (.name name) :=
      spelled _ (by cases args <;> simp [tokens])
    obtain ⟨kind, slice, spells⟩ := hname
    simp only [expr, Expr.nodes, List.forall_mem_cons] at binary finite
    have resolved : registry.function? (Symbol.normalize name) = some operator :=
      (Registry.resolve?_normalize name .function).trans resolved
    refine .call spells.normalize_chars (Symbol.normalize_normalize name) resolved bounded ?_ ?_
    · rw [length_exprAll]
      exact ArgBounds.admits_iff.2 admitted
    · intro arg member
      obtain ⟨other, hother, others, rfl⟩ := exists_of_mem_exprAll member
      exact ih other hother (fun token h => spelled token (mem_tokens_call name hother h))
        (fun node h => binary.2 node (Expr.mem_nodesAll member h))
        (fun node h => finite.2 node (Expr.mem_nodesAll member h))
  | group _ ih =>
    simp only [tokens, List.forall_mem_cons, List.forall_mem_append] at spelled
    exact ih spelled.2.1 binary finite

end Bracketed

/-! ## What is written is lexed -/

namespace Spells

variable {registry : Registry σ} {kind : Lettering} {slice rest : List Char} {token : Token}
  {symbol : String}

/-- Punctuation ends before everything else that is written. -/
theorem shuns_isPunctuationChar (h : Spells registry kind slice token)
    (apart : kind ≠ .punctuation) (rest : List Char) :
    Shuns Symbol.isPunctuationChar (slice ++ rest) :=
  h.shuns rest Symbol.isPunctuationChar_of_isWordPart (by simp [Symbol.isPunctuationChar])
    fun hkind => absurd hkind apart

theorem word_or_punctuation (h : Spells registry kind slice (.operator symbol)) :
    kind = .word ∧ Symbol.isWordChars slice = true ∨
      kind = .punctuation ∧ Symbol.isPunctuation symbol = true := by
  cases h with
  | operator word registered => exact .inl ⟨rfl, word⟩
  | punctuation registered notWord => exact .inr ⟨rfl, registered.isPunctuation notWord⟩

/-- A symbol needs a space behind it if it is a word. -/
theorem needsSpace_or (h : Spells registry kind symbol.toList (.operator symbol)) :
    kind = .word ∧ Expr.needsSpace symbol = true ∨
      kind = .punctuation ∧ Expr.needsSpace symbol = false := by
  rcases h.word_or_punctuation with ⟨rfl, word⟩ | ⟨rfl, punctuation⟩
  · refine .inl ⟨rfl, ?_⟩
    rw [Expr.needsSpace, List.all_eq_true]
    exact Symbol.isWordPart_of_mem word
  · refine .inr ⟨rfl, ?_⟩
    obtain ⟨c, chars, hchars⟩ := List.exists_cons_of_ne_nil h.ne_nil
    simp only [Symbol.isPunctuation, hchars, List.all_cons, Bool.and_eq_true] at punctuation
    have hc : Symbol.isWordPart c = false := Bool.eq_false_iff.2 fun part => by
      simp [Symbol.isPunctuationChar_of_isWordPart part] at punctuation
    simp [Expr.needsSpace, hchars, hc]

/-- A prefix operator stands before its operand, with a space between words. -/
theorem lexes_before {tokens : List Token}
    (h : Spells registry kind symbol.toList (.operator symbol))
    (apart : Shuns Symbol.isPunctuationChar rest) (others : Lexes registry rest tokens) :
    Lexes registry
      (symbol.toList ++ ((if Expr.needsSpace symbol then [' '] else []) ++ rest))
      (.operator symbol :: tokens) := by
  rcases h.needsSpace_or with ⟨rfl, space⟩ | ⟨rfl, close⟩
  · rw [if_pos space]
    exact others.space.cons h (.cons (by decide))
  · rw [close]
    exact others.cons h apart

end Spells

namespace Expr

variable {registry : Registry σ}

/-- What is written does not begin with punctuation, so a symbol before it ends there. -/
theorem Writable.shuns_isPunctuationChar {expr : Expr} (h : expr.Writable registry)
    (rest : List Char) : Shuns Symbol.isPunctuationChar (expr.chars ++ rest) := by
  cases h with
  | constant spells => exact spells.shuns_isPunctuationChar (by simp) rest
  | var spells => exact spells.shuns_isPunctuationChar (by simp) rest
  | unary => exact .cons (by decide)
  | binary => exact .cons (by decide)
  | @call name args offset operator bounds spells =>
    cases args <;> simp only [chars, List.append_assoc] <;>
      exact spells.shuns_isPunctuationChar (by simp) _

/-- Before what ends a slice, the rendering is lexed as the tokens of the tree that it writes. -/
def LexesThrough (registry : Registry σ) (expr : Expr) : Prop :=
  ∀ ⦃rest : List Char⦄ ⦃tokens : List Token⦄, Delimited rest → Lexes registry rest tokens →
    Lexes registry (expr.chars ++ rest) (expr.bracketed.tokens ++ tokens)

/-- Further arguments are lexed as their tokens, each behind its comma. -/
theorem lexes_charsRest {args : List Expr} (through : ∀ arg ∈ args, arg.LexesThrough registry)
    {rest : List Char} {tokens : List Token} (ends : Delimited rest)
    (others : Lexes registry rest tokens) :
    Lexes registry (charsRest args ++ rest)
      (Bracketed.tokensRest (bracketedAll args) ++ tokens) := by
  induction args with
  | nil => exact others
  | cons arg args ih =>
    have hrest := ih fun other member => through other (List.mem_cons_of_mem _ member)
    have hends : Delimited (charsRest args ++ rest) := by
      cases args with
      | nil => exact ends
      | cons => exact .cons (by decide) _
    have hfirst := through arg List.mem_cons_self hends hrest
    simpa [charsRest, bracketedAll, Bracketed.tokensRest] using hfirst.space.comma

/-- What is written is lexed as its tokens, whatever delimited text follows. -/
theorem Writable.lexesThrough {expr : Expr} (h : expr.Writable registry) :
    expr.LexesThrough registry := by
  induction h with
  | constant spells => exact fun rest tokens ends others => others.cons spells (ends.shuns _)
  | var spells => exact fun rest tokens ends others => others.cons spells (ends.shuns _)
  | unary spells resolved inner ih =>
    intro rest tokens ends others
    have hoperand := ih (.cons (by decide) rest) others.rightParen
    have hsymbol := spells.lexes_before (inner.shuns_isPunctuationChar _) hoperand
    simpa [chars, bracketed, Bracketed.tokens] using hsymbol.leftParen
  | @binary symbol left right offset kind operator spells resolved first second ihl ihr =>
    intro rest tokens ends others
    have hright := ihr (.cons (by decide) rest) others.rightParen
    have hdelimited : Delimited (' ' :: (right.chars ++ ')' :: rest)) := .cons (by decide) _
    have hsymbol := hright.space.cons spells (hdelimited.shuns _)
    have hleft := ihl (.cons (by decide) _) hsymbol.space
    simpa [chars, bracketed, Bracketed.tokens] using hleft.leftParen
  | @call name args offset operator bounds spells normal resolved bounded admitted all ih =>
    intro rest tokens ends others
    -- A name with a parenthesis behind it is lexed as any other name.
    have hname {text : List Char} {tokens : List Token} (h : Lexes registry text tokens) :
        Lexes registry (name.toList ++ '(' :: text) (.name name :: .leftParen :: tokens) :=
      h.leftParen.cons spells (.cons (by decide))
    cases args with
    | nil => simpa [chars, bracketed, bracketedAll, Bracketed.tokens] using hname others.rightParen
    | cons arg args =>
      obtain ⟨hfirst, hothers⟩ := List.forall_mem_cons.1 ih
      have hrest := lexes_charsRest hothers (.cons (by decide) rest) others.rightParen
      have hends : Delimited (charsRest args ++ ')' :: rest) := by
        cases args <;> exact .cons (by decide) _
      simpa [chars, bracketed, bracketedAll, Bracketed.tokens] using hname (hfirst hends hrest)

/-- The rendering is lexed as the tokens of the tree that it writes. -/
theorem Writable.lexes {expr : Expr} (h : expr.Writable registry) :
    Lexes registry expr.render.toList expr.bracketed.tokens := by
  simpa [render] using h.lexesThrough .nil .nil

/-! ## The tokens are read -/

theorem length_bracketedAll (args : List Expr) : (bracketedAll args).length = args.length := by
  rw [bracketedAll_eq_map, List.length_map]

/-- In all its parentheses an expression is read as one operand. -/
theorem Writable.readsThrough {grammar : Grammar σ} {expr : Expr}
    (h : expr.Writable grammar.registry) : grammar.ReadsThrough expr.bracketed := by
  induction h with
  | constant spells => exact Grammar.readsThrough_constant _
  | var spells => exact Grammar.readsThrough_var _
  | @unary symbol operand offset kind operator spells resolved inner ih =>
    exact Grammar.readsThrough_group
      (Grammar.readsThrough_unary resolved operand.isJoined_bracketed ih)
  | @binary symbol left right offset kind operator spells resolved first second ihl ihr =>
    have fits (expr : Expr) : ∀ joint, expr.bracketed.joint? grammar.registry ≠ some joint := by
      simp [Bracketed.joint?_of_tight expr.isJoined_bracketed]
    exact Grammar.readsThrough_group (Grammar.readsThrough_binary resolved
      (fun joint h => absurd h (fits left joint)) (fun joint h => absurd h (fits right joint))
      ihl ihr)
  | @call name args offset operator bounds spells normal resolved bounded admitted all ih =>
    refine Grammar.readsThrough_call resolved bounded ?_ ?_
    · rw [length_bracketedAll]
      exact admitted
    · rw [bracketedAll_eq_map]
      exact List.forall_mem_map.2 ih

theorem withoutOffsetsAll_exprAll {args : List Expr}
    (ih : ∀ arg ∈ args, ∀ offsets,
      (arg.bracketed.expr offsets).withoutOffsets = arg.withoutOffsets) (offsets : List Nat) :
    withoutOffsetsAll (Bracketed.exprAll (bracketedAll args) offsets) =
      withoutOffsetsAll args := by
  induction args generalizing offsets with
  | nil => rfl
  | cons arg args iht =>
    rw [bracketedAll, Bracketed.exprAll, withoutOffsetsAll, withoutOffsetsAll,
      ih arg List.mem_cons_self, iht fun other member => ih other (List.mem_cons_of_mem _ member)]

/-- Without its parentheses, the tree that a rendering writes is the expression. -/
theorem Writable.withoutOffsets_expr {expr : Expr} (h : expr.Writable registry)
    (offsets : List Nat) :
    (expr.bracketed.expr offsets).withoutOffsets = expr.withoutOffsets := by
  induction h generalizing offsets with
  | constant spells => rfl
  | var spells => rfl
  | unary spells resolved inner ih =>
    simp only [bracketed, Bracketed.expr, withoutOffsets, ih]
  | binary spells resolved first second ihl ihr =>
    simp only [bracketed, Bracketed.expr, withoutOffsets, ihl, ihr]
  | call spells normal resolved bounded admitted all ih =>
    simp only [bracketed, Bracketed.expr, withoutOffsets, normal, withoutOffsetsAll_exprAll ih]

/-! ## Reading back -/

/-- **The rendering is read back**: of a text that is read as an expression without ternary
operators and infinite numbers, the rendering of the expression is read as the same expression
up to offsets, if the text may nest twice as deep as the expression is high. The limit is a
number of 64 bits. -/
theorem parse_render (registry : Registry σ) (limit maxDepth : Nat) (text : String) (expr : Expr)
    (h : Grammar.parse ⟨registry, limit⟩ text = .ok expr)
    (binary : ∀ node ∈ expr.nodes, node.isTernary = false)
    (finite : ∀ node ∈ expr.nodes, node.literal? ≠ some infinity)
    (counted : maxDepth ≤ 0xFFFFFFFFFFFFFFFF) (deep : 2 * expr.height ≤ maxDepth) :
    ∃ again, Grammar.parse ⟨registry, maxDepth⟩ expr.render = .ok again ∧
      again.withoutOffsets = expr.withoutOffsets := by
  have spelled := Lexicon.exists_spells registry text
  obtain ⟨-, tree, subtree, operand, rfl⟩ := Grammar.read_sound Lexicon.token_ne_finish h
  have htokens : (registry.lexicon.tokens text).tokens.map Spanned.token = tree.tokens :=
    operand.reads.tokens
  rw [operand.reads.expr] at binary finite deep ⊢
  rw [htokens] at spelled
  have writable : Writable registry _ := operand.grouped.writable spelled binary finite
  generalize tree.expr _ = expr at writable deep ⊢
  let grammar : Grammar σ := Dialect.grammar ⟨registry, maxDepth⟩
  have through : grammar.ReadsThrough expr.bracketed := writable.readsThrough
  have hlevels : expr.bracketed.levels ≤ grammar.maxDepth :=
    expr.levels_bracketed_le.trans deep
  have hheight : expr.bracketed.height ≤ grammar.maxHeight := by
    simp only [grammar, Dialect.grammar, height_bracketed]
    omega
  obtain ⟨⟨stop, hending⟩, htokens⟩ := writable.lexes.tokens_eq
  exact ⟨_, Grammar.read_of_readsThrough through hending htokens hlevels hheight,
    writable.withoutOffsets_expr _⟩

/-- A prefix operator that is a word and one that is not, a literal with a zero at its end and a
function in lower case. -/
theorem parse_render_mixed :
    ∃ expr again,
      Grammar.parse ⟨(Registry.builtin : Registry Generator), 9⟩ "not a - 2.50 * max(b, -1)" =
        .ok expr ∧
      expr.render = "((NOT a) - (2.5 * MAX(b, (-1))))" ∧
      Grammar.parse ⟨(Registry.builtin : Registry Generator), 10⟩ expr.render = .ok again ∧
      again.withoutOffsets = expr.withoutOffsets := by
  have checked : (Grammar.parse ⟨(Registry.builtin : Registry Generator), 9⟩
      "not a - 2.50 * max(b, -1)").toOption.any (fun expr =>
        decide (∀ node ∈ expr.nodes, node.isTernary = false ∧ node.literal? ≠ some infinity) &&
          decide (2 * expr.height ≤ 10) &&
          expr.render == "((NOT a) - (2.5 * MAX(b, (-1))))") = true := by
    decide +kernel
  cases hparse : Grammar.parse ⟨(Registry.builtin : Registry Generator), 9⟩
      "not a - 2.50 * max(b, -1)" with
  | error e => simp [hparse, Except.toOption] at checked
  | ok expr =>
    simp only [hparse, Except.toOption, Option.any_some, Bool.and_eq_true, decide_eq_true_eq,
      beq_iff_eq] at checked
    obtain ⟨⟨plain, deep⟩, hrender⟩ := checked
    obtain ⟨again, hagain, same⟩ := parse_render _ 9 10 _ expr hparse
      (fun node member => (plain node member).1) (fun node member => (plain node member).2)
      (by decide) deep
    exact ⟨expr, again, rfl, hrender, hagain, same⟩

end Expr

end Formulary
