import Formulary.Proofs.Lexing.Spaced
import Formulary.Proofs.Rendering

/-!
# Formulary.Proofs.Outline

The rendering of an expression as nested groups.

A text whose parentheses match is a list of characters and groups, a group being such a list again
(`Fragment`). The text determines the list (`Fragment.Nested.unique`). For a rendering the list is
known from the expression (`Expr.outline`), if no name, symbol or number in it has a parenthesis,
and so much is true of every expression that was read (`Expr.Legible`). Equal renderings therefore
have equal outlines, in which separators of different groups are not mixed up any more.
-/

namespace Formulary

variable {σ : Type}

/-- Where a run of elements ends is seen from what follows it. -/
theorem append_inj_of_runs {α : Type} {p : α → Bool} {run run' rest rest' : List α}
    (all : ∀ x ∈ run, p x = true) (all' : ∀ x ∈ run', p x = true) (ends : rest.takeWhile p = [])
    (ends' : rest'.takeWhile p = []) (same : run ++ rest = run' ++ rest') :
    run = run' ∧ rest = rest' := by
  have front := congrArg (List.takeWhile p) same
  rw [List.takeWhile_append_of_pos all, List.takeWhile_append_of_pos all', ends, ends',
    List.append_nil, List.append_nil] at front
  subst front
  exact ⟨rfl, List.append_cancel_left same⟩

/-! ## Nested groups -/

/-- A character, or a group in parentheses. -/
inductive Fragment
  | letter (c : Char)
  | group (inside : List Fragment)

namespace Fragment

mutual

def chars : Fragment → List Char
  | letter c => [c]
  | group inside => '(' :: (charsAll inside ++ [')'])

def charsAll : List Fragment → List Char
  | [] => []
  | fragment :: rest => fragment.chars ++ charsAll rest

end

/-- The characters of a text without parentheses. -/
def letters (text : List Char) : List Fragment := text.map letter

def isLetter : Fragment → Bool
  | letter _ => true
  | group _ => false

/-- The fragment is not this character. -/
def isNot (mark : Char) : Fragment → Bool
  | letter c => c != mark
  | group _ => true

theorem charsAll_append (front rest : List Fragment) :
    charsAll (front ++ rest) = charsAll front ++ charsAll rest := by
  induction front with
  | nil => rfl
  | cons fragment front ih => rw [List.cons_append, charsAll, charsAll, ih, List.append_assoc]

theorem charsAll_letters (text : List Char) : charsAll (letters text) = text := by
  induction text with
  | nil => rfl
  | cons c text ih =>
    show c :: charsAll (letters text) = c :: text
    rw [ih]

theorem letters_append (front rest : List Char) :
    letters (front ++ rest) = letters front ++ letters rest := List.map_append

/-- Letters are told apart as their texts are. -/
theorem letters_inj {text other : List Char} : letters text = letters other ↔ text = other :=
  (List.map_injective_iff.2 fun _ _ h => letter.inj h).eq_iff

/-- Letters end where the first group begins. -/
theorem letters_append_inj {text text' : List Char} {inside inside' : Option (List Fragment)} :
    letters text ++ (inside.map group).toList = letters text' ++ (inside'.map group).toList ↔
      text = text' ∧ inside = inside' := by
  constructor
  · intro same
    have all (text : List Char) : ∀ fragment ∈ letters text, isLetter fragment = true := by
      simp [letters, isLetter]
    have ends (inside : Option (List Fragment)) :
        (inside.map group).toList.takeWhile isLetter = [] := by
      cases inside <;> rfl
    obtain ⟨htext, hinside⟩ := append_inj_of_runs (all _) (all _) (ends _) (ends _) same
    refine ⟨letters_inj.1 htext, ?_⟩
    cases inside <;> cases inside' <;> simp_all
  · rintro ⟨rfl, rfl⟩
    rfl

/-- The letters of a text without the mark are not the mark. -/
theorem isNot_of_mem_letters {mark : Char} {text : List Char} (plain : mark ∉ text) :
    ∀ fragment ∈ letters text, fragment.isNot mark = true := by
  refine List.forall_mem_map.2 fun c member => ?_
  have other : c ≠ mark := fun same => plain (same ▸ member)
  simpa [isNot] using other

/-- All parentheses are those of groups. -/
inductive Nested : List Fragment → Prop
  | nil : Nested []
  | letter {c : Char} {rest : List Fragment} (notOpening : c ≠ '(') (notClosing : c ≠ ')')
      (others : Nested rest) : Nested (.letter c :: rest)
  | group {inside rest : List Fragment} (inner : Nested inside) (others : Nested rest) :
      Nested (.group inside :: rest)

namespace Nested

variable {front rest fragments others : List Fragment}

theorem append (h : Nested front) (hrest : Nested rest) : Nested (front ++ rest) := by
  induction h with
  | nil => exact hrest
  | letter notOpening notClosing _ ih => exact .letter notOpening notClosing ih
  | group inner _ _ ih => exact .group inner ih

theorem letters {text : List Char} (plain : ∀ c ∈ text, c ≠ '(' ∧ c ≠ ')') :
    Nested (letters text) := by
  induction text with
  | nil => exact .nil
  | cons c text ih =>
    rw [List.forall_mem_cons] at plain
    exact .letter plain.1.1 plain.1.2 (ih plain.2)

/-- **Parentheses match in one way**: the fragments of a text are determined, and so is what stands
behind them if that is nothing or begins with a closing parenthesis. -/
theorem unique (h : Nested fragments) (h' : Nested others) {behind behind' : List Char}
    (ends : Shuns (· != ')') behind) (ends' : Shuns (· != ')') behind')
    (same : charsAll fragments ++ behind = charsAll others ++ behind') :
    fragments = others ∧ behind = behind' := by
  have closing {c : Char} {text text' : List Char} (ends : Shuns (· != ')') text)
      (same : text = c :: text') : c = ')' := by
    simpa using ends c text' same
  induction h generalizing others behind behind' with
  | nil =>
    cases h' with
    | nil => exact ⟨rfl, same⟩
    | letter notOpening notClosing _ => exact absurd (closing ends same) notClosing
    | group inner _ => exact absurd (closing ends same) (by decide)
  | letter notOpening notClosing _ ih =>
    cases h' with
    | nil => exact absurd (closing ends' same.symm) notClosing
    | letter notOpening' notClosing' others =>
      injection same with hc same
      obtain ⟨rfl, hbehind⟩ := ih others ends ends' same
      exact ⟨by rw [hc], hbehind⟩
    | group inner _ => exact absurd (List.cons.inj same).1 notOpening
  | group inner _ ihInner ih =>
    cases h' with
    | nil => exact absurd (closing ends' same.symm) (by decide)
    | letter notOpening notClosing _ => exact absurd (List.cons.inj same).1.symm notOpening
    | group inner' others =>
      simp only [charsAll, chars, List.cons_append, List.append_assoc, List.nil_append,
        List.cons.injEq, true_and] at same
      obtain ⟨rfl, hrest⟩ := ihInner inner' (.cons (by decide)) (.cons (by decide)) same
      obtain ⟨rfl, hbehind⟩ := ih others ends ends' (List.cons.inj hrest).2
      exact ⟨rfl, hbehind⟩

end Nested

end Fragment

namespace Expr

open Fragment (letters)

/-! ## Outlines -/

mutual

/-- The rendering, with parentheses as groups. -/
def outline : Expr → List Fragment
  | constant value => letters (floatChars .plain value)
  | var name => letters name.toList
  | unary symbol operand _ =>
    [.group (letters (symbol.toList ++ if needsSpace symbol then [' '] else []) ++
      operand.outline)]
  | binary symbol left right _ =>
    [.group (left.outline ++ .letter ' ' ::
      (letters symbol.toList ++ .letter ' ' :: right.outline))]
  | ternary symbol condition ifTrue ifFalse _ =>
    letters symbol.toList ++ [.group (condition.outline ++ .letter ',' :: .letter ' ' ::
      (ifTrue.outline ++ .letter ',' :: .letter ' ' :: (ifFalse.outline ++ [])))]
  | call name args _ => letters name.toList ++ [.group (outlineAll args)]

/-- The operands in parentheses, with commas between them. -/
def outlineAll : List Expr → List Fragment
  | [] => []
  | arg :: args => arg.outline ++ outlineRest args

/-- The operands after the first, each with the comma before it. -/
def outlineRest : List Expr → List Fragment
  | [] => []
  | arg :: args => .letter ',' :: .letter ' ' :: (arg.outline ++ outlineRest args)

end

/-- The outlines of further arguments have the characters that are written for them. -/
theorem charsAll_outlineRest {args : List Expr}
    (ih : ∀ arg ∈ args, Fragment.charsAll arg.outline = arg.chars) :
    Fragment.charsAll (outlineRest args) = charsRest args := by
  induction args with
  | nil => rfl
  | cons arg args iht =>
    rw [List.forall_mem_cons] at ih
    simp [outlineRest, charsRest, Fragment.charsAll, Fragment.chars, Fragment.charsAll_append,
      ih.1, iht ih.2]

/-- The outline is an outline of the rendering. -/
theorem charsAll_outline (expr : Expr) : Fragment.charsAll expr.outline = expr.chars := by
  induction expr with
  | constant value => exact Fragment.charsAll_letters _
  | var name => exact Fragment.charsAll_letters _
  | unary symbol operand offset ih =>
    simp [outline, chars, Fragment.charsAll, Fragment.chars, Fragment.charsAll_append,
      Fragment.charsAll_letters, ih]
  | binary symbol left right offset ihl ihr =>
    simp [outline, chars, Fragment.charsAll, Fragment.chars, Fragment.charsAll_append,
      Fragment.charsAll_letters, ihl, ihr]
  | ternary symbol condition ifTrue ifFalse offset ihc iht ihf =>
    simp [outline, chars, Fragment.charsAll, Fragment.chars, Fragment.charsAll_append,
      Fragment.charsAll_letters, ihc, iht, ihf]
  | call name args offset ih =>
    cases args with
    | nil =>
      simp [outline, outlineAll, chars, Fragment.charsAll, Fragment.chars,
        Fragment.charsAll_append, Fragment.charsAll_letters]
    | cons arg args =>
      rw [List.forall_mem_cons] at ih
      simp [outline, outlineAll, chars, Fragment.charsAll, Fragment.chars,
        Fragment.charsAll_append, Fragment.charsAll_letters, ih.1, charsAll_outlineRest ih.2]

end Expr

/-! ## What names, symbols and numbers are written with -/

/-- The characters that a rendering puts between names, symbols and numbers. -/
def separators : List Char := [' ', '(', ')', ',']

/-- A slice spells one token at most, of whatever kind. -/
theorem Spells.unique {registry : Registry σ} {kind kind' : Lettering} {slice slice' : List Char}
    {token token' : Token} (h : Spells registry kind slice token)
    (h' : Spells registry kind' slice' token') (same : slice = slice') : token = token' := by
  subst same
  have hkind : kind = kind' :=
    Option.some.inj ((h.at?_eq List.prefix_rfl).symm.trans (h'.at?_eq List.prefix_rfl))
  exact h.token_eq (hkind ▸ h')

/-- Every character of a word or of punctuation would go on with it. -/
theorem Spells.goesOn_of_mem {registry : Registry σ} {kind : Lettering} {slice : List Char}
    {token : Token} (h : Spells registry kind slice token)
    (uniform : kind = .word ∨ kind = .punctuation) : ∀ c ∈ slice, kind.goesOn c = true := by
  cases h with
  | operator word registered => exact Symbol.isWordPart_of_mem word
  | name word free => exact Symbol.isWordPart_of_mem word
  | punctuation registered notWord =>
    have all := registered.isPunctuation notWord
    simp only [Symbol.isPunctuation, Bool.and_eq_true, List.all_eq_true] at all
    exact all.2
  | _ => simp at uniform

/-- No name, symbol or number has a separator in it. -/
theorem Spells.not_mem_separators {registry : Registry σ} {kind : Lettering} {slice : List Char}
    {token : Token} (h : Spells registry kind slice token)
    (apart : token ≠ .leftParen ∧ token ≠ .rightParen ∧ token ≠ .comma) :
    ∀ c ∈ slice, c ∉ separators := by
  have ofKind (kind : Lettering) {c : Char} (hc : kind.goesOn c = true) : c ∉ separators :=
    fun member => Bool.eq_false_iff.1 (kind.goesOn_of_mem member) hc
  have goesOn := h.goesOn_of_mem
  cases h with
  | leftParen => simp at apart
  | rightParen => simp at apart
  | comma => simp at apart
  | number formed reads =>
    have digit (c : Char) (h : c.isDigit = true) : c ∉ separators :=
      ofKind .word (Symbol.isWordPart_of_isDigit h)
    exact formed.forall_mem digit (by simp [separators])
  | operator => exact fun c member => ofKind .word (goesOn (.inl rfl) c member)
  | name => exact fun c member => ofKind .word (goesOn (.inl rfl) c member)
  | punctuation => exact fun c member => ofKind .punctuation (goesOn (.inr rfl) c member)

namespace Expr

/-- What is written for each leaf, name and symbol spells it. An infinite number has no digits to
be written with. -/
inductive Legible (registry : Registry σ) : Expr → Prop
  | constant {value : Float}
      (spells : Spells registry .number (floatChars .plain value) (.number value)) :
      Legible registry (.constant value)
  | infinite : Legible registry (.constant infinity)
  | var {name : String} (spells : Spells registry .word name.toList (.name name)) :
      Legible registry (.var name)
  | unary {symbol : String} {operand : Expr} {offset : Nat} {kind : Lettering}
      (spells : Spells registry kind symbol.toList (.operator symbol))
      (inner : Legible registry operand) : Legible registry (.unary symbol operand offset)
  | binary {symbol : String} {left right : Expr} {offset : Nat} {kind : Lettering}
      (spells : Spells registry kind symbol.toList (.operator symbol))
      (first : Legible registry left) (second : Legible registry right) :
      Legible registry (.binary symbol left right offset)
  | ternary {symbol : String} {condition ifTrue ifFalse : Expr} {offset : Nat} {kind : Lettering}
      (spells : Spells registry kind symbol.toList (.operator symbol))
      (first : Legible registry condition) (second : Legible registry ifTrue)
      (third : Legible registry ifFalse) :
      Legible registry (.ternary symbol condition ifTrue ifFalse offset)
  | call {name : String} {args : List Expr} {offset : Nat}
      (spells : Spells registry .word name.toList (.name name))
      (all : ∀ arg ∈ args, Legible registry arg) : Legible registry (.call name args offset)

end Expr

/-- A tree of spelled tokens is legible. -/
theorem Bracketed.legible {registry : Registry σ} (tree : Bracketed)
    (spelled : ∀ token ∈ tree.tokens, ∃ kind slice, Spells registry kind slice token)
    (offsets : List Nat) : (tree.expr offsets).Legible registry := by
  induction tree generalizing offsets with
  | constant value =>
    obtain ⟨kind, slice, spells⟩ := spelled _ List.mem_cons_self
    by_cases infinite : value = infinity
    · exact infinite ▸ .infinite
    · exact .constant (spells.number_chars infinite)
  | var name =>
    obtain ⟨kind, slice, spells⟩ := spelled _ List.mem_cons_self
    exact .var spells.name_chars
  | unary symbol operand ih =>
    simp only [tokens, List.forall_mem_cons] at spelled
    obtain ⟨⟨kind, slice, spells⟩, spelled⟩ := spelled
    exact .unary spells.operator_chars (ih spelled _)
  | binary symbol left right ihl ihr =>
    simp only [tokens, List.forall_mem_cons, List.forall_mem_append] at spelled
    obtain ⟨spelledLeft, ⟨kind, slice, spells⟩, spelledRight⟩ := spelled
    exact .binary spells.operator_chars (ihl spelledLeft _) (ihr spelledRight _)
  | ternary symbol separator condition ifTrue ifFalse ihc iht ihf =>
    simp only [tokens, List.forall_mem_cons, List.forall_mem_append] at spelled
    obtain ⟨spelledCondition, ⟨kind, slice, spells⟩, spelledTrue, -, spelledFalse⟩ := spelled
    exact .ternary spells.operator_chars (ihc spelledCondition _) (iht spelledTrue _)
      (ihf spelledFalse _)
  | call name args ih =>
    obtain ⟨kind, slice, spells⟩ : ∃ kind slice, Spells registry kind slice (.name name) :=
      spelled _ (by cases args <;> simp [tokens])
    refine .call spells.normalize_chars fun arg member => ?_
    obtain ⟨other, hother, others, rfl⟩ := exists_of_mem_exprAll member
    exact ih other hother (fun token h => spelled token (mem_tokens_call name hother h)) _
  | group inner ih =>
    simp only [tokens, List.forall_mem_cons, List.forall_mem_append] at spelled
    exact ih spelled.2.1 _

/-- What is read is legible. -/
theorem Grammar.legible_of_parse {registry : Registry σ} {limit : Nat} {text : String}
    {expr : Expr} (h : parse ⟨registry, limit⟩ text = .ok expr) : expr.Legible registry := by
  have spelled := Lexicon.exists_spells registry text
  obtain ⟨-, tree, subtree, operand, rfl⟩ := read_sound Lexicon.token_ne_finish h
  have htokens : (registry.lexicon.tokens text).tokens.map Spanned.token = tree.tokens :=
    operand.reads.tokens
  rw [htokens] at spelled
  rw [operand.reads.expr]
  exact tree.legible spelled _

namespace Expr

open Fragment (letters)

variable {registry : Registry σ} {expr other : Expr}

/-! ## Heads and groups -/

/-- What is written before the first parenthesis. -/
def head : Expr → List Char
  | constant value => floatChars .plain value
  | var name => name.toList
  | unary .. | binary .. => []
  | ternary symbol .. => symbol.toList
  | call name .. => name.toList

/-- What is written in the parentheses, if there are any. -/
def inside? : Expr → Option (List Fragment)
  | constant _ | var _ => none
  | unary symbol operand _ =>
    some (letters (symbol.toList ++ if needsSpace symbol then [' '] else []) ++ operand.outline)
  | binary symbol left right _ =>
    some (left.outline ++ .letter ' ' :: (letters symbol.toList ++ .letter ' ' :: right.outline))
  | ternary _ condition ifTrue ifFalse _ => some (outlineAll [condition, ifTrue, ifFalse])
  | call _ args _ => some (outlineAll args)

/-- An outline is the head of the expression and then what is inside its parentheses, if it has
any. -/
theorem outline_eq (expr : Expr) :
    expr.outline = letters expr.head ++ (expr.inside?.map .group).toList := by
  cases expr with
  | constant value => exact (List.append_nil _).symm
  | var name => exact (List.append_nil _).symm
  | _ => rfl

/-- No separator is in the head of a legible expression. -/
theorem Legible.head_plain (h : expr.Legible registry) : ∀ c ∈ expr.head, c ∉ separators := by
  cases h with
  | constant spells => exact spells.not_mem_separators (by simp)
  | infinite =>
    rw [head, floatChars_infinity]
    simp [separators]
  | var spells => exact spells.not_mem_separators (by simp)
  | unary => exact fun _ member => absurd member List.not_mem_nil
  | binary => exact fun _ member => absurd member List.not_mem_nil
  | ternary spells => exact spells.not_mem_separators (by simp)
  | call spells => exact spells.not_mem_separators (by simp)

/-- Equal outlines are seen from the heads and from the insides of the parentheses. -/
theorem outline_inj : expr.outline = other.outline ↔
    expr.head = other.head ∧ expr.inside? = other.inside? := by
  rw [outline_eq, outline_eq, Fragment.letters_append_inj]

/-- No separator stands outside the parentheses. -/
theorem Legible.isNot_of_mem_outline (h : expr.Legible registry) {mark : Char}
    (separates : mark ∈ separators) : ∀ fragment ∈ expr.outline, fragment.isNot mark = true := by
  rw [outline_eq, List.forall_mem_append]
  refine ⟨Fragment.isNot_of_mem_letters fun member => h.head_plain mark member separates, ?_⟩
  cases expr.inside? <;> simp [Fragment.isNot]

/-- A legible expression has something written. -/
theorem Legible.outline_ne_nil (h : expr.Legible registry) : expr.outline ≠ [] := by
  cases h with
  | constant spells => exact fun nil => spells.ne_nil (List.map_eq_nil_iff.1 nil)
  | infinite => simp [outline, letters, floatChars_infinity]
  | var spells => exact fun nil => spells.ne_nil (List.map_eq_nil_iff.1 nil)
  | _ => simp [outline]

/-! ## The outline is an outline -/

theorem nested_outlineRest {args : List Expr} (ih : ∀ arg ∈ args, Fragment.Nested arg.outline) :
    Fragment.Nested (outlineRest args) := by
  induction args with
  | nil => exact .nil
  | cons arg args iht =>
    rw [List.forall_mem_cons] at ih
    exact .letter (by decide) (by decide)
      (.letter (by decide) (by decide) (ih.1.append (iht ih.2)))

theorem nested_outlineAll {args : List Expr} (ih : ∀ arg ∈ args, Fragment.Nested arg.outline) :
    Fragment.Nested (outlineAll args) := by
  cases args with
  | nil => exact .nil
  | cons arg args =>
    rw [List.forall_mem_cons] at ih
    exact ih.1.append (nested_outlineRest ih.2)

/-- Outside the groups an outline has no parentheses. -/
theorem Legible.nested (h : expr.Legible registry) : Fragment.Nested expr.outline := by
  have plain {text : List Char} (h : ∀ c ∈ text, c ∉ separators) :
      Fragment.Nested (letters text) := by
    refine .letters fun c member => ⟨?_, ?_⟩ <;> rintro rfl <;>
      exact h _ member (by simp [separators])
  have symbol {kind : Lettering} {slice : List Char} {symbol : String}
      (spells : Spells registry kind slice (.operator symbol)) : Fragment.Nested (letters slice) :=
    plain (spells.not_mem_separators (by simp))
  induction h with
  | constant spells => exact plain (spells.not_mem_separators (by simp))
  | infinite => exact plain (@infinite σ registry).head_plain
  | var spells => exact plain (spells.not_mem_separators (by simp))
  | unary spells inner ih =>
    refine .group (.append ?_ ih) .nil
    rw [Fragment.letters_append]
    refine (symbol spells).append ?_
    split
    · exact .letter (by decide) (by decide) .nil
    · exact .nil
  | binary spells first second ihl ihr =>
    exact .group (ihl.append (.letter (by decide) (by decide) ((symbol spells).append
      (.letter (by decide) (by decide) ihr)))) .nil
  | @ternary _ condition ifTrue ifFalse _ _ spells _ _ _ ihc iht ihf =>
    have operands : ∀ arg ∈ [condition, ifTrue, ifFalse], Fragment.Nested arg.outline := by
      simpa using ⟨ihc, iht, ihf⟩
    exact (symbol spells).append (.group (nested_outlineAll operands) .nil)
  | call spells all ih =>
    exact (plain (spells.not_mem_separators (by simp))).append (.group (nested_outlineAll ih) .nil)

/-- **Equal renderings have equal outlines**. -/
theorem outline_eq_of_render_eq (h : expr.Legible registry) (h' : other.Legible registry)
    (same : expr.render = other.render) : expr.outline = other.outline := by
  have hchars : expr.chars = other.chars := String.ofList_injective same
  rw [← charsAll_outline, ← charsAll_outline] at hchars
  exact (h.nested.unique h'.nested .nil .nil (by rw [hchars])).1

end Expr

end Formulary
