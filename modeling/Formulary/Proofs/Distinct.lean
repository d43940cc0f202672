import Formulary.Proofs.Outline

/-!
# Formulary.Proofs.Distinct

Which expressions have the same rendering.

A rendering does not tell everything of an expression. It has no offsets, an infinite literal looks
like the variable `inf`, and where a prefix operator stands right before a ternary one, the
rendering does not show which part of the punctuation is whose. `Expr.written` forgets this much and
nothing else: what is left is the same for two expressions that were read exactly if their
renderings are (`Expr.render_eq_iff`).
-/

namespace Formulary

variable {σ : Type}

namespace Expr

open Fragment (letters)

/-! ## What a rendering tells -/

/-- No space is written between a prefix operator and the ternary operator behind it, and so the
symbols cannot be told apart. -/
def melts : Expr → Bool
  | unary symbol (ternary inner ..) _ => !needsSpace symbol && !needsSpace inner
  | _ => false

/-- A prefix operator before its operand. The symbol of a ternary operator is moved into the prefix
operator if it cannot be told apart. -/
def prefixed (symbol : String) : Expr → Expr
  | ternary inner condition ifTrue ifFalse offset =>
    if needsSpace symbol || needsSpace inner then
      unary symbol (ternary inner condition ifTrue ifFalse offset) 0
    else unary (symbol ++ inner) (ternary "" condition ifTrue ifFalse offset) 0
  | operand => unary symbol operand 0

mutual

/-- The expression as far as its rendering tells. -/
def written : Expr → Expr
  | constant value => if value = infinity then var "inf" else constant value
  | var name => var name
  | unary symbol operand _ => prefixed symbol operand.written
  | binary symbol left right _ => binary symbol left.written right.written 0
  | ternary symbol condition ifTrue ifFalse _ =>
    ternary symbol condition.written ifTrue.written ifFalse.written 0
  | call name args _ => call name (writtenAll args) 0

/-- The expressions as far as their renderings tell. -/
def writtenAll : List Expr → List Expr
  | [] => []
  | arg :: args => arg.written :: writtenAll args

end

theorem chars_prefixed (symbol : String) (operand : Expr) :
    (prefixed symbol operand).chars =
      '(' :: symbol.toList ++ (if needsSpace symbol then [' '] else []) ++ operand.chars ++
        [')'] := by
  cases operand with
  | ternary inner condition ifTrue ifFalse offset =>
    by_cases spaced : (needsSpace symbol || needsSpace inner) = true
    · rw [prefixed, if_pos spaced, chars]
    · have close : needsSpace symbol = false := by
        simp only [Bool.or_eq_true, not_or, Bool.not_eq_true] at spaced
        exact spaced.1
      have both : needsSpace (symbol ++ inner) = false := by
        rw [needsSpace, String.toList_append, List.all_append]
        rw [needsSpace] at close
        rw [close, Bool.false_and]
      rw [prefixed, if_neg spaced]
      simp [chars, close, both]
  | _ => rfl

theorem charsRest_writtenAll {args : List Expr} (ih : ∀ arg ∈ args, arg.written.chars = arg.chars) :
    charsRest (writtenAll args) = charsRest args := by
  induction args with
  | nil => rfl
  | cons arg args iht =>
    rw [List.forall_mem_cons] at ih
    rw [writtenAll, charsRest, charsRest, ih.1, iht ih.2]

/-- What a rendering does not tell is forgotten without changing the rendering. -/
theorem chars_written (expr : Expr) : expr.written.chars = expr.chars := by
  induction expr with
  | constant value =>
    rw [written]
    split
    · next infinite =>
      rw [infinite, chars, chars, floatChars_infinity]
      rfl
    · rfl
  | var name => rfl
  | unary symbol operand offset ih => rw [written, chars_prefixed, ih, chars]
  | binary symbol left right offset ihl ihr => rw [written, chars, chars, ihl, ihr]
  | ternary symbol condition ifTrue ifFalse offset ihc iht ihf =>
    rw [written, chars, chars, ihc, iht, ihf]
  | call name args offset ih =>
    cases args with
    | nil => rfl
    | cons arg args =>
      rw [List.forall_mem_cons] at ih
      rw [written, writtenAll, chars, chars, ih.1, charsRest_writtenAll ih.2]

/-- The node is what it looks like. -/
def IsPlain (node : Expr) : Prop := node.literal? ≠ some infinity ∧ node.melts = false

instance (node : Expr) : Decidable node.IsPlain := instDecidableAnd

/-- A prefix operation that does not melt is written as it is. -/
theorem prefixed_of_melts {symbol : String} {operand : Expr} {offset : Nat}
    (h : (unary symbol operand offset).melts = false) :
    prefixed symbol operand.withoutOffsets = unary symbol operand.withoutOffsets 0 := by
  cases operand with
  | ternary inner condition ifTrue ifFalse offset =>
    simp only [melts, Bool.and_eq_false_iff, Bool.not_eq_false'] at h
    exact if_pos (by simpa using h)
  | _ => rfl

/-- Of an expression whose nodes are what they look like, the rendering tells all but offsets. -/
theorem written_eq_withoutOffsets {expr : Expr} (plain : ∀ node ∈ expr.nodes, node.IsPlain) :
    expr.written = expr.withoutOffsets := by
  have all {args : List Expr} (ih : ∀ arg ∈ args, (∀ node ∈ arg.nodes, node.IsPlain) →
      arg.written = arg.withoutOffsets) (plain : ∀ node ∈ nodesAll args, node.IsPlain) :
      writtenAll args = withoutOffsetsAll args := by
    induction args with
    | nil => rfl
    | cons arg args iht =>
      rw [nodesAll, List.forall_mem_append] at plain
      rw [List.forall_mem_cons] at ih
      rw [writtenAll, withoutOffsetsAll, ih.1 plain.1, iht ih.2 plain.2]
  induction expr with
  | constant value =>
    rw [nodes, List.forall_mem_singleton] at plain
    exact if_neg fun infinite => plain.1 (congrArg some infinite)
  | var name => rfl
  | unary symbol operand offset ih =>
    rw [nodes, List.forall_mem_cons] at plain
    rw [written, ih plain.2, prefixed_of_melts plain.1.2, withoutOffsets]
  | binary symbol left right offset ihl ihr =>
    rw [nodes, List.forall_mem_cons, List.forall_mem_append] at plain
    rw [written, withoutOffsets, ihl plain.2.1, ihr plain.2.2]
  | ternary symbol condition ifTrue ifFalse offset ihc iht ihf =>
    rw [nodes, List.forall_mem_cons, List.forall_mem_append, List.forall_mem_append] at plain
    rw [written, withoutOffsets, ihc plain.2.1.1, iht plain.2.1.2, ihf plain.2.2]
  | call name args offset ih =>
    rw [nodes, List.forall_mem_cons] at plain
    rw [written, withoutOffsets, all ih plain.2]

/-! ## What an outline tells -/

variable {registry : Registry σ} {expr other operand operand' left left' right right' : Expr}
  {symbol symbol' : String} {kind kind' : Lettering}

/-- Whatever has the same head and the same in parentheses is the same expression as far as
renderings tell. -/
def Told (registry : Registry σ) (expr : Expr) : Prop :=
  ∀ ⦃other : Expr⦄, other.Legible registry → expr.head = other.head →
    expr.inside? = other.inside? → expr.written = other.written

/-- Equal outlines of legible expressions write the same expression. -/
theorem Told.written_eq (told : expr.Told registry) (legible : other.Legible registry)
    (same : expr.outline = other.outline) : expr.written = other.written :=
  told legible (outline_inj.1 same).1 (outline_inj.1 same).2

/-- Commas tell operands apart. -/
theorem writtenAll_eq_of_outlineAll_eq {args others : List Expr}
    (told : ∀ arg ∈ args, arg.Told registry) (legible : ∀ arg ∈ args, arg.Legible registry)
    (legible' : ∀ arg ∈ others, arg.Legible registry)
    (same : outlineAll args = outlineAll others) : writtenAll args = writtenAll others := by
  have ends (args : List Expr) : (outlineRest args).takeWhile (Fragment.isNot ',') = [] := by
    cases args <;> rfl
  induction args generalizing others with
  | nil =>
    cases others with
    | nil => rfl
    | cons other others =>
      rw [List.forall_mem_cons] at legible'
      exact absurd (List.append_eq_nil_iff.1 same.symm).1 legible'.1.outline_ne_nil
  | cons arg args ih =>
    rw [List.forall_mem_cons] at told legible
    cases others with
    | nil => exact absurd (List.append_eq_nil_iff.1 same).1 legible.1.outline_ne_nil
    | cons other others =>
      rw [List.forall_mem_cons] at legible'
      obtain ⟨hfirst, hrest⟩ := append_inj_of_runs
        (legible.1.isNot_of_mem_outline (by simp [separators]))
        (legible'.1.isNot_of_mem_outline (by simp [separators])) (ends args) (ends others) same
      have hothers : outlineAll args = outlineAll others := by
        cases args <;> cases others <;> simp_all [outlineRest, outlineAll]
      rw [writtenAll, writtenAll, told.1.written_eq legible'.1 hfirst,
        ih told.2 legible.2 legible'.2 hothers]

/-- Spaces tell the symbol from the operands. -/
theorem binary_parts_eq (spells : Spells registry kind symbol.toList (.operator symbol))
    (spells' : Spells registry kind' symbol'.toList (.operator symbol'))
    (hl : left.Legible registry) (hl' : left'.Legible registry)
    (same : left.outline ++ .letter ' ' :: (letters symbol.toList ++ .letter ' ' :: right.outline) =
      left'.outline ++ .letter ' ' ::
        (letters symbol'.toList ++ .letter ' ' :: right'.outline)) :
    left.outline = left'.outline ∧ symbol = symbol' ∧ right.outline = right'.outline := by
  have space : ' ' ∈ separators := by simp [separators]
  have plain {kind : Lettering} {symbol : String}
      (spells : Spells registry kind symbol.toList (.operator symbol)) :
      ∀ fragment ∈ letters symbol.toList, fragment.isNot ' ' = true :=
    Fragment.isNot_of_mem_letters fun member =>
      spells.not_mem_separators (by simp) _ member space
  obtain ⟨hleft, hrest⟩ := append_inj_of_runs (hl.isNot_of_mem_outline space)
    (hl'.isNot_of_mem_outline space) rfl rfl same
  obtain ⟨hsymbol, hright⟩ := append_inj_of_runs (plain spells) (plain spells') rfl rfl
    (List.cons.inj hrest).2
  exact ⟨hleft, String.toList_inj.1 (Fragment.letters_inj.1 hsymbol), (List.cons.inj hright).2⟩

/-- The number of spaces outside the groups. -/
def spaces (fragments : List Fragment) : Nat := fragments.countP fun fragment => !fragment.isNot ' '

theorem spaces_append (front rest : List Fragment) :
    spaces (front ++ rest) = spaces front + spaces rest := List.countP_append

theorem spaces_eq_zero {fragments : List Fragment}
    (plain : ∀ fragment ∈ fragments, fragment.isNot ' ' = true) : spaces fragments = 0 := by
  rw [spaces, List.countP_eq_zero]
  simpa using plain

/-- There are fewer spaces around a prefix operator than around a binary one. -/
theorem unary_ne_binary (spells : Spells registry kind symbol.toList (.operator symbol))
    (h : operand.Legible registry) :
    letters (symbol.toList ++ if needsSpace symbol then [' '] else []) ++ operand.outline ≠
      left.outline ++ .letter ' ' ::
        (letters symbol'.toList ++ .letter ' ' :: right.outline) := by
  have space : ' ' ∈ separators := by simp [separators]
  intro same
  have count := congrArg spaces same
  have hsymbol : spaces (letters symbol.toList) = 0 :=
    spaces_eq_zero (Fragment.isNot_of_mem_letters fun member =>
      spells.not_mem_separators (by simp) _ member space)
  have hoperand : spaces operand.outline = 0 := spaces_eq_zero (h.isNot_of_mem_outline space)
  have hspace : spaces (letters (if needsSpace symbol then [' '] else [])) ≤ 1 := by
    split <;> decide
  have hcons (rest : List Fragment) : spaces (.letter ' ' :: rest) = spaces rest + 1 :=
    List.countP_cons_of_pos rfl
  simp only [Fragment.letters_append, spaces_append, hcons, hsymbol, hoperand] at count
  omega

/-- An operator in parentheses has no comma among its operands. -/
theorem inside?_ne_outlineAll (h : expr.Legible registry) (headless : expr.head = [])
    (first second : Expr) (rest : List Expr) :
    expr.inside? ≠ some (outlineAll (first :: second :: rest)) := by
  have separates : ',' ∈ separators := by simp [separators]
  have notInSymbol {kind : Lettering} {symbol : String}
      (spells : Spells registry kind symbol.toList (.operator symbol)) :
      .letter ',' ∉ letters symbol.toList := by
    intro member
    obtain ⟨c, member, hc⟩ := List.mem_map.1 member
    cases hc
    exact spells.not_mem_separators (by simp) _ member separates
  have notInOperand {expr : Expr} (h : expr.Legible registry) : .letter ',' ∉ expr.outline :=
    fun member => absurd (h.isNot_of_mem_outline separates _ member) (by simp [Fragment.isNot])
  intro same
  have comma : .letter ',' ∈ outlineAll (first :: second :: rest) := by
    simp [outlineAll, outlineRest]
  cases h with
  | constant => cases same
  | infinite => cases same
  | var => cases same
  | unary spells inner =>
    rw [← Option.some.inj same, Fragment.letters_append, List.mem_append, List.mem_append] at comma
    rcases comma with (inSymbol | space) | inOperand
    · exact notInSymbol spells inSymbol
    · split at space <;> simp [letters] at space
    · exact notInOperand inner inOperand
  | binary spells first second =>
    rw [← Option.some.inj same] at comma
    simp only [List.mem_append, List.mem_cons, Fragment.letter.injEq, Char.reduceEq,
      false_or] at comma
    rcases comma with inLeft | inSymbol | inRight
    · exact notInOperand first inLeft
    · exact notInSymbol spells inSymbol
    · exact notInOperand second inRight
  | ternary spells => exact absurd headless spells.ne_nil
  | call spells => exact absurd headless spells.ne_nil

/-- A ternary operator may begin with punctuation, and nothing else does. -/
theorem ternary_or_shuns (h : expr.Legible registry) :
    (∃ symbol condition ifTrue ifFalse offset,
      expr = .ternary symbol condition ifTrue ifFalse offset ∧
      Spells registry .punctuation symbol.toList (.operator symbol)) ∨
    Shuns Symbol.isPunctuationChar expr.head := by
  have shuns {kind : Lettering} {slice : List Char} {token : Token}
      (spells : Spells registry kind slice token) (apart : kind ≠ .punctuation) :
      Shuns Symbol.isPunctuationChar slice := by
    simpa using spells.shuns_isPunctuationChar apart []
  cases h with
  | constant spells => exact .inr (shuns spells (by simp))
  | infinite =>
    rw [head, floatChars_infinity]
    exact .inr (.cons (by decide))
  | var spells => exact .inr (shuns spells (by simp))
  | unary => exact .inr .nil
  | binary => exact .inr .nil
  | @ternary _ _ _ _ _ kind spells =>
    by_cases punctuation : kind = .punctuation
    · exact .inl ⟨_, _, _, _, _, rfl, punctuation ▸ spells⟩
    · exact .inr (shuns spells punctuation)
  | call spells => exact .inr (shuns spells (by simp))

/-- A symbol of punctuation needs no space behind it. -/
theorem needsSpace_of_punctuation
    (spells : Spells registry .punctuation symbol.toList (.operator symbol)) :
    needsSpace symbol = false := by
  rcases spells.needsSpace_or with ⟨h, -⟩ | ⟨-, close⟩
  · contradiction
  · exact close

/-- The punctuation of a prefix operator does not end with one operator and go on with a ternary
one, where it ends before an operand that is no such operator. -/
theorem inside?_ne_of_punctuation {front : List Char}
    (spells : Spells registry .punctuation symbol.toList (.operator symbol))
    (h : operand.Legible registry) (shuns : Shuns Symbol.isPunctuationChar operand.head)
    (punctuation : ∀ c ∈ front, Symbol.isPunctuationChar c = true)
    (heads : front = symbol.toList ++ operand.head) (first second : Expr) (rest : List Expr) :
    operand.inside? ≠ some (outlineAll (first :: second :: rest)) := by
  have headless := (append_inj_of_runs punctuation (spells.goesOn_of_mem (.inr rfl)) rfl
    shuns.takeWhile ((List.append_nil front).trans heads)).2
  exact inside?_ne_outlineAll h headless.symm first second rest

/-- The punctuation before an operand tells the prefix operator, or the prefix operator together
with the ternary one behind it. -/
theorem prefixed_eq_of_punctuation
    (spells : Spells registry .punctuation symbol.toList (.operator symbol))
    (spells' : Spells registry .punctuation symbol'.toList (.operator symbol'))
    (h : operand.Legible registry) (h' : operand'.Legible registry)
    (told : operand.Told registry)
    (heads : symbol.toList ++ operand.head = symbol'.toList ++ operand'.head)
    (insides : operand.inside? = operand'.inside?) :
    prefixed symbol operand.written = prefixed symbol' operand'.written := by
  rcases ternary_or_shuns h with ⟨inner, c, t, f, offset, rfl, hinner⟩ | shuns <;>
    rcases ternary_or_shuns h' with ⟨inner', c', t', f', offset', rfl, hinner'⟩ | shuns'
  · -- The operand of the one, written with the symbol of the other, is the operand of the other.
    have legible : (ternary inner c' t' f' offset').Legible registry := by
      cases h' with
      | ternary _ first second third => exact .ternary hinner first second third
    have same := told legible rfl insides
    rw [written, written, ternary.injEq] at same
    obtain ⟨-, hc, ht, hf, -⟩ := same
    have hsymbol : symbol ++ inner = symbol' ++ inner' := by
      rw [← String.toList_inj, String.toList_append, String.toList_append]
      exact heads
    have melted {symbol inner : String}
        (spells : Spells registry .punctuation symbol.toList (.operator symbol))
        (spells' : Spells registry .punctuation inner.toList (.operator inner)) (c t f : Expr) :
        prefixed symbol (ternary inner c t f 0) = unary (symbol ++ inner) (ternary "" c t f 0) 0 :=
      if_neg (by simp [needsSpace_of_punctuation spells, needsSpace_of_punctuation spells'])
    rw [written, written, melted spells hinner, melted spells' hinner', hsymbol, hc, ht, hf]
  · have all : ∀ c ∈ symbol.toList ++ inner.toList, Symbol.isPunctuationChar c = true :=
      List.forall_mem_append.2 ⟨spells.goesOn_of_mem (.inr rfl), hinner.goesOn_of_mem (.inr rfl)⟩
    exact absurd insides.symm (inside?_ne_of_punctuation spells' h' shuns' all heads c t [f])
  · have all : ∀ c ∈ symbol'.toList ++ inner'.toList, Symbol.isPunctuationChar c = true :=
      List.forall_mem_append.2
        ⟨spells'.goesOn_of_mem (.inr rfl), hinner'.goesOn_of_mem (.inr rfl)⟩
    exact absurd insides (inside?_ne_of_punctuation spells h shuns all heads.symm c' t' [f'])
  · obtain ⟨hsymbol, hhead⟩ := append_inj_of_runs (spells.goesOn_of_mem (.inr rfl))
      (spells'.goesOn_of_mem (.inr rfl)) shuns.takeWhile shuns'.takeWhile heads
    rw [String.toList_inj.1 hsymbol, told h' hhead insides]

/-- A word and punctuation do not begin with the same character. -/
theorem word_append_ne (spells : Spells registry .word symbol.toList (.operator symbol))
    (spells' : Spells registry .punctuation symbol'.toList (.operator symbol'))
    (rest rest' : List Char) : symbol.toList ++ rest ≠ symbol'.toList ++ rest' := by
  intro same
  have word := spells.at?_eq (List.prefix_append _ rest)
  have punctuation := spells'.at?_eq (List.prefix_append _ rest')
  rw [same, punctuation] at word
  cases word

/-- What stands in the parentheses tells the prefix operator and its operand, as far as renderings
tell. -/
theorem prefixed_eq_of_inside_eq (spells : Spells registry kind symbol.toList (.operator symbol))
    (spells' : Spells registry kind' symbol'.toList (.operator symbol'))
    (h : operand.Legible registry) (h' : operand'.Legible registry) (told : operand.Told registry)
    (same : letters (symbol.toList ++ if needsSpace symbol then [' '] else []) ++ operand.outline =
      letters (symbol'.toList ++ if needsSpace symbol' then [' '] else []) ++ operand'.outline) :
    prefixed symbol operand.written = prefixed symbol' operand'.written := by
  rw [outline_eq operand, outline_eq operand', ← List.append_assoc, ← List.append_assoc,
    ← Fragment.letters_append, ← Fragment.letters_append, Fragment.letters_append_inj,
    List.append_assoc, List.append_assoc] at same
  obtain ⟨heads, insides⟩ := same
  rcases spells.needsSpace_or with ⟨rfl, space⟩ | ⟨rfl, close⟩ <;>
    rcases spells'.needsSpace_or with ⟨rfl, space'⟩ | ⟨rfl, close'⟩
  · rw [if_pos space, if_pos space'] at heads
    obtain ⟨hsymbol, hhead⟩ := append_inj_of_runs (spells.goesOn_of_mem (.inl rfl))
      (spells'.goesOn_of_mem (.inl rfl)) rfl rfl heads
    rw [String.toList_inj.1 hsymbol, told h' (List.cons.inj hhead).2 insides]
  · exact absurd heads (word_append_ne spells spells' _ _)
  · exact absurd heads.symm (word_append_ne spells' spells _ _)
  · rw [close, close'] at heads
    exact prefixed_eq_of_punctuation spells spells' h h' told heads insides

/-- No number that has digits is written as infinity is. -/
theorem ne_infinity_of_spells {slice : List Char} {token : Token}
    (spells : Spells registry .number slice token) : slice ≠ floatChars .plain infinity := by
  rintro rfl
  have number := spells.at?_eq List.prefix_rfl
  rw [floatChars_infinity] at number
  exact absurd number (by decide)

/-- The name that infinity is written as. -/
theorem eq_inf_of_toList_eq {name : String} (h : name.toList = floatChars .plain infinity) :
    name = "inf" := by
  rw [floatChars_infinity] at h
  exact String.toList_inj.1 h

/-- What is legible can be told from everything else that is. -/
theorem told_of_legible (h : expr.Legible registry) : expr.Told registry := by
  -- Leaves have no parentheses and operators have nothing before theirs, so of two different
  -- constructors most pairs are told apart at once.
  induction h with
  | constant spells =>
    intro other legible hhead hinside
    cases legible with
    | constant spells' => rw [Token.number.inj (spells.unique spells' hhead)]
    | infinite => exact absurd hhead (ne_infinity_of_spells spells)
    | var spells' => cases spells.unique spells' hhead
    | _ => cases hinside
  | infinite =>
    intro other legible hhead hinside
    cases legible with
    | constant spells' => exact absurd hhead.symm (ne_infinity_of_spells spells')
    | infinite => rfl
    | var spells' => rw [eq_inf_of_toList_eq hhead.symm, written, if_pos rfl, written]
    | _ => cases hinside
  | var spells =>
    intro other legible hhead hinside
    cases legible with
    | constant spells' => cases spells.unique spells' hhead
    | infinite => rw [eq_inf_of_toList_eq hhead, written, written, if_pos rfl]
    | var spells' => rw [String.toList_inj.1 hhead]
    | _ => cases hinside
  | @unary symbol operand offset kind spells h ih =>
    intro other legible hhead hinside
    cases legible with
    | unary spells' h' =>
      exact prefixed_eq_of_inside_eq spells spells' h h' ih (Option.some.inj hinside)
    | binary spells' first second =>
      exact absurd (Option.some.inj hinside) (unary_ne_binary spells h)
    | ternary spells' => exact absurd hhead.symm spells'.ne_nil
    | call spells' => exact absurd hhead.symm spells'.ne_nil
    | _ => cases hinside
  | @binary symbol left right offset kind spells hl hr ihl ihr =>
    intro other legible hhead hinside
    cases legible with
    | unary spells' h' => exact absurd (Option.some.inj hinside).symm (unary_ne_binary spells' h')
    | binary spells' hl' hr' =>
      obtain ⟨hleft, rfl, hright⟩ := binary_parts_eq spells spells' hl hl' (Option.some.inj hinside)
      rw [written, written, ihl.written_eq hl' hleft, ihr.written_eq hr' hright]
    | ternary spells' => exact absurd hhead.symm spells'.ne_nil
    | call spells' => exact absurd hhead.symm spells'.ne_nil
    | _ => cases hinside
  | @ternary symbol condition ifTrue ifFalse offset kind spells hc ht hf ihc iht ihf =>
    intro other legible hhead hinside
    cases legible with
    | unary => exact absurd hhead spells.ne_nil
    | binary => exact absurd hhead spells.ne_nil
    | @ternary symbol' condition' ifTrue' ifFalse' _ _ spells' hc' ht' hf' =>
      have hall : writtenAll [condition, ifTrue, ifFalse] =
          writtenAll [condition', ifTrue', ifFalse'] :=
        writtenAll_eq_of_outlineAll_eq (by simpa using ⟨ihc, iht, ihf⟩)
          (by simpa using ⟨hc, ht, hf⟩) (by simpa using ⟨hc', ht', hf'⟩) (Option.some.inj hinside)
      simp only [writtenAll, List.cons.injEq, and_true] at hall
      rw [written, written, String.toList_inj.1 hhead, hall.1, hall.2.1, hall.2.2]
    | call spells' => cases spells.unique spells' hhead
    | _ => cases hinside
  | @call name args offset spells all ih =>
    intro other legible hhead hinside
    cases legible with
    | unary => exact absurd hhead spells.ne_nil
    | binary => exact absurd hhead spells.ne_nil
    | ternary spells' => cases spells.unique spells' hhead
    | call spells' all' =>
      rw [written, written, String.toList_inj.1 hhead,
        writtenAll_eq_of_outlineAll_eq ih all all' (Option.some.inj hinside)]
    | _ => cases hinside

/-! ## What a rendering identifies -/

/-- **The rendering tells one expression from another** up to offsets, infinite literals and symbols
that melt together: two texts that are read have the same rendering if and only if the expressions
are the same as far as renderings tell. If no node of the two is an infinite literal or a prefix
operator that melts into a ternary one, equal renderings are those of equal expressions. -/
theorem render_eq_iff (registry : Registry σ) (limit limit' : Nat) (text text' : String)
    (expr other : Expr) (h : Grammar.parse ⟨registry, limit⟩ text = .ok expr)
    (h' : Grammar.parse ⟨registry, limit'⟩ text' = .ok other) :
    (expr.render = other.render ↔ expr.written = other.written) ∧
    ((∀ node ∈ expr.nodes ++ other.nodes, node.IsPlain) → expr.render = other.render →
      expr.withoutOffsets = other.withoutOffsets) := by
  have legible := Grammar.legible_of_parse h
  have legible' := Grammar.legible_of_parse h'
  have tells (same : expr.render = other.render) : expr.written = other.written :=
    (told_of_legible legible).written_eq legible' (outline_eq_of_render_eq legible legible' same)
  refine ⟨⟨tells, fun same => ?_⟩, fun plain same => ?_⟩
  · rw [render, render, ← chars_written expr, same, chars_written other]
  · rw [List.forall_mem_append] at plain
    rw [← written_eq_withoutOffsets plain.1, ← written_eq_withoutOffsets plain.2, tells same]

/-- What is checked of an outcome holds of a value that it has. -/
theorem exists_of_any_toOption {ε α : Type} {outcome : Except ε α} {p : α → Bool}
    (h : outcome.toOption.any p = true) : ∃ value, outcome = .ok value ∧ p value = true := by
  cases outcome with
  | error e => contradiction
  | ok value => exact ⟨value, rfl, h⟩

/-- Parentheses that are not needed and zeros at the end of a number leave no trace. -/
theorem render_eq_iff_conditional :
    ∃ expr other,
      Grammar.parse ⟨(Registry.builtin : Registry Generator), 9⟩ "a ? -b : 2.50" = .ok expr ∧
      Grammar.parse ⟨(Registry.builtin : Registry Generator), 12⟩ "(a)?-b:(2.5)" = .ok other ∧
      expr.render = other.render ∧ expr.written = other.written ∧
      expr.withoutOffsets = other.withoutOffsets := by
  obtain ⟨expr, hexpr, checked⟩ := @exists_of_any_toOption _ _
    (Grammar.parse ⟨(Registry.builtin : Registry Generator), 9⟩ "a ? -b : 2.50")
    (fun expr => expr.render == "?(a, (-b), 2.5)" && decide (∀ node ∈ expr.nodes, node.IsPlain))
    (by decide +kernel)
  obtain ⟨other, hother, checked'⟩ := @exists_of_any_toOption _ _
    (Grammar.parse ⟨(Registry.builtin : Registry Generator), 12⟩ "(a)?-b:(2.5)")
    (fun expr => expr.render == "?(a, (-b), 2.5)" && decide (∀ node ∈ expr.nodes, node.IsPlain))
    (by decide +kernel)
  simp only [Bool.and_eq_true, beq_iff_eq, decide_eq_true_eq] at checked checked'
  have same : expr.render = other.render := checked.1.trans checked'.1.symm
  obtain ⟨tells, identifies⟩ := render_eq_iff _ 9 12 _ _ expr other hexpr hother
  exact ⟨expr, other, hexpr, hother, same, tells.1 same,
    identifies (List.forall_mem_append.2 ⟨checked.2, checked'.2⟩) same⟩

/-- The two texts are read as expressions that differ in more than offsets and have the same
rendering. -/
def Ambiguous (registry : Registry σ) (text text' : String) : Prop :=
  ∃ expr other, Grammar.parse ⟨registry, 9⟩ text = .ok expr ∧
    Grammar.parse ⟨registry, 9⟩ text' = .ok other ∧
    expr.render = other.render ∧ expr.withoutOffsets ≠ other.withoutOffsets

/-- Two texts with one rendering are ambiguous if a check tells their expressions apart. -/
theorem ambiguous_of_any {registry : Registry σ} {text text' : String} (rendering : String)
    (p : Expr → Bool)
    (holds : (Grammar.parse ⟨registry, 9⟩ text).toOption.any
      (fun expr => expr.render == rendering && p expr.withoutOffsets) = true)
    (fails : (Grammar.parse ⟨registry, 9⟩ text').toOption.any
      (fun expr => expr.render == rendering && !p expr.withoutOffsets) = true) :
    Ambiguous registry text text' := by
  obtain ⟨expr, hexpr, checked⟩ := exists_of_any_toOption holds
  obtain ⟨other, hother, checked'⟩ := exists_of_any_toOption fails
  simp only [Bool.and_eq_true, beq_iff_eq, Bool.not_eq_true'] at checked checked'
  refine ⟨expr, other, hexpr, hother, checked.1.trans checked'.1.symm, fun same => ?_⟩
  rw [same, checked'.2] at checked
  exact Bool.false_ne_true checked.2

/-- Prefix and ternary operators that are written with the same two characters. -/
def exclaiming : Registry Unit where
  operators := [.unary "!" 9 .ok, .unary "!?" 9 .ok, .ternary "?!" ":" 1 fun _ => .ifTrue,
    .ternary "!" ":" 1 fun _ => .ifTrue]
  valid := by decide +kernel
  distinct := by decide +kernel

/-- An infinite literal looks like a variable, and punctuation before a ternary operator can be
divided in two ways. -/
theorem render_ambiguous :
    Ambiguous (Registry.builtin : Registry Generator) "1e999" "inf" ∧
    Ambiguous exclaiming "! (a ?! b : c)" "!? (a ! b : c)" :=
  ⟨ambiguous_of_any "inf" (fun expr => expr.literal?.isSome) (by decide +kernel)
      (by decide +kernel),
    ambiguous_of_any "(!?!(a, b, c))" (fun expr => expr matches unary "!" _ _)
      (by decide +kernel) (by decide +kernel)⟩

end Expr

end Formulary
