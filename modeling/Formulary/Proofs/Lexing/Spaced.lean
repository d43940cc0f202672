import Formulary.Proofs.Lexing.Written

/-!
# Formulary.Proofs.Lexing.Spaced

White space between tokens keeps them apart, whatever symbols there are.

No slice of a token has white space in it (`Spells.solid`), and white space goes on with
no slice (`Lettering.goesOn_of_isBlank`). So if white space stands before every token but
the first, which `Registry.Spaced` says of a text, each slice remains the longest one when
there are more symbols. The tokens are the same, unless a name of the text is one of the
symbols (`tokens_eq_of_spaced`).
-/

namespace Formulary

variable {σ : Type}

/-! ## Texts with white space between the tokens -/

namespace Text

/-- The character before a byte offset. -/
def before? (text : List Char) (offset : Nat) : Option Char :=
  (column? text offset).bind fun column => (text.take column).getLast?

theorem before?_append (front rest : List Char) :
    before? (front ++ rest) (byteLength front) = front.getLast? := by
  rw [before?, column?_append, Option.bind_some, List.take_left]

end Text

/-- White space stands before every token but the first. -/
def Registry.Spaced (registry : Registry σ) (text : String) : Prop :=
  ∀ spanned ∈ (registry.lexicon.tokens text).tokens.tail,
    (Text.before? text.toList spanned.offset).any Text.isBlank = true

instance {registry : Registry σ} {text : String} : Decidable (registry.Spaced text) :=
  inferInstanceAs (Decidable (∀ _ ∈ _, _ = _))

/-! ## White space and slices -/

/-- What holds of digits and of the few other characters in numerals holds of all in one. -/
theorem Numeral.WellFormed.forall_mem {numeral : Numeral} (h : numeral.WellFormed)
    {p : Char → Prop} (digit : ∀ c, c.isDigit = true → p c)
    (other : ∀ c ∈ ['.', 'e', 'E', '+', '-'], p c) : ∀ c ∈ numeral.text, p c := by
  intro c member
  simp only [text, List.mem_append, or_assoc] at member
  rcases member with whole | fraction | exponent
  · exact digit c (h.whole c whole)
  · cases hf : numeral.fraction with
    | none => simp [hf] at fraction
    | some digits =>
      rw [hf, Option.map_some, Option.getD_some, List.mem_cons] at fraction
      rcases fraction with rfl | fraction
      · exact other _ (by decide)
      · exact digit c (h.fraction digits hf c fraction)
  · cases he : numeral.exponent with
    | none => simp [he] at exponent
    | some e =>
      obtain ⟨mark, sign, digits, -⟩ := h.exponent e he
      rw [he, Option.map_some, Option.getD_some, Exponent.text, List.mem_cons, List.mem_append,
        Option.mem_toList] at exponent
      rcases exponent with rfl | written | written
      · rcases mark with h | h <;> rw [h] <;> exact other _ (by decide)
      · rcases sign c written with rfl | rfl <;> exact other _ (by decide)
      · exact digit c (digits c written)

namespace Spells

variable {registry : Registry σ} {kind : Lettering} {slice : List Char} {token : Token}

/-- No token has white space in it. -/
theorem solid (h : Spells registry kind slice token) : ∀ c ∈ slice, Text.isBlank c = false := by
  have word (h : Symbol.isWordChars slice = true) : ∀ c ∈ slice, Text.isBlank c = false :=
    fun c member => Symbol.isBlank_of_isWordPart (Symbol.isWordPart_of_mem h c member)
  cases h with
  | leftParen => simp [Text.isBlank]
  | rightParen => simp [Text.isBlank]
  | comma => simp [Text.isBlank]
  | number formed reads =>
    exact formed.forall_mem
      (fun _ digit => Symbol.isBlank_of_isWordPart (Symbol.isWordPart_of_isDigit digit))
      (by simp [Text.isBlank])
  | operator isWord registered => exact word isWord
  | name isWord free => exact word isWord
  | punctuation registered notWord =>
    have all := registered.isPunctuation notWord
    simp only [Symbol.isPunctuation, Symbol.isPunctuationChar, Bool.and_eq_true, List.all_eq_true,
      Bool.not_eq_true'] at all
    exact fun c member => (all.2 c member).1.1

/-- A slice does not end with white space. -/
theorem getLast?_solid (h : Spells registry kind slice token) (front : List Char) :
    (front ++ slice).getLast?.any Text.isBlank = false := by
  obtain ⟨c, hc⟩ := Option.isSome_iff_exists.1 (List.getLast?_isSome.2 h.ne_nil)
  rw [List.getLast?_append, hc, Option.some_or, Option.any_some]
  exact h.solid c (List.mem_of_getLast? hc)

end Spells

/-- White space goes on with no slice. -/
theorem Lettering.goesOn_of_isBlank {c : Char} (h : Text.isBlank c = true) (kind : Lettering) :
    kind.goesOn c = false := by
  have solid : kind.goesOn c = true → Text.isBlank c = false := by
    cases kind with
    | number =>
      simp only [goesOn, Bool.or_eq_true, beq_iff_eq]
      rintro (((digit | rfl) | rfl) | rfl)
      · exact Symbol.isBlank_of_isWordPart (Symbol.isWordPart_of_isDigit digit)
      all_goals decide
    | word => exact Symbol.isBlank_of_isWordPart
    | punctuation =>
      simp only [goesOn, Symbol.isPunctuationChar, Bool.and_eq_true, Bool.not_eq_true']
      exact fun hc => hc.1.1
    | _ => exact fun hgoes => absurd hgoes Bool.false_ne_true
  refine Bool.eq_false_iff.2 fun hgoes => ?_
  rw [solid hgoes] at h
  contradiction

/-! ## The division of a spaced text -/

namespace Divided

variable {registry extended : Registry σ} {before text : List Char} {pieces : List Piece}
  {ending : Except LexError Nat} {stop : Nat}

/-- A text whose pieces all begin with white space, up to the end, begins with white space if
it is not empty. -/
theorem shuns_goesOn (h : Divided registry before text pieces (.ok stop))
    (spaced : ∀ piece ∈ pieces, piece.blank ≠ []) (kind : Lettering) : Shuns kind.goesOn text := by
  have white {blank : List Char} (white : IsBlank blank) (nonempty : blank ≠ [])
      (rest : List Char) : Shuns kind.goesOn (blank ++ rest) := by
    obtain ⟨c, others, rfl⟩ := List.exists_cons_of_ne_nil nonempty
    exact .cons (kind.goesOn_of_isBlank (white c List.mem_cons_self))
  cases h with
  | last ends =>
    cases ends with
    | finish blank =>
      intro c rest heq
      exact kind.goesOn_of_isBlank (blank c (heq ▸ List.mem_cons_self))
  | token blank longest others => exact white blank (spaced _ List.mem_cons_self) _

/-- White space divides a text: if it stands before every token but the first, the division is
the same with more symbols, unless one of them is a name of the text. -/
theorem extend (grow : ∀ {symbol}, registry.HasSymbol symbol → extended.HasSymbol symbol)
    (h : Divided registry before text pieces (.ok stop))
    (spaced : ∀ piece ∈ pieces.tail, piece.blank ≠ [])
    (free : ∀ piece ∈ pieces, ∀ name, piece.spanned.token = .name name →
      ¬ extended.HasSymbol (Symbol.upper name)) :
    Divided extended before text pieces (.ok stop) := by
  generalize hending : Except.ok stop = ending at h
  induction h with
  | last ends =>
    cases ends with
    | finish white => exact .last (.finish white)
    | stuck => contradiction
  | token white longest others ih =>
    subst hending
    rw [List.forall_mem_cons] at free
    have ends := others.shuns_goesOn spaced
    have spells := longest.spells.transfer (fun _ _ => grow) fun name token _ => free.1 name token
    exact .token white (spells.longest (ends _))
      (ih (fun piece member => spaced piece (List.mem_of_mem_tail member)) free.2 rfl)

/-- The character before a token is white space only if the piece has some. -/
theorem blank_ne_nil (h : Divided registry before text pieces ending)
    (spaced : ∀ piece ∈ pieces, (Text.before? (before ++ text) piece.spanned.offset).any
      Text.isBlank = true) (solid : before.getLast?.any Text.isBlank = false) :
    ∀ piece ∈ pieces, piece.blank ≠ [] := by
  induction h with
  | last ends => simp
  | @token before blank slice rest kind token pieces ending white longest others ih =>
    rw [List.forall_mem_cons] at spaced
    rw [← List.append_assoc before] at ih
    refine List.forall_mem_cons.2 ⟨?_, ih (by simpa using spaced.2) ?_⟩
    · rintro rfl
      have first := spaced.1
      rw [List.append_nil, List.nil_append, Text.before?_append, solid] at first
      contradiction
    · exact longest.spells.getLast?_solid _

/-- A piece that white space stands before has it as its own. -/
theorem blank_ne_nil_tail (h : Divided registry before text pieces ending)
    (spaced : ∀ piece ∈ pieces.tail, (Text.before? (before ++ text) piece.spanned.offset).any
      Text.isBlank = true) : ∀ piece ∈ pieces.tail, piece.blank ≠ [] := by
  cases h with
  | last ends => simp
  | @token _ blank slice rest _ _ _ _ white longest others =>
    refine others.blank_ne_nil (by simpa using spaced) ?_
    rw [← List.append_assoc]
    exact longest.spells.getLast?_solid _

end Divided

/-- **White space keeps tokens apart**: a text with white space between its tokens has the same
tokens with more symbols, unless one of them is a name of the text. -/
theorem tokens_eq_of_spaced {registry extended : Registry σ} {text : String}
    (grow : ∀ {symbol}, registry.HasSymbol symbol → extended.HasSymbol symbol)
    (lexes : (registry.lexicon.tokens text).ending.isOk = true) (spaced : registry.Spaced text)
    (free : ∀ spanned ∈ (registry.lexicon.tokens text).tokens, ∀ name,
      spanned.token = .name name → ¬ extended.HasSymbol (Symbol.upper name)) :
    extended.lexicon.tokens text = registry.lexicon.tokens text := by
  obtain ⟨pieces, ending, divided⟩ := exists_divided registry [] text.toList
  have hlexed : registry.lexicon.tokens text = ⟨pieces.map Piece.spanned, ending⟩ :=
    divided.tokensFrom_eq
  rw [Registry.Spaced, hlexed, ← List.map_tail, List.forall_mem_map] at spaced
  rw [hlexed, List.forall_mem_map] at free
  rw [hlexed] at lexes ⊢
  cases ending with
  | error e => contradiction
  | ok stop =>
    have blanks := divided.blank_ne_nil_tail spaced
    exact (divided.extend grow blanks free).tokensFrom_eq

end Formulary
