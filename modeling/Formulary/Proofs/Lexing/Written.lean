import Formulary.Proofs.Lexing.Division

/-!
# Formulary.Proofs.Lexing.Written

When tokens that are written one after the other are lexed as they were written.

What follows a slice must not go on with it, and what goes on with a slice depends on
its kind only (`Lettering.goesOn`). Then the slice is the longest one where it stands
(`Spells.longest`). `Lexes` says what tokens a text has, wherever it stands, and has
one rule for a token and one for a space.
-/

namespace Formulary

variable {σ : Type}

/-! ## What ends a slice -/

namespace Lettering

/-- The characters that would make a slice of this kind longer. -/
def goesOn : Lettering → Char → Bool
  | .number, c => c.isDigit || c == '.' || c == 'e' || c == 'E'
  | .word, c => Symbol.isWordPart c
  | .punctuation, c => Symbol.isPunctuationChar c
  | _, _ => false

/-- The characters that are written between tokens go on with none. -/
theorem goesOn_of_mem {c : Char} (member : c ∈ [' ', '(', ')', ',']) (kind : Lettering) :
    kind.goesOn c = false := by
  simp only [List.mem_cons, List.not_mem_nil, or_false] at member
  rcases member with rfl | rfl | rfl | rfl <;> cases kind <;> decide

end Lettering

/-- Nothing follows, or a character that goes on with no slice. -/
def Delimited (text : List Char) : Prop :=
  ∀ c rest, text = c :: rest → c ∈ [' ', '(', ')', ',']

theorem Delimited.nil : Delimited [] := by
  intro c rest h
  contradiction

theorem Delimited.cons {c : Char} (h : c ∈ [' ', '(', ')', ',']) (rest : List Char) :
    Delimited (c :: rest) := by
  rintro c rest ⟨⟩
  exact h

/-- No number, word or symbol goes on into what is delimited. -/
theorem Delimited.shuns {text : List Char} (h : Delimited text) (kind : Lettering) :
    Shuns kind.goesOn text :=
  fun c rest heq => kind.goesOn_of_mem (h c rest heq)

theorem Shuns.mono {p q : Char → Bool} {text : List Char} (h : Shuns p text)
    (imp : ∀ {c}, q c = true → p c = true) : Shuns q text := by
  intro c rest heq
  have hp := h c rest heq
  exact Bool.eq_false_iff.2 fun hq => by simp [imp hq] at hp

/-- Without its letter there is no exponent. -/
theorem Exponent.scan_of_shuns {text : List Char} (h : Shuns (fun c => c == 'e' || c == 'E') text) :
    scan text = (none, text) := by
  unfold scan
  split
  · next c rest =>
    have hc : ¬ (c = 'e' ∨ c = 'E') := by simpa using h c rest rfl
    rw [if_neg hc]
  · rfl

namespace Spells

variable {registry : Registry σ} {kind : Lettering} {slice rest : List Char} {token : Token}

/-- A slice of some characters, with something else behind it, holds every such slice that
begins where it begins. -/
theorem length_le_of_shuns {p : Char → Bool} {other : List Char} (ends : Shuns p rest)
    (all : ∀ c ∈ other, p c = true) (front : other <+: slice ++ rest) :
    other.length ≤ slice.length := by
  calc
    other.length ≤ ((slice ++ rest).takeWhile p).length := length_le_takeWhile all front
    _ ≤ slice.length := by
      rw [List.takeWhile_append, ends.takeWhile]
      split
      · simp
      · exact (List.takeWhile_prefix p).length_le

/-- **A slice that nothing goes on with is the longest one** where it stands. -/
theorem longest (h : Spells registry kind slice token) (ends : Shuns kind.goesOn rest) :
    Longest registry kind (slice ++ rest) slice token := by
  refine .of_kind h ⟨rest, rfl⟩ ?_
  intro other token' hother front
  cases h with
  | leftParen => cases hother; rfl
  | rightParen => cases hother; rfl
  | comma => cases hother; rfl
  | @number numeral value formed reads =>
    cases hother with
    | number formed' reads' =>
      have hscan : Numeral.scan (numeral.text ++ rest) = (numeral, rest) :=
        Numeral.scan_text_append formed (ends.mono (by simp +contextual [Lettering.goesOn]))
          (ends.mono (by simp +contextual [Lettering.goesOn]))
          (Exponent.scan_of_shuns (ends.mono (by simp +contextual [Lettering.goesOn, or_imp])))
      simpa [hscan] using Numeral.length_le_scan formed' front
  | operator =>
    cases hother with
    | operator word' => exact length_le_of_shuns ends (Symbol.isWordPart_of_mem word') front
    | name word' => exact length_le_of_shuns ends (Symbol.isWordPart_of_mem word') front
  | name =>
    cases hother with
    | operator word' => exact length_le_of_shuns ends (Symbol.isWordPart_of_mem word') front
    | name word' => exact length_le_of_shuns ends (Symbol.isWordPart_of_mem word') front
  | punctuation =>
    cases hother with
    | punctuation registered' notWord' =>
      have all := registered'.isPunctuation notWord'
      simp only [Symbol.isPunctuation, Bool.and_eq_true, List.all_eq_true] at all
      exact length_le_of_shuns ends all.2 front

end Spells

/-! ## The tokens of a text -/

/-- Wherever the text stands, up to its end these tokens are in it. -/
def Lexes (registry : Registry σ) (text : List Char) (tokens : List Token) : Prop :=
  ∀ before, ∃ pieces stop, Divided registry before text pieces (.ok stop) ∧
    pieces.map (·.spanned.token) = tokens

namespace Lexes

variable {registry : Registry σ} {kind : Lettering} {slice text rest : List Char}
  {token : Token} {tokens : List Token}

theorem nil : Lexes registry [] [] :=
  fun _ => ⟨[], _, .last (.finish isBlank_nil), rfl⟩

/-- A token stands before other tokens. -/
theorem cons (spells : Spells registry kind slice token) (ends : Shuns kind.goesOn rest)
    (others : Lexes registry rest tokens) : Lexes registry (slice ++ rest) (token :: tokens) := by
  intro before
  obtain ⟨pieces, stop, divided, htokens⟩ := others (before ++ ([] ++ slice))
  exact ⟨_, stop, .token isBlank_nil (spells.longest ends) divided, by simp [htokens]⟩

/-- Before what is lexed a parenthesis may open. -/
theorem leftParen (others : Lexes registry text tokens) :
    Lexes registry ('(' :: text) (.leftParen :: tokens) :=
  others.cons .leftParen fun _ _ _ => rfl

/-- Before what is lexed a parenthesis may close. -/
theorem rightParen (others : Lexes registry text tokens) :
    Lexes registry (')' :: text) (.rightParen :: tokens) :=
  others.cons .rightParen fun _ _ _ => rfl

/-- Before what is lexed there may be a comma. -/
theorem comma (others : Lexes registry text tokens) :
    Lexes registry (',' :: text) (.comma :: tokens) :=
  others.cons .comma fun _ _ _ => rfl

/-- A space before the first token does not matter. -/
theorem space (others : Lexes registry text tokens) : Lexes registry (' ' :: text) tokens := by
  intro before
  obtain ⟨pieces, stop, divided, htokens⟩ := others (before ++ [' '])
  have white {blank : List Char} (h : IsBlank blank) : IsBlank (' ' :: blank) :=
    List.forall_mem_cons.2 ⟨by decide, h⟩
  cases divided with
  | last ends =>
    cases ends with
    | finish blank => exact ⟨[], _, .last (.finish (white blank)), htokens⟩
  | @token _ blank slice rest kind token pieces _ hblank longest divided =>
    have others : Divided registry (before ++ (' ' :: blank ++ slice)) rest pieces (.ok stop) := by
      simpa using divided
    exact ⟨_, stop, .token (white hblank) longest others, by simpa using htokens⟩

/-- The tokens of a text from its start on. -/
theorem tokens_eq {text : String} (h : Lexes registry text.toList tokens) :
    (∃ stop, (registry.lexicon.tokens text).ending = .ok stop) ∧
      (registry.lexicon.tokens text).tokens.map Spanned.token = tokens := by
  obtain ⟨pieces, stop, divided, htokens⟩ := h []
  have hlexed : registry.lexicon.tokens text = ⟨pieces.map Piece.spanned, .ok stop⟩ :=
    divided.tokensFrom_eq
  rw [hlexed]
  exact ⟨⟨stop, rfl⟩, by rw [List.map_map]; exact htokens⟩

end Lexes

end Formulary
