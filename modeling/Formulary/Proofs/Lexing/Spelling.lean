import Formulary.Proofs.Lexing.Numeral
import Formulary.Token.Scan

/-!
# Formulary.Proofs.Lexing.Spelling

What slices of a text spell which tokens, and that the lexer takes the longest slice.

`Spells` is the spelling of tokens, one rule for each kind, said of the operators that
are registered and without the lexer. No two kinds begin with the same character
(`Spells.at?_eq`), so of the slices that could be taken at one place all are of one
kind. `Longest` is the slice to be taken; there is at most one (`Longest.unique`), and
the lexer finds it if there is one at all (`longest_of_lexeme?_eq_some`, `Longest.lexeme?_eq`).
-/

namespace Formulary

variable {σ : Type}

/-! ## Kinds of characters -/

namespace Symbol

variable {c : Char}

theorem isWordPart_of_isDigit (h : c.isDigit = true) : isWordPart c = true := by
  simp [isWordPart, Char.isAlphanum, h]

theorem isWordPart_of_mem {word : List Char} (h : isWordChars word = true) :
    ∀ c ∈ word, isWordPart c = true := by
  cases word with
  | nil => simp
  | cons c rest =>
    simp only [isWordChars, Bool.and_eq_true, List.all_eq_true] at h
    exact List.forall_mem_cons.2 ⟨isWordPart_of_isWordStart h.1, h.2⟩

theorem isAlphanumeric_of_isAlphanum (h : c.isAlphanum = true) : Text.isAlphanumeric c = true := by
  have ascii : c.toNat < 0x80 := by
    simp only [Char.isAlphanum, Bool.or_eq_true] at h
    rcases h with h | h
    · have := (isAlpha_iff c).1 h
      omega
    · have : c.toNat ≤ 57 := by
        simp only [Char.isDigit, Bool.and_eq_true, decide_eq_true_eq] at h
        exact UInt32.le_iff_toNat_le.1 h.2
      omega
  rw [Text.isAlphanumeric, if_pos ascii, h]

/-- Words and punctuation share no character. -/
theorem isPunctuationChar_of_isWordPart (h : isWordPart c = true) :
    isPunctuationChar c = false := by
  simp only [isWordPart, Bool.or_eq_true, beq_iff_eq] at h
  rcases h with h | rfl
  · simp [isPunctuationChar, isAlphanumeric_of_isAlphanum h]
  · simp [isPunctuationChar]

theorem isWordStart_of_isDigit (h : c.isDigit = true) : isWordStart c = false := by
  simp only [Char.isDigit, Bool.and_eq_true, decide_eq_true_eq] at h
  have most : c.toNat ≤ 57 := UInt32.le_iff_toNat_le.1 h.2
  have alpha : c.isAlpha = false := by
    rw [Bool.eq_false_iff, Ne, isAlpha_iff]
    omega
  have underscore : c ≠ '_' := by
    rintro rfl
    contradiction
  simp [isWordStart, alpha, underscore]

end Symbol

/-! ## The symbols of a registry -/

namespace Registry

variable {registry : Registry σ} {symbol : String}

/-- The symbol is the one of a registered operator that is no function, or its separator. -/
def HasSymbol (registry : Registry σ) (symbol : String) : Prop :=
  ∃ operator ∈ registry.operators, operator.arity ≠ .function ∧
    (symbol = operator.symbol ∨ operator.separator? = some symbol)

/-- An operator that is no function brings its symbol and its separator into the lexicon. -/
theorem mem_symbols_iff {operator : Operator σ} : symbol ∈ operator.symbols ↔
    operator.arity ≠ .function ∧
      (symbol = operator.symbol ∨ operator.separator? = some symbol) := by
  simp only [Operator.symbols, Spelling.symbols, Operator.spelling]
  cases operator.arity <;> simp [eq_comm]

theorem mem_flatMap_symbols_iff :
    symbol ∈ registry.operators.flatMap Operator.symbols ↔ registry.HasSymbol symbol := by
  simp only [List.mem_flatMap, mem_symbols_iff, HasSymbol]

/-- The words of the lexicon are the symbols that are words. -/
theorem mem_words_iff :
    symbol ∈ registry.lexicon.words ↔ registry.HasSymbol symbol ∧ Symbol.isWord symbol = true := by
  rw [lexicon, Lexicon.ofSymbols, List.mem_filter, mem_flatMap_symbols_iff]

/-- The punctuation of the lexicon is the symbols that are no words. -/
theorem mem_punctuation_iff : symbol ∈ registry.lexicon.punctuation ↔
    registry.HasSymbol symbol ∧ Symbol.isWord symbol = false := by
  rw [lexicon, Lexicon.ofSymbols, List.mem_filter, mem_flatMap_symbols_iff, Bool.not_eq_true']

/-- What is registered can be lexed. -/
theorem HasSymbol.isSymbol (h : registry.HasSymbol symbol) : Symbol.isSymbol symbol = true := by
  obtain ⟨operator, member, harity, hsymbol⟩ := h
  have hvalid := registry.valid operator member
  have hspelling : operator.invalidName? =
      if !Symbol.isSymbol operator.symbol then some operator.symbol
      else operator.separator?.filter fun separator =>
        separator == operator.symbol || !Symbol.isSymbol separator := by
    unfold Operator.invalidName? Spelling.invalidName? Operator.spelling
    cases h : operator.arity <;> simp_all
  rw [hspelling] at hvalid
  cases hnamed : Symbol.isSymbol operator.symbol with
  | false => simp [hnamed] at hvalid
  | true =>
    rcases hsymbol with rfl | hseparator
    · exact hnamed
    · have apart : ¬ symbol = operator.symbol ∧ Symbol.isSymbol symbol = true := by
        simpa [hnamed, hseparator, Option.filter_some] using hvalid
      exact apart.2

/-- A symbol that is no word consists of punctuation. -/
theorem HasSymbol.isPunctuation (h : registry.HasSymbol symbol)
    (notWord : Symbol.isWord symbol = false) : Symbol.isPunctuation symbol = true := by
  simpa [Symbol.isSymbol, notWord] using h.isSymbol

/-- A word is an operator if its upper case is a symbol. -/
theorem isOperatorWord_iff {word : String} (h : Symbol.isWord word = true) :
    registry.lexicon.isOperatorWord word = true ↔ registry.HasSymbol (Symbol.upper word) := by
  rw [Lexicon.isOperatorWord, Symbol.normalize, if_pos h, List.contains_iff_mem, mem_words_iff,
    Symbol.isWord_upper, h]
  simp

end Registry

/-! ## The longest punctuation -/

namespace Lexicon

/-- No symbol is longer than the longest. -/
theorem length_le_foldl_longer (symbol : String) (rest : List String) :
    ∀ other ∈ symbol :: rest, other.toList.length ≤ (rest.foldl longer symbol).toList.length := by
  induction rest generalizing symbol with
  | nil => simp
  | cons next rest ih =>
    have hlonger : symbol.toList.length ≤ (longer symbol next).toList.length ∧
        next.toList.length ≤ (longer symbol next).toList.length := by
      unfold longer
      split <;> omega
    have hfirst := ih (longer symbol next) _ List.mem_cons_self
    intro other member
    rcases List.mem_cons.1 member with rfl | member
    · exact hlonger.1.trans hfirst
    · rcases List.mem_cons.1 member with rfl | member
      · exact hlonger.2.trans hfirst
      · exact ih _ other (List.mem_cons_of_mem _ member)

variable {lexicon : Lexicon} {text : List Char} {symbol other : String}

/-- No punctuation at the front of the text is longer than what is matched. -/
theorem length_le_matchPunctuation? (h : lexicon.matchPunctuation? text = some symbol)
    (member : other ∈ lexicon.punctuation) (front : other.toList <+: text) :
    other.toList.length ≤ symbol.toList.length := by
  by_cases hempty : other.toList = []
  · simp [hempty]
  · have candidate : other ∈ lexicon.punctuation.filter fun symbol =>
        !symbol.toList.isEmpty && symbol.toList.isPrefixOf text := by
      simpa [member, hempty, List.isPrefixOf_iff_prefix] using front
    unfold matchPunctuation? at h
    simp only at h
    split at h
    · contradiction
    · next first rest heq =>
      rw [← Option.some.inj h]
      exact length_le_foldl_longer first rest other (heq ▸ candidate)

/-- If nothing is matched, no punctuation stands at the front of the text. -/
theorem not_front_of_matchPunctuation?_eq_none (h : lexicon.matchPunctuation? text = none)
    (member : symbol ∈ lexicon.punctuation) (nonempty : symbol.toList ≠ []) :
    ¬ symbol.toList <+: text := by
  intro front
  have candidate : symbol ∈ lexicon.punctuation.filter fun symbol =>
      !symbol.toList.isEmpty && symbol.toList.isPrefixOf text := by
    simpa [member, nonempty, List.isPrefixOf_iff_prefix] using front
  unfold matchPunctuation? at h
  simp only at h
  split at h
  · next heq => simp [heq] at candidate
  · contradiction

end Lexicon

/-! ## Spelling -/

/-- The kinds of tokens, by what they are written with. -/
inductive Lettering
  | leftParen
  | rightParen
  | comma
  | number
  | word
  | punctuation
deriving DecidableEq, Repr

/-- The slice of text spells the token. -/
inductive Spells (registry : Registry σ) : Lettering → List Char → Token → Prop
  | leftParen : Spells registry .leftParen ['('] .leftParen
  | rightParen : Spells registry .rightParen [')'] .rightParen
  | comma : Spells registry .comma [','] .comma
  /-- A numeral spells the number that it reads as. -/
  | number {numeral : Numeral} {value : Float} (formed : numeral.WellFormed)
      (reads : readNumber numeral.text = .ok value) :
      Spells registry .number numeral.text (.number value)
  /-- A word is an operator in upper case if that is a registered symbol. -/
  | operator {slice : List Char} (word : Symbol.isWordChars slice = true)
      (registered : registry.HasSymbol (Symbol.upper (String.ofList slice))) :
      Spells registry .word slice (.operator (Symbol.upper (String.ofList slice)))
  /-- Any other word is a name as it is written. -/
  | name {slice : List Char} (word : Symbol.isWordChars slice = true)
      (free : ¬ registry.HasSymbol (Symbol.upper (String.ofList slice))) :
      Spells registry .word slice (.name (String.ofList slice))
  /-- A registered symbol that is no word spells itself. -/
  | punctuation {symbol : String} (registered : registry.HasSymbol symbol)
      (notWord : Symbol.isWord symbol = false) :
      Spells registry .punctuation symbol.toList (.operator symbol)

/-- The kind of token that may begin with the text. -/
def Lettering.at? (text : List Char) : Option Lettering :=
  match text with
  | [] => none
  | '(' :: _ => some .leftParen
  | ')' :: _ => some .rightParen
  | ',' :: _ => some .comma
  | c :: _ =>
    if Numeral.starts text then some .number
    else if Symbol.isWordStart c then some .word
    else if Symbol.isPunctuationChar c then some .punctuation
    else none

namespace Lettering

/-- What begins as a number is read as one. -/
theorem at?_of_starts {text : List Char} (h : Numeral.starts text = true) :
    at? text = some .number := by
  unfold at?
  split
  · simp [Numeral.starts] at h
  · simp [Numeral.starts, Char.isDigit] at h
  · simp [Numeral.starts, Char.isDigit] at h
  · simp [Numeral.starts, Char.isDigit] at h
  · rw [if_pos h]

/-- A character that is neither a digit nor a point starts no numeral. -/
theorem starts_cons_eq_false {c : Char} (digit : c.isDigit = false) (point : c ≠ '.')
    (rest : List Char) : Numeral.starts (c :: rest) = false := by
  unfold Numeral.starts
  split
  · next heq => exact absurd (List.cons.inj heq).1 point
  · next heq => rw [← (List.cons.inj heq).1, digit]
  · rfl

theorem at?_of_isWordChars {slice : List Char} (h : Symbol.isWordChars slice = true)
    (rest : List Char) : at? (slice ++ rest) = some .word := by
  cases slice with
  | nil => contradiction
  | cons c others =>
    have start : Symbol.isWordStart c = true := by
      simp only [Symbol.isWordChars, Bool.and_eq_true] at h
      exact h.1
    have digit : c.isDigit = false :=
      Bool.eq_false_iff.2 fun digit => by
        rw [Symbol.isWordStart_of_isDigit digit] at start
        contradiction
    have hstarts := starts_cons_eq_false digit (by rintro rfl; contradiction) (others ++ rest)
    rw [List.cons_append]
    unfold at?
    split
    · contradiction
    · next heq => cases (List.cons.inj heq).1; contradiction
    · next heq => cases (List.cons.inj heq).1; contradiction
    · next heq => cases (List.cons.inj heq).1; contradiction
    · next heq =>
      cases heq
      rw [hstarts, if_neg (by simp), if_pos start]

theorem at?_of_isPunctuation {symbol : String} (h : Symbol.isPunctuation symbol = true)
    (rest : List Char) : at? (symbol.toList ++ rest) = some .punctuation := by
  cases hchars : symbol.toList with
  | nil => simp [Symbol.isPunctuation, hchars] at h
  | cons c others =>
    have hc : Symbol.isPunctuationChar c = true := by
      simp only [Symbol.isPunctuation, hchars, List.all_cons, Bool.and_eq_true] at h
      exact h.2.1
    have part : Symbol.isWordPart c = false :=
      Bool.eq_false_iff.2 fun part => by
        rw [Symbol.isPunctuationChar_of_isWordPart part] at hc
        contradiction
    have start : Symbol.isWordStart c = false :=
      Bool.eq_false_iff.2 fun start => by
        rw [Symbol.isWordPart_of_isWordStart start] at part
        contradiction
    have digit : c.isDigit = false :=
      Bool.eq_false_iff.2 fun digit => by
        rw [Symbol.isWordPart_of_isDigit digit] at part
        contradiction
    have apart : c ≠ '.' ∧ c ≠ '(' ∧ c ≠ ')' ∧ c ≠ ',' := by
      simp only [Symbol.isPunctuationChar, List.contains_cons, List.contains_nil, Bool.or_false,
        Bool.and_eq_true, Bool.not_eq_true', Bool.or_eq_false_iff, beq_eq_false_iff_ne] at hc
      exact hc.2.2
    have hstarts := starts_cons_eq_false digit apart.1 (others ++ rest)
    rw [List.cons_append]
    unfold at?
    split
    · contradiction
    · next heq => exact absurd (List.cons.inj heq).1 apart.2.1
    · next heq => exact absurd (List.cons.inj heq).1 apart.2.2.1
    · next heq => exact absurd (List.cons.inj heq).1 apart.2.2.2
    · next heq =>
      cases heq
      rw [hstarts, start, if_neg (by simp), if_neg (by simp), if_pos hc]

end Lettering

theorem readNumber_text {n : Numeral} (h : n.WellFormed) :
    readNumber n.text = .ok n.toFloat := by
  have hscan : Numeral.scan n.text = (n, []) := by
    have := Numeral.scan_text_append h .nil .nil rfl
    rwa [List.append_nil] at this
  have hunsigned : readUnsigned n.text = .ok n.toFloat := by
    simp [readUnsigned, hscan, h.nonempty]
  have hstart := Numeral.starts_text_append h []
  rw [List.append_nil] at hstart
  unfold readNumber
  split
  · next heq => simp [heq, Numeral.starts] at hstart
  · next heq => simp [heq, Numeral.starts, Char.isDigit] at hstart
  · next heq => simp [heq, Numeral.starts, Char.isDigit] at hstart
  · exact hunsigned

namespace Spells

variable {registry : Registry σ} {kind other : Lettering} {slice text : List Char}
  {token : Token}

theorem ne_nil (h : Spells registry kind slice token) : slice ≠ [] := by
  cases h with
  | number formed reads =>
    rintro hnil
    have := Numeral.starts_text_append formed []
    simp [hnil, Numeral.starts] at this
  | operator word registered =>
    rintro rfl
    contradiction
  | name word free =>
    rintro rfl
    contradiction
  | punctuation registered notWord =>
    rintro hnil
    have := registered.isPunctuation notWord
    simp [Symbol.isPunctuation, hnil] at this
  | _ => simp

/-- Where a slice stands, only tokens of its kind may begin. -/
theorem at?_eq (h : Spells registry kind slice token) (front : slice <+: text) :
    Lettering.at? text = some kind := by
  obtain ⟨rest, rfl⟩ := front
  cases h with
  | leftParen => rfl
  | rightParen => rfl
  | comma => rfl
  | number formed reads =>
    exact Lettering.at?_of_starts (Numeral.starts_text_append formed rest)
  | operator word registered => exact Lettering.at?_of_isWordChars word rest
  | name word free => exact Lettering.at?_of_isWordChars word rest
  | punctuation registered notWord =>
    exact Lettering.at?_of_isPunctuation (registered.isPunctuation notWord) rest

/-- A slice spells one token at most. -/
theorem token_eq {token' : Token} (h : Spells registry kind slice token)
    (h' : Spells registry kind slice token') : token = token' := by
  cases kind with
  | leftParen => cases h; cases h'; rfl
  | rightParen => cases h; cases h'; rfl
  | comma => cases h; cases h'; rfl
  | number =>
    have read (token : Token) (h : Spells registry .number slice token) :
        ∃ value, readNumber slice = .ok value ∧ token = .number value := by
      cases h with
      | number formed reads => exact ⟨_, reads, rfl⟩
    obtain ⟨value, hvalue, rfl⟩ := read token h
    obtain ⟨value', hvalue', rfl⟩ := read token' h'
    rw [Except.ok.inj (hvalue.symm.trans hvalue')]
  | word =>
    cases h with
    | operator word registered =>
      cases h' with
      | operator => rfl
      | name word free => exact absurd registered free
    | name word free =>
      cases h' with
      | operator word registered => exact absurd registered free
      | name => rfl
  | punctuation =>
    have read (token : Token) (h : Spells registry .punctuation slice token) :
        token = .operator (String.ofList slice) := by
      cases h with
      | punctuation registered notWord => rw [String.ofList_toList]
    rw [read token h, read token' h']

/-- A slice spells the same token in another registry that has its symbol, if it is an operator,
and still has none for it, if it is a name. -/
theorem transfer {other : Registry σ} (h : Spells registry kind slice token)
    (operators : ∀ symbol, token = .operator symbol → registry.HasSymbol symbol →
      other.HasSymbol symbol)
    (names : ∀ name, token = .name name → ¬ registry.HasSymbol (Symbol.upper name) →
      ¬ other.HasSymbol (Symbol.upper name)) : Spells other kind slice token := by
  cases h with
  | leftParen => exact .leftParen
  | rightParen => exact .rightParen
  | comma => exact .comma
  | number formed reads => exact .number formed reads
  | operator word registered => exact .operator word (operators _ rfl registered)
  | name word free => exact .name word (names _ rfl free)
  | punctuation registered notWord => exact .punctuation (operators _ rfl registered) notWord

/-- A slice begins with a character of its kind. -/
theorem shuns (h : Spells registry kind slice token) (rest : List Char) {p : Char → Bool}
    (part : ∀ {c}, Symbol.isWordPart c = true → p c = false)
    (single : ∀ c ∈ ['.', '(', ')', ','], p c = false)
    (punctuation : kind = .punctuation → ∀ {c}, Symbol.isPunctuationChar c = true → p c = false) :
    Shuns p (slice ++ rest) := by
  have word (h : Symbol.isWordChars slice = true) : Shuns p (slice ++ rest) := by
    cases slice with
    | nil => contradiction
    | cons c others => exact .cons (part (Symbol.isWordPart_of_mem h c List.mem_cons_self))
  cases h with
  | leftParen => exact .cons (single _ (by decide))
  | rightParen => exact .cons (single _ (by decide))
  | comma => exact .cons (single _ (by decide))
  | number formed reads =>
    exact Numeral.shuns_text_append formed rest (single _ (by decide)) fun digit =>
      part (Symbol.isWordPart_of_isDigit digit)
  | operator isWord registered => exact word isWord
  | name isWord free => exact word isWord
  | @punctuation symbol registered notWord =>
    have hsymbol := registered.isPunctuation notWord
    cases hchars : symbol.toList with
    | nil => simp [Symbol.isPunctuation, hchars] at hsymbol
    | cons c others =>
      simp only [Symbol.isPunctuation, hchars, List.all_cons, Bool.and_eq_true] at hsymbol
      exact .cons (punctuation rfl hsymbol.2.1)

end Spells

/-! ## The longest slice -/

/-- The slice at the front of the text spells the token, and no longer one there spells any. -/
structure Longest (registry : Registry σ) (kind : Lettering) (text slice : List Char)
    (token : Token) : Prop where
  spells : Spells registry kind slice token
  front : slice <+: text
  longest : ∀ {kind other token}, Spells registry kind other token → other <+: text →
    other.length ≤ slice.length

namespace Longest

variable {registry : Registry σ} {kind kind' : Lettering} {text slice slice' : List Char}
  {token token' : Token}

/-- A slice is longest if it is among those of its kind: there are no others. -/
theorem of_kind (spells : Spells registry kind slice token) (front : slice <+: text)
    (longest : ∀ {other token'}, Spells registry kind other token' → other <+: text →
      other.length ≤ slice.length) : Longest registry kind text slice token where
  spells := spells
  front := front
  longest {kind'} other token' hother hfront := by
    have same : kind = kind' :=
      Option.some.inj ((spells.at?_eq front).symm.trans (hother.at?_eq hfront))
    exact longest (same ▸ hother) hfront

/-- **One token at most**: the longest slice, its kind and its token are determined. -/
theorem unique (h : Longest registry kind text slice token)
    (h' : Longest registry kind' text slice' token') :
    kind = kind' ∧ slice = slice' ∧ token = token' := by
  have hkind : kind = kind' :=
    Option.some.inj ((h.spells.at?_eq h.front).symm.trans (h'.spells.at?_eq h'.front))
  have hlength : slice.length = slice'.length :=
    Nat.le_antisymm (h'.longest h.spells h.front) (h.longest h'.spells h'.front)
  have hslice : slice = slice' := by
    rw [List.prefix_iff_eq_take.1 h.front, List.prefix_iff_eq_take.1 h'.front, hlength]
  subst hkind hslice
  exact ⟨rfl, rfl, h.spells.token_eq h'.spells⟩

end Longest

/-! ## The lexer takes the longest slice -/

section Lexer

variable {registry : Registry σ} {text : List Char}

/-- A slice of some characters at the front of a text ends where the run of them ends. -/
theorem length_le_takeWhile {p : Char → Bool} {slice : List Char} (all : ∀ c ∈ slice, p c = true)
    (front : slice <+: text) : slice.length ≤ (text.takeWhile p).length := by
  obtain ⟨rest, rfl⟩ := front
  rw [List.takeWhile_append_of_pos all, List.length_append]
  exact Nat.le_add_right _ _

/-- The scanner of numbers takes the longest slice that spells one. -/
theorem longest_number (h : Numeral.starts text = true) :
    Longest registry .number text (Numeral.scan text).1.text
      (.number (Numeral.scan text).1.toFloat) := by
  have formed := Numeral.wellFormed_scan h
  refine .of_kind (.number formed (readNumber_text formed)) ⟨_, Numeral.text_append_scan text⟩ ?_
  intro other token hother hfront
  cases hother with
  | number formed' reads => exact Numeral.length_le_scan formed' hfront

/-- So many characters as a word goes on for are its longest slice. -/
theorem longest_word {c : Char} {rest : List Char} (h : Symbol.isWordStart c = true) :
    Longest registry .word (c :: rest) ((c :: rest).takeWhile Symbol.isWordPart)
      (registry.lexicon.wordToken (String.ofList ((c :: rest).takeWhile Symbol.isWordPart))) := by
  have word : Symbol.isWordChars ((c :: rest).takeWhile Symbol.isWordPart) = true := by
    rw [List.takeWhile_cons_of_pos (Symbol.isWordPart_of_isWordStart h), Symbol.isWordChars, h,
      List.all_takeWhile, Bool.and_self]
  have spells : Spells registry .word ((c :: rest).takeWhile Symbol.isWordPart)
      (registry.lexicon.wordToken (String.ofList ((c :: rest).takeWhile Symbol.isWordPart))) := by
    have hregistered := registry.isOperatorWord_iff <|
      show Symbol.isWord (String.ofList ((c :: rest).takeWhile Symbol.isWordPart)) = true by
        rw [Symbol.isWord, String.toList_ofList, word]
    unfold Lexicon.wordToken
    split
    · next found => exact .operator word (hregistered.1 found)
    · next missing => exact .name word fun registered => missing (hregistered.2 registered)
  refine .of_kind spells (List.takeWhile_prefix _) ?_
  intro other token hother hfront
  cases hother with
  | operator word' registered => exact length_le_takeWhile (Symbol.isWordPart_of_mem word') hfront
  | name word' free => exact length_le_takeWhile (Symbol.isWordPart_of_mem word') hfront

/-- The matched punctuation is the longest that the text begins with. -/
theorem longest_punctuation {symbol : String}
    (h : registry.lexicon.matchPunctuation? text = some symbol) :
    Longest registry .punctuation text symbol.toList (.operator symbol) := by
  obtain ⟨member, -, front⟩ := Lexicon.matchPunctuation?_mem h
  obtain ⟨registered, notWord⟩ := registry.mem_punctuation_iff.1 member
  refine .of_kind (.punctuation registered notWord) front ?_
  intro other token hother hfront
  cases hother with
  | punctuation registered' notWord' =>
    exact Lexicon.length_le_matchPunctuation? h
      (registry.mem_punctuation_iff.2 ⟨registered', notWord'⟩) hfront

/-- A single character that no other token begins with is a token of its own. -/
theorem longest_single {c : Char} {kind : Lettering} {token : Token} {rest : List Char}
    (spells : Spells registry kind [c] token)
    (only : ∀ {other token'}, Spells registry kind other token' → other = [c]) :
    Longest registry kind (c :: rest) [c] token :=
  .of_kind spells ⟨rest, rfl⟩ fun hother _ => by rw [only hother]

/-- What the lexer takes is the longest slice. -/
theorem longest_of_lexeme?_eq_some {lexeme : Lexeme}
    (h : registry.lexicon.lexeme? text = some lexeme) :
    ∃ slice kind, Longest registry kind text slice lexeme.token ∧
      lexeme.length = slice.length := by
  unfold Lexicon.lexeme? at h
  split at h
  · contradiction
  · cases h
    exact ⟨_, _, longest_single .leftParen fun h => by cases h; rfl, rfl⟩
  · cases h
    exact ⟨_, _, longest_single .rightParen fun h => by cases h; rfl, rfl⟩
  · cases h
    exact ⟨_, _, longest_single .comma fun h => by cases h; rfl, rfl⟩
  · next c rest _ _ _ =>
    split at h
    · next starts =>
      cases h
      exact ⟨_, _, longest_number starts, rfl⟩
    · split at h
      · next start =>
        cases h
        exact ⟨_, _, longest_word start, rfl⟩
      · obtain ⟨symbol, found, rfl⟩ := Option.map_eq_some_iff.1 h
        exact ⟨_, _, longest_punctuation found, rfl⟩

/-- Where the lexer takes nothing, nothing is spelled. -/
theorem not_spells_of_lexeme?_eq_none (h : registry.lexicon.lexeme? text = none)
    {kind : Lettering} {slice : List Char} {token : Token}
    (spells : Spells registry kind slice token) : ¬ slice <+: text := by
  intro front
  have hkind := spells.at?_eq front
  unfold Lexicon.lexeme? at h
  unfold Lettering.at? at hkind
  split at h
  · contradiction
  · contradiction
  · contradiction
  · contradiction
  · split at h
    · contradiction
    · split at h
      · contradiction
      · next noNumber noWord =>
        rw [Option.map_eq_none_iff] at h
        simp only [if_neg noNumber, if_neg noWord] at hkind
        split at hkind
        · cases hkind
          have nonempty := spells.ne_nil
          cases spells with
          | punctuation registered notWord =>
            exact Lexicon.not_front_of_matchPunctuation?_eq_none h
              (registry.mem_punctuation_iff.2 ⟨registered, notWord⟩) nonempty front
        · contradiction

/-- **Maximal munch**: the lexer takes the longest slice at the front of a text. -/
theorem Longest.lexeme?_eq {kind : Lettering} {slice : List Char} {token : Token}
    (h : Longest registry kind text slice token) :
    registry.lexicon.lexeme? text = some ⟨token, slice.length⟩ := by
  cases hlexeme : registry.lexicon.lexeme? text with
  | none => exact absurd h.front (not_spells_of_lexeme?_eq_none hlexeme h.spells)
  | some lexeme =>
    obtain ⟨slice', kind', hlongest, hlength⟩ := longest_of_lexeme?_eq_some hlexeme
    obtain ⟨-, rfl, rfl⟩ := h.unique hlongest
    rw [← hlength]

end Lexer

end Formulary
