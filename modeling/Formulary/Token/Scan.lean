import Formulary.Decimal.Numeral
import Formulary.Registry
import Formulary.Text.Bytes
import Formulary.Token

/-!
# Formulary.Token.Scan

Reading the next token off a text.

A `Cursor` is the text that is still to be read and the byte offset at which
it starts. `Lexicon.lexeme?` splits the longest token off the front of a text,
`Lexicon.scan` skips white space first and reports the offset. Every token but
the end takes at least one character (`length_lexeme?`), so a text has
finitely many, and `Lexicon.tokens` lists them.
-/

namespace Formulary

/-- A character at which no token starts. -/
structure LexError where
  character : Char
  offset : Nat
deriving DecidableEq, Repr

/-- The wording of the error. -/
def LexError.message (e : LexError) : String :=
  s!"Unexpected character '{e.character}' at offset {e.offset}"

/-! ## Lexemes -/

/-- A token with the characters it is written in. -/
structure Lexeme where
  token : Token
  /-- The number of characters. -/
  length : Nat
deriving DecidableEq, Repr

namespace Lexicon

/-- The token of a word: an operator if the lexicon has it, else a name, kept as written. -/
def wordToken (lexicon : Lexicon) (word : String) : Token :=
  if lexicon.isOperatorWord word then .operator (Symbol.upper word) else .name word

/-- The longest token at the front of a text, which must not start with white space. -/
def lexeme? (lexicon : Lexicon) (text : List Char) : Option Lexeme :=
  match text with
  | [] => none
  | '(' :: _ => some ⟨.leftParen, 1⟩
  | ')' :: _ => some ⟨.rightParen, 1⟩
  | ',' :: _ => some ⟨.comma, 1⟩
  | c :: _ =>
    if Numeral.starts text then
      let numeral := (Numeral.scan text).1
      some ⟨.number numeral.toFloat, numeral.text.length⟩
    else if Symbol.isWordStart c then
      let word := text.takeWhile Symbol.isWordPart
      some ⟨lexicon.wordToken (String.ofList word), word.length⟩
    else
      (lexicon.matchPunctuation? text).map fun symbol => ⟨.operator symbol, symbol.toList.length⟩

end Lexicon

/-! ## Lexemes are not empty -/

namespace Lexicon

/-- The longer of two symbols is one of them. -/
theorem longer_eq (a b : String) : longer a b = a ∨ longer a b = b := by
  unfold longer
  split
  · exact .inr rfl
  · exact .inl rfl

/-- The longest of several symbols is one of them. -/
theorem foldl_longer_mem (symbol : String) (rest : List String) :
    rest.foldl longer symbol ∈ symbol :: rest := by
  induction rest generalizing symbol with
  | nil => simp
  | cons other rest ih =>
    have := ih (longer symbol other)
    rcases longer_eq symbol other with h | h <;> rw [h] at this <;>
      simp only [List.foldl_cons, h, List.mem_cons] at this ⊢ <;> grind

/-- What is matched is punctuation of the lexicon, not empty, and stands in front of the text. -/
theorem matchPunctuation?_mem {lexicon : Lexicon} {text : List Char} {symbol : String}
    (h : lexicon.matchPunctuation? text = some symbol) :
    symbol ∈ lexicon.punctuation ∧ symbol.toList ≠ [] ∧ symbol.toList <+: text := by
  unfold matchPunctuation? at h
  simp only at h
  split at h
  · simp at h
  · rename_i first rest heq
    have member := foldl_longer_mem first rest
    rw [Option.some.inj h, ← heq, List.mem_filter] at member
    simpa [List.isPrefixOf_iff_prefix] using member

/-- A token takes at least one character. -/
theorem length_lexeme? {lexicon : Lexicon} {text : List Char} {lexeme : Lexeme}
    (h : lexicon.lexeme? text = some lexeme) : 0 < lexeme.length := by
  unfold lexeme? at h
  split at h
  · simp at h
  · simp [← Option.some.inj h]
  · simp [← Option.some.inj h]
  · simp [← Option.some.inj h]
  · rename_i c rest _ _ _
    split at h
    · rename_i starts
      rw [← Option.some.inj h]
      exact List.length_pos_iff.2 (Numeral.text_ne_nil starts)
    · split at h
      · rename_i start
        rw [← Option.some.inj h]
        simp [Symbol.isWordPart_of_isWordStart start]
      · obtain ⟨symbol, matched, rfl⟩ := Option.map_eq_some_iff.1 h
        exact List.length_pos_iff.2 (matchPunctuation?_mem matched).2.1

end Lexicon

/-! ## Cursors -/

/-- A text to be read and the byte offset at which it starts. -/
structure Cursor where
  rest : List Char
  offset : Nat
deriving DecidableEq, Repr

namespace Cursor

/-- The start of a text. -/
def ofText (text : String) : Cursor := ⟨text.toList, 0⟩

/-- Skip so many characters. -/
def advance (cursor : Cursor) (count : Nat) : Cursor where
  rest := cursor.rest.drop count
  offset := cursor.offset + Text.byteLength (cursor.rest.take count)

/-- Skip white space. -/
def skipBlank (cursor : Cursor) : Cursor where
  rest := cursor.rest.dropWhile Text.isBlank
  offset := cursor.offset + Text.byteLength (cursor.rest.takeWhile Text.isBlank)

end Cursor

namespace Lexicon

/-- The next token, and the cursor behind it. At the end of the text this is `Token.finish`,
as often as it is asked for. -/
def scan (lexicon : Lexicon) (cursor : Cursor) : Except LexError (Spanned × Cursor) :=
  let start := cursor.skipBlank
  match start.rest with
  | [] => .ok (⟨.finish, start.offset⟩, start)
  | c :: _ =>
    match lexicon.lexeme? start.rest with
    | some lexeme => .ok (⟨lexeme.token, start.offset⟩, start.advance lexeme.length)
    | none => .error ⟨c, start.offset⟩

/-- Reading a token other than the end makes the rest of the text shorter. -/
theorem length_rest_scan {lexicon : Lexicon} {cursor next : Cursor} {spanned : Spanned}
    (h : lexicon.scan cursor = .ok (spanned, next)) (more : spanned.token ≠ .finish) :
    next.rest.length < cursor.rest.length := by
  have skipped : cursor.skipBlank.rest.length ≤ cursor.rest.length :=
    (List.dropWhile_sublist _).length_le
  unfold scan at h
  simp only at h
  split at h
  · exact absurd (by injection h with h; injection h with h _; rw [← h]) more
  · rename_i c rest start
    split at h
    · rename_i lexeme found
      injection h with h
      injection h with _ h
      have := length_lexeme? found
      rw [← h, Cursor.advance, List.length_drop]
      rw [start] at skipped ⊢
      simp only [List.length_cons] at skipped ⊢
      omega
    · simp at h

end Lexicon

/-! ## All tokens of a text -/

/-- The tokens of a text in order, and how the text ends: at its end, whose offset is given, or
before a character at which no token starts. -/
structure Lexed where
  tokens : List Spanned
  ending : Except LexError Nat
deriving Repr

namespace Lexicon

/-- The tokens from a cursor on. -/
def tokensFrom (lexicon : Lexicon) (cursor : Cursor) : Lexed :=
  match _ : lexicon.scan cursor with
  | .error e => ⟨[], .error e⟩
  | .ok (spanned, next) =>
    if _ : spanned.token = .finish then ⟨[], .ok spanned.offset⟩
    else
      let others := lexicon.tokensFrom next
      ⟨spanned :: others.tokens, others.ending⟩
termination_by cursor.rest.length
decreasing_by exact length_rest_scan (by assumption) (by assumption)

/-- The tokens of a text. -/
def tokens (lexicon : Lexicon) (text : String) : Lexed :=
  lexicon.tokensFrom (Cursor.ofText text)

end Lexicon

end Formulary
