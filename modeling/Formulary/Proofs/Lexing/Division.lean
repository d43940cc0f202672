import Formulary.Proofs.Lexing.Spelling
import Formulary.Token.Stream

/-!
# Formulary.Proofs.Lexing.Division

Every text is divided into tokens and white space, and into nothing else.

`Divided` is the division of a text: white space, then the longest slice that spells a
token, and so on, up to the end of the text or a character at which no token can start.
Every text has a division (`exists_divided`), and the lexer finds it
(`Divided.tokensFrom_eq`), as does a stream that is read item by item
(`Divided.yields`). What a division says of the text as a whole is collected in
`Partition`: the pieces cover the text, in order and without an overlap, each of them
between two characters.
-/

namespace Formulary

variable {σ : Type}

/-! ## White space -/

/-- White space only. -/
def IsBlank (text : List Char) : Prop := ∀ c ∈ text, Text.isBlank c = true

theorem isBlank_nil : IsBlank [] := by simp [IsBlank]

namespace Symbol

variable {c : Char}

theorem isBlank_of_isWordPart (h : isWordPart c = true) : Text.isBlank c = false := by
  have hc : c.isAlpha = true ∨ c.isDigit = true ∨ c = '_' := by
    simpa [isWordPart, Char.isAlphanum, or_assoc] using h
  have range : 48 ≤ c.toNat ∧ c.toNat ≤ 122 := by
    rcases hc with alpha | digit | rfl
    · have := (isAlpha_iff c).1 alpha
      omega
    · simp only [Char.isDigit, Bool.and_eq_true, decide_eq_true_eq] at digit
      have least : 48 ≤ c.toNat := UInt32.le_iff_toNat_le.1 digit.1
      have most : c.toNat ≤ 57 := UInt32.le_iff_toNat_le.1 digit.2
      omega
    · decide
  simp only [Text.isBlank, Bool.or_eq_false_iff, Bool.and_eq_false_iff, decide_eq_false_iff_not,
    beq_eq_false_iff_ne]
  omega

end Symbol

namespace Spells

variable {registry : Registry σ} {kind : Lettering} {slice : List Char} {token : Token}

/-- No token begins with white space. -/
theorem shuns_isBlank (h : Spells registry kind slice token) (rest : List Char) :
    Shuns Text.isBlank (slice ++ rest) := by
  refine h.shuns rest Symbol.isBlank_of_isWordPart (by simp [Text.isBlank]) fun _ c hc => ?_
  simp only [Symbol.isPunctuationChar, Bool.and_eq_true, Bool.not_eq_true'] at hc
  exact hc.1.1

/-- No slice spells the end. -/
theorem ne_finish (h : Spells registry kind slice token) : token ≠ .finish := by
  cases h <;> simp

end Spells

/-! ## Division -/

/-- A token as it stands in a text: the white space before it and the slice that spells it. -/
structure Piece where
  blank : List Char
  slice : List Char
  spanned : Spanned

namespace Piece

/-- The characters that the piece takes. -/
def chars (piece : Piece) : List Char := piece.blank ++ piece.slice

/-- The byte offset behind the piece. -/
def stop (piece : Piece) : Nat := piece.spanned.offset + Text.byteLength piece.slice

end Piece

/-- How a text ends behind its last token. -/
inductive Ends (registry : Registry σ) : List Char → List Char → Except LexError Nat → Prop
  /-- White space up to the end of the text. -/
  | finish {before blank : List Char} (white : IsBlank blank) :
      Ends registry before blank (.ok (Text.byteLength (before ++ blank)))
  /-- White space, and a character with which no slice begins that spells a token. -/
  | stuck {before blank rest : List Char} {c : Char} (white : IsBlank blank)
      (solid : Text.isBlank c = false)
      (none : ∀ {kind slice token}, Spells registry kind slice token → ¬ slice <+: c :: rest) :
      Ends registry before (blank ++ c :: rest) (.error ⟨c, Text.byteLength (before ++ blank)⟩)

/-- The text, which stands after the characters before it, is divided into the pieces. -/
inductive Divided (registry : Registry σ) :
    List Char → List Char → List Piece → Except LexError Nat → Prop
  | last {before tail : List Char} {ending : Except LexError Nat}
      (ends : Ends registry before tail ending) : Divided registry before tail [] ending
  /-- White space, the longest slice, and what follows. -/
  | token {before blank slice rest : List Char} {kind : Lettering} {token : Token}
      {pieces : List Piece} {ending : Except LexError Nat} (white : IsBlank blank)
      (longest : Longest registry kind (slice ++ rest) slice token)
      (others : Divided registry (before ++ (blank ++ slice)) rest pieces ending) :
      Divided registry before (blank ++ (slice ++ rest))
        (⟨blank, slice, ⟨token, Text.byteLength (before ++ blank)⟩⟩ :: pieces) ending

/-- Every text has a division. -/
theorem exists_divided (registry : Registry σ) (before text : List Char) :
    ∃ pieces ending, Divided registry before text pieces ending := by
  have white : IsBlank (text.takeWhile Text.isBlank) := fun c => List.mem_takeWhile_imp
  have hsplit := List.takeWhile_append_dropWhile (p := Text.isBlank) (l := text)
  have hlength := (List.dropWhile_sublist Text.isBlank (l := text)).length_le
  cases hrest : text.dropWhile Text.isBlank with
  | nil =>
    rw [hrest, List.append_nil] at hsplit
    rw [hsplit] at white
    exact ⟨_, _, .last (.finish white)⟩
  | cons c rest =>
    have solid : Text.isBlank c = false := shuns_dropWhile Text.isBlank text c rest hrest
    rw [hrest] at hsplit hlength
    cases hlexeme : registry.lexicon.lexeme? (c :: rest) with
    | none =>
      rw [← hsplit]
      exact ⟨_, _, .last (.stuck white solid (not_spells_of_lexeme?_eq_none hlexeme))⟩
    | some lexeme =>
      obtain ⟨slice, kind, longest, -⟩ := longest_of_lexeme?_eq_some hlexeme
      obtain ⟨behind, hbehind⟩ := longest.front
      have hpos := List.length_pos_iff.2 longest.spells.ne_nil
      have shorter : behind.length < text.length := by
        rw [← hbehind, List.length_append] at hlength
        omega
      obtain ⟨pieces, ending, others⟩ := exists_divided registry
        (before ++ (text.takeWhile Text.isBlank ++ slice)) behind
      rw [← hbehind] at hsplit longest
      rw [← hsplit]
      exact ⟨_, _, .token white longest others⟩
termination_by text.length

/-! ## The lexer divides the text -/

section Lexer

variable {registry : Registry σ} {before blank text : List Char}

/-- White space is skipped up to the first character that is none. -/
theorem Cursor.skipBlank_append (before : List Char) (white : IsBlank blank)
    (solid : Shuns Text.isBlank text) :
    Cursor.skipBlank ⟨blank ++ text, Text.byteLength before⟩ =
      ⟨text, Text.byteLength (before ++ blank)⟩ := by
  simp [Cursor.skipBlank, List.takeWhile_append_of_pos white, List.dropWhile_append_of_pos white,
    solid.takeWhile, solid.dropWhile]

/-- Behind the last white space the text ends. -/
theorem scan_of_isBlank (white : IsBlank blank) :
    registry.lexicon.scan ⟨blank, Text.byteLength before⟩ =
      .ok (⟨.finish, Text.byteLength (before ++ blank)⟩,
        ⟨[], Text.byteLength (before ++ blank)⟩) := by
  have hskip := Cursor.skipBlank_append before white .nil
  rw [List.append_nil] at hskip
  simp [Lexicon.scan, hskip]

/-- A character that no slice begins with is an error, at its place behind the white space. -/
theorem scan_of_not_spells {c : Char} {rest : List Char} (white : IsBlank blank)
    (solid : Text.isBlank c = false)
    (none : ∀ {kind slice token}, Spells registry kind slice token → ¬ slice <+: c :: rest) :
    registry.lexicon.scan ⟨blank ++ c :: rest, Text.byteLength before⟩ =
      .error ⟨c, Text.byteLength (before ++ blank)⟩ := by
  have hlexeme : registry.lexicon.lexeme? (c :: rest) = .none := by
    cases h : registry.lexicon.lexeme? (c :: rest) with
    | none => rfl
    | some lexeme =>
      obtain ⟨slice, kind, longest, -⟩ := longest_of_lexeme?_eq_some h
      exact absurd longest.front (none longest.spells)
  simp [Lexicon.scan, Cursor.skipBlank_append before white (.cons solid), hlexeme]

/-- Behind white space the longest slice is taken. -/
theorem scan_of_longest {kind : Lettering} {slice rest : List Char} {token : Token}
    (white : IsBlank blank) (longest : Longest registry kind (slice ++ rest) slice token) :
    registry.lexicon.scan ⟨blank ++ (slice ++ rest), Text.byteLength before⟩ =
      .ok (⟨token, Text.byteLength (before ++ blank)⟩,
        ⟨rest, Text.byteLength (before ++ (blank ++ slice))⟩) := by
  have hskip := Cursor.skipBlank_append before white (longest.spells.shuns_isBlank rest)
  have hlexeme := longest.lexeme?_eq
  have nonempty := longest.spells.ne_nil
  unfold Lexicon.scan
  simp only [hskip]
  split
  · next hnil => simp [nonempty] at hnil
  · simp [hlexeme, Cursor.advance, Nat.add_assoc]

end Lexer

namespace Divided

variable {registry : Registry σ} {before text : List Char} {pieces : List Piece}
  {ending : Except LexError Nat}

/-- **The lexer finds the division** of a text. -/
theorem tokensFrom_eq (h : Divided registry before text pieces ending) :
    registry.lexicon.tokensFrom ⟨text, Text.byteLength before⟩ =
      ⟨pieces.map Piece.spanned, ending⟩ := by
  induction h with
  | last ends =>
    unfold Lexicon.tokensFrom
    cases ends with
    | finish white =>
      split
      · next h => simp [scan_of_isBlank white] at h
      · next h =>
        rw [scan_of_isBlank white] at h
        cases h
        simp
    | stuck white solid none =>
      split
      · next h =>
        rw [scan_of_not_spells white solid none] at h
        cases h
        rfl
      · next h => simp [scan_of_not_spells white solid none] at h
  | token white longest others ih =>
    unfold Lexicon.tokensFrom
    split
    · next h => simp [scan_of_longest white longest] at h
    · next h =>
      rw [scan_of_longest white longest] at h
      cases h
      rw [dif_neg longest.spells.ne_finish, ih]
      rfl

end Divided

/-- Each piece of a divided text spells its token. -/
theorem Divided.spells {registry : Registry σ} {before text : List Char} {pieces : List Piece}
    {ending : Except LexError Nat} (h : Divided registry before text pieces ending) :
    ∀ piece ∈ pieces, ∃ kind slice, Spells registry kind slice piece.spanned.token := by
  induction h with
  | last ends => simp
  | token white longest others ih =>
    exact List.forall_mem_cons.2 ⟨⟨_, _, longest.spells⟩, ih⟩

/-- Each token of a text is spelled there. -/
theorem Lexicon.exists_spells (registry : Registry σ) (text : String) :
    ∀ token ∈ (registry.lexicon.tokens text).tokens.map Spanned.token,
      ∃ kind slice, Spells registry kind slice token := by
  obtain ⟨pieces, ending, divided⟩ := exists_divided registry [] text.toList
  have hlexed : registry.lexicon.tokens text = ⟨pieces.map Piece.spanned, ending⟩ :=
    divided.tokensFrom_eq
  rw [hlexed]
  simpa using divided.spells

/-! ## Reading item by item -/

/-- The items that a stream hands out: the tokens, and the error as the last one. -/
def Lexed.items (lexed : Lexed) : List (Except LexError Spanned) :=
  lexed.tokens.map .ok ++ match lexed.ending with
    | .ok _ => []
    | .error e => [.error e]

namespace TokenStream

/-- The stream hands out these items, one after the other, and then nothing for good. -/
inductive Yields : TokenStream → List (Except LexError Spanned) → Prop
  | done {stream after : TokenStream} (last : stream.item? = (none, after))
      (forever : after.item? = (none, after)) : Yields stream []
  | item {stream after : TokenStream} {item : Except LexError Spanned}
      {items : List (Except LexError Spanned)} (first : stream.item? = (some item, after))
      (others : Yields after items) : Yields stream (item :: items)

/-- A stream that is exhausted stays so. -/
theorem yields_nil_of_exhausted {stream : TokenStream} (h : stream.exhausted = true) :
    Yields stream [] := by
  have none : stream.item? = (none, stream) := by simp [item?, h]
  exact .done none none

end TokenStream

namespace Divided

variable {registry : Registry σ} {before text : List Char} {pieces : List Piece}
  {ending : Except LexError Nat}

/-- **A stream hands out the pieces** of a text one by one. -/
theorem yields (h : Divided registry before text pieces ending) :
    TokenStream.Yields ⟨registry.lexicon, ⟨text, Text.byteLength before⟩, none, false⟩
      (Lexed.items ⟨pieces.map Piece.spanned, ending⟩) := by
  induction h with
  | @last before tail ending ends =>
    cases ends with
    | finish white =>
      have hitem :
          TokenStream.item? ⟨registry.lexicon, ⟨tail, Text.byteLength before⟩, none, false⟩ =
            (none, ⟨registry.lexicon, ⟨[], Text.byteLength (before ++ tail)⟩, none, true⟩) := by
        simp [TokenStream.item?, TokenStream.next, scan_of_isBlank white]
      exact .done hitem (by simp [TokenStream.item?])
    | @stuck blank rest c white solid none =>
      have hitem : TokenStream.item?
            ⟨registry.lexicon, ⟨blank ++ c :: rest, Text.byteLength before⟩, .none, false⟩ =
          (some (.error ⟨c, Text.byteLength (before ++ blank)⟩),
            ⟨registry.lexicon, ⟨c :: rest, Text.byteLength (before ++ blank)⟩, .none, true⟩) := by
        simp [TokenStream.item?, TokenStream.next, scan_of_not_spells white solid none,
          Cursor.skipBlank_append before white (.cons solid)]
      exact .item hitem (TokenStream.yields_nil_of_exhausted rfl)
  | token white longest others ih =>
    refine .item ?_ ih
    simp [TokenStream.item?, TokenStream.next, scan_of_longest white longest,
      longest.spells.ne_finish]

end Divided

/-! ## The text as a whole -/

/-- The pieces are the text up to its tail: in order, one behind the other, each with the
longest slice that there is where it stands. -/
structure Partition (registry : Registry σ) (text : List Char) (pieces : List Piece)
    (tail : List Char) (ending : Except LexError Nat) : Prop where
  covers : text = pieces.flatMap Piece.chars ++ tail
  white : ∀ piece ∈ pieces, IsBlank piece.blank
  placed : ∀ {front piece behind}, pieces = front ++ piece :: behind →
    piece.spanned.offset = Text.byteLength (front.flatMap Piece.chars ++ piece.blank)
  longest : ∀ {front piece behind}, pieces = front ++ piece :: behind → ∃ kind,
    Longest registry kind (piece.slice ++ (behind.flatMap Piece.chars ++ tail)) piece.slice
      piece.spanned.token
  increasing : pieces.Pairwise fun piece later =>
    piece.spanned.offset < later.spanned.offset ∧ piece.stop ≤ later.spanned.offset
  /-- Each slice stands between two characters of the text and takes at least one. -/
  sliced : ∀ piece ∈ pieces,
    piece.slice ≠ [] ∧ Text.slice? text piece.spanned.offset piece.stop = some piece.slice
  ends : Ends registry (pieces.flatMap Piece.chars) tail ending

theorem Text.byteLength_pos {text : List Char} (h : text ≠ []) : 0 < byteLength text := by
  obtain ⟨c, rest, rfl⟩ := List.exists_cons_of_ne_nil h
  have := c.utf8Size_pos
  rw [byteLength_cons]
  omega

namespace Divided

variable {registry : Registry σ} {before text : List Char} {pieces : List Piece}
  {ending : Except LexError Nat}

theorem white (h : Divided registry before text pieces ending) :
    ∀ piece ∈ pieces, IsBlank piece.blank := by
  induction h with
  | last ends => simp
  | token white longest others ih => simpa [white] using ih

/-- The pieces make up the text but for its tail, where the text ends or is in error. -/
theorem exists_tail (h : Divided registry before text pieces ending) :
    ∃ tail, text = pieces.flatMap Piece.chars ++ tail ∧
      Ends registry (before ++ pieces.flatMap Piece.chars) tail ending := by
  induction h with
  | last ends => exact ⟨_, rfl, by simpa using ends⟩
  | token white longest others ih =>
    obtain ⟨tail, rfl, ends⟩ := ih
    exact ⟨tail, by simp [Piece.chars], by simpa [Piece.chars] using ends⟩

/-- The offset of a piece is the number of bytes before its slice. -/
theorem placed (h : Divided registry before text pieces ending) {front behind : List Piece}
    {piece : Piece} (hpieces : pieces = front ++ piece :: behind) :
    piece.spanned.offset =
      Text.byteLength (before ++ (front.flatMap Piece.chars ++ piece.blank)) := by
  induction h generalizing front with
  | last ends => simp at hpieces
  | token white longest others ih =>
    cases front with
    | nil =>
      cases hpieces
      simp
    | cons first front =>
      cases hpieces
      simpa [Piece.chars] using ih rfl

/-- The slice of each piece is the longest that the text begins with at its place. -/
theorem longest (h : Divided registry before text pieces ending) {tail : List Char}
    (covers : text = pieces.flatMap Piece.chars ++ tail) {front behind : List Piece}
    {piece : Piece} (hpieces : pieces = front ++ piece :: behind) :
    ∃ kind, Longest registry kind (piece.slice ++ (behind.flatMap Piece.chars ++ tail))
      piece.slice piece.spanned.token := by
  induction h generalizing front with
  | last ends => simp at hpieces
  | @token _ _ _ _ kind _ _ _ white longest others ih =>
    have hrest := by simpa [Piece.chars] using covers
    cases front with
    | nil =>
      cases hpieces
      exact ⟨kind, hrest ▸ longest⟩
    | cons first front =>
      cases hpieces
      exact ih hrest rfl

theorem le_offset (h : Divided registry before text pieces ending) :
    ∀ piece ∈ pieces, Text.byteLength before ≤ piece.spanned.offset := by
  intro piece member
  obtain ⟨front, behind, hpieces⟩ := List.append_of_mem member
  rw [h.placed hpieces, Text.byteLength_append]
  exact Nat.le_add_right _ _

/-- Later pieces begin behind the ends of earlier ones. -/
theorem increasing (h : Divided registry before text pieces ending) :
    pieces.Pairwise fun piece later =>
      piece.spanned.offset < later.spanned.offset ∧ piece.stop ≤ later.spanned.offset := by
  induction h with
  | last ends => exact .nil
  | token white longest others ih =>
    refine .cons (fun later member => ?_) ih
    have hoffset := others.le_offset later member
    have hpos := Text.byteLength_pos longest.spells.ne_nil
    simp only [Text.byteLength_append, Piece.stop] at hoffset ⊢
    omega

/-- A division of a whole text is a partition of it. -/
theorem partition (h : Divided registry [] text pieces ending) :
    ∃ tail, Partition registry text pieces tail ending := by
  obtain ⟨tail, covers, ends⟩ := h.exists_tail
  refine ⟨tail, covers, h.white, h.placed, h.longest covers, h.increasing, ?_, ends⟩
  intro piece member
  obtain ⟨front, behind, hpieces⟩ := List.append_of_mem member
  obtain ⟨kind, longest⟩ := h.longest covers hpieces
  have htext : text = front.flatMap Piece.chars ++ piece.blank ++ piece.slice ++
      (behind.flatMap Piece.chars ++ tail) := by
    rw [covers, hpieces]
    simp [Piece.chars]
  have hslice := Text.slice?_append (front.flatMap Piece.chars ++ piece.blank) piece.slice
    (behind.flatMap Piece.chars ++ tail)
  rw [← htext, Text.byteLength_append _ piece.slice] at hslice
  refine ⟨longest.spells.ne_nil, ?_⟩
  rw [Piece.stop, h.placed hpieces]
  exact hslice

end Divided

/-- **Lexing loses nothing**: reading the tokens of a text one by one comes to an end, and the
tokens, each with the longest slice that there is where it starts, and white space are the
whole text or all of it before a character at which no token can start. -/
theorem TokenStream.yields_partition (registry : Registry σ) (text : String) :
    ∃ pieces tail ending, Partition registry text.toList pieces tail ending ∧
      registry.lexicon.tokens text = ⟨pieces.map Piece.spanned, ending⟩ ∧
      Yields (ofText registry.lexicon text)
        (Lexed.items ⟨pieces.map Piece.spanned, ending⟩) := by
  obtain ⟨pieces, ending, divided⟩ := exists_divided registry [] text.toList
  obtain ⟨tail, partition⟩ := divided.partition
  exact ⟨pieces, tail, ending, partition, divided.tokensFrom_eq, divided.yields⟩

end Formulary
