import Formulary.Builtin
import Formulary.Proofs.Lexing.Spaced
import Formulary.Proofs.Reading.Offsets

/-!
# Formulary.Proofs.Layout

The white space of a text does not matter.

The slices that a text is divided into can be laid out anew, with any white space before, between
and behind them, as long as there is some between two (`Layout`). Each slice spells the same token
wherever it stands, and white space ends it, so the lexer finds the same slices
(`Layout.exists_divided`). The tokens are the same ones at other places, and what is read from them
is the same up to these places (`Grammar.parse_layout`).
-/

namespace Formulary

variable {σ : Type}

theorem isBlank_singleton {c : Char} (h : Text.isBlank c = true) : IsBlank [c] :=
  List.forall_mem_singleton.2 h

/-- The text has these slices in order and nothing else but white space, some of it between any
two of them. -/
inductive Layout : List (List Char) → List Char → Prop
  | finish {blank : List Char} (white : IsBlank blank) : Layout [] blank
  | slice {blank slice rest : List Char} {slices : List (List Char)} (white : IsBlank blank)
      (apart : slices = [] ∨ ∃ c ∈ rest.head?, Text.isBlank c = true)
      (others : Layout slices rest) : Layout (slice :: slices) (blank ++ (slice ++ rest))

/-! ## The tokens of a layout -/

/-- What goes on behind a slice is white space or the end. -/
theorem Layout.shuns_goesOn {slices : List (List Char)} {rest : List Char}
    (others : Layout slices rest) (apart : slices = [] ∨ ∃ c ∈ rest.head?, Text.isBlank c = true)
    (kind : Lettering) : Shuns kind.goesOn rest := by
  intro c behind hrest
  refine kind.goesOn_of_isBlank ?_
  rcases apart with rfl | ⟨first, hfirst, white⟩
  · cases others with
    | finish white => exact white c (hrest ▸ List.mem_cons_self)
  · rw [hrest] at hfirst
    cases hfirst
    exact white

/-- The slices of a layout are found, and each is the token that it spells. -/
theorem Layout.exists_divided {registry : Registry σ} {pieces : List Piece} {text : List Char}
    (layout : Layout (pieces.map Piece.slice) text)
    (spelled : ∀ piece ∈ pieces, ∃ kind, Spells registry kind piece.slice piece.spanned.token)
    (before : List Char) : ∃ pieces' stop, Divided registry before text pieces' (.ok stop) ∧
      (pieces'.map Piece.spanned).map Spanned.token =
        (pieces.map Piece.spanned).map Spanned.token := by
  generalize hslices : pieces.map Piece.slice = slices at layout
  induction layout generalizing pieces before with
  | finish white =>
    rw [List.map_eq_nil_iff] at hslices
    exact ⟨[], _, .last (.finish white), by rw [hslices]⟩
  | @slice blank slice rest slices white apart others ih =>
    obtain ⟨piece, behind, rfl, rfl, hbehind⟩ := List.map_eq_cons_iff.1 hslices
    obtain ⟨⟨kind, spells⟩, spelled⟩ := List.forall_mem_cons.1 spelled
    obtain ⟨pieces', stop, divided, same⟩ := ih spelled (before ++ (blank ++ piece.slice)) hbehind
    have longest := spells.longest (others.shuns_goesOn apart kind)
    exact ⟨_, stop, .token white longest divided, by simp only [List.map_cons, same]⟩

namespace Divided

variable {registry : Registry σ} {before text : List Char} {pieces : List Piece}
  {ending : Except LexError Nat} {stop : Nat}

/-- Each slice of a text spells its token. -/
theorem spells_slice (h : Divided registry before text pieces ending) :
    ∀ piece ∈ pieces, ∃ kind, Spells registry kind piece.slice piece.spanned.token := by
  induction h with
  | last ends => simp
  | token white longest others ih => exact List.forall_mem_cons.2 ⟨⟨_, longest.spells⟩, ih⟩

/-- The end of a text is behind its tokens. -/
theorem offset_lt_stop (h : Divided registry before text pieces (.ok stop)) :
    ∀ piece ∈ pieces, piece.spanned.offset < stop := by
  intro piece member
  obtain ⟨tail, -, ends⟩ := h.exists_tail
  obtain ⟨front, behind, hpieces⟩ := List.append_of_mem member
  obtain ⟨kind, spells⟩ := h.spells_slice piece member
  have hpos := Text.byteLength_pos spells.ne_nil
  cases ends with
  | finish white =>
    rw [h.placed hpieces, hpieces]
    simp only [Text.byteLength_append, List.flatMap_append, List.flatMap_cons, Piece.chars]
    omega

/-- No two tokens are at one place, and none is at the end. -/
theorem nodup_offsets (h : Divided registry before text pieces (.ok stop)) :
    ((pieces.map Piece.spanned).map Spanned.offset ++ [stop]).Nodup := by
  have increasing := h.increasing.imp fun increases => Nat.ne_of_lt increases.1
  refine List.pairwise_append.2
    ⟨List.pairwise_map.2 (List.pairwise_map.2 increasing), List.pairwise_singleton _ _, ?_⟩
  simp only [List.mem_map, List.mem_singleton]
  rintro _ ⟨_, ⟨piece, member, rfl⟩, rfl⟩ _ rfl
  exact Nat.ne_of_lt (h.offset_lt_stop piece member)

/-- A text whose first lexeme takes a slice is divided there. -/
theorem of_lexeme? {blank slice rest : List Char} {token : Token} (white : IsBlank blank)
    (found : registry.lexicon.lexeme? (slice ++ rest) = some ⟨token, slice.length⟩)
    (others : Divided registry (before ++ (blank ++ slice)) rest pieces ending) :
    Divided registry before (blank ++ (slice ++ rest))
      (⟨blank, slice, ⟨token, Text.byteLength (before ++ blank)⟩⟩ :: pieces) ending := by
  obtain ⟨first, kind, longest, hlength⟩ := longest_of_lexeme?_eq_some found
  have hfirst : first = slice := by
    rw [List.prefix_iff_eq_take.1 longest.front, ← hlength, List.take_left]
  exact .token white (hfirst ▸ longest) others

end Divided

/-! ## Moving the tokens -/

/-- Different numbers can be moved to any others. -/
theorem exists_map_eq {places : List Nat} (distinct : places.Nodup) (others : List Nat)
    (same : others.length = places.length) : ∃ move : Nat → Nat, places.map move = others := by
  refine ⟨fun place => others.getD (places.idxOf place) 0, List.ext_getElem (by simp [same]) ?_⟩
  intro index _ bound
  simp [distinct.idxOf_getElem, bound]

theorem map_moved_eq {tokens others : List Spanned} {move : Nat → Nat}
    (same : others.map Spanned.token = tokens.map Spanned.token)
    (places : (tokens.map Spanned.offset).map move = others.map Spanned.offset) :
    tokens.map (Spanned.moved move) = others := by
  induction tokens generalizing others with
  | nil => simpa using same.symm
  | cons spanned tokens ih =>
    obtain ⟨⟨token, offset⟩, others, rfl, htoken, hothers⟩ := List.map_eq_cons_iff.1 same
    rw [List.map_cons, List.map_cons, List.map_cons, List.cons.injEq] at places
    rw [List.map_cons, ih hothers places.2, Spanned.moved, places.1, ← htoken]

/-- The same tokens at other places are the tokens moved, if no two were at one place. -/
theorem exists_moved_eq {tokens others : List Spanned} {stop stop' : Nat}
    (same : others.map Spanned.token = tokens.map Spanned.token)
    (distinct : (tokens.map Spanned.offset ++ [stop]).Nodup) :
    ∃ move, (⟨others, .ok stop'⟩ : Lexed) = Lexed.moved move ⟨tokens, .ok stop⟩ := by
  have count := congrArg List.length same
  simp only [List.length_map] at count
  obtain ⟨move, hmove⟩ := exists_map_eq distinct (others.map Spanned.offset ++ [stop'])
    (by simp [count])
  rw [List.map_append] at hmove
  obtain ⟨places, hstop⟩ := List.append_inj hmove (by simp [count])
  refine ⟨move, ?_⟩
  rw [Lexed.moved, map_moved_eq same places]
  dsimp only
  rw [(List.cons.inj hstop).1]

/-! ## Layouts of one text -/

namespace Grammar

/-- **Layout does not matter**: a text that is lexed without an error is divided into slices, and
any other text with the same slices, white space around them and some of it between any two has
the same tokens up to their places, the end included. What the other text is read as, an expression
or an error, differs from what the text is read as in the places of the tokens only. -/
theorem parse_layout (registry : Registry σ) (text : String)
    (lexes : (registry.lexicon.tokens text).ending.isOk = true) :
    (∃ pieces stop, Divided registry [] text.toList pieces (.ok stop)) ∧
    ∀ pieces stop, Divided registry [] text.toList pieces (.ok stop) →
      registry.lexicon.tokens text = ⟨pieces.map Piece.spanned, .ok stop⟩ ∧
      ∀ other : String, Layout (pieces.map Piece.slice) other.toList →
        (∃ move, registry.lexicon.tokens other = (registry.lexicon.tokens text).moved move) ∧
        ∀ move, registry.lexicon.tokens other = (registry.lexicon.tokens text).moved move →
          ∀ maxDepth, parse ⟨registry, maxDepth⟩ other =
            carried move (Expr.moved move) (parse ⟨registry, maxDepth⟩ text) := by
  constructor
  · obtain ⟨pieces, ending, divided⟩ := exists_divided registry [] text.toList
    have hlexed : registry.lexicon.tokens text = ⟨pieces.map Piece.spanned, ending⟩ :=
      divided.tokensFrom_eq
    rw [hlexed] at lexes
    cases ending with
    | error e => contradiction
    | ok stop => exact ⟨pieces, stop, divided⟩
  · intro pieces stop divided
    have hlexed : registry.lexicon.tokens text = ⟨pieces.map Piece.spanned, .ok stop⟩ :=
      divided.tokensFrom_eq
    refine ⟨hlexed, fun other layout => ⟨?_, fun move hmove maxDepth => ?_⟩⟩
    · obtain ⟨pieces', stop', divided', same⟩ := layout.exists_divided divided.spells_slice []
      have hother : registry.lexicon.tokens other = ⟨pieces'.map Piece.spanned, .ok stop'⟩ :=
        divided'.tokensFrom_eq
      rw [hlexed, hother]
      exact exists_moved_eq same divided.nodup_offsets
    · show Grammar.read _ (registry.lexicon.tokens other) = _
      rw [hmove]
      exact read_moved _ _ move

/-- Without the white space, `<` and `-` are told apart because `<-` is no symbol. -/
theorem parse_layout_negated :
    ∃ move,
      (Registry.builtin : Registry Generator).lexicon.tokens " a <\n- b " =
        ((Registry.builtin : Registry Generator).lexicon.tokens "a<-b").moved move ∧
      parse ⟨(Registry.builtin : Registry Generator), 8⟩ " a <\n- b " =
        carried move (Expr.moved move)
          (parse ⟨(Registry.builtin : Registry Generator), 8⟩ "a<-b") := by
  have divided : Divided (Registry.builtin : Registry Generator) []
      ([] ++ (['a'] ++ ([] ++ (['<'] ++ ([] ++ (['-'] ++ ([] ++ (['b'] ++ []))))))))
      [⟨[], ['a'], ⟨.name "a", 0⟩⟩, ⟨[], ['<'], ⟨.operator "<", 1⟩⟩,
        ⟨[], ['-'], ⟨.operator "-", 2⟩⟩, ⟨[], ['b'], ⟨.name "b", 3⟩⟩] (.ok 4) :=
    .of_lexeme? isBlank_nil (by decide +kernel) (.of_lexeme? isBlank_nil (by decide +kernel)
      (.of_lexeme? isBlank_nil (by decide +kernel) (.of_lexeme? isBlank_nil (by decide +kernel)
        (.last (.finish isBlank_nil)))))
  have space : Text.isBlank ' ' = true := by simp [Text.isBlank]
  have newline : Text.isBlank '\n' = true := by simp [Text.isBlank]
  have layout : Layout [['a'], ['<'], ['-'], ['b']]
      ([' '] ++ (['a'] ++ ([' '] ++ (['<'] ++ (['\n'] ++ (['-'] ++ ([' '] ++ (['b'] ++
        [' '])))))))) :=
    .slice (isBlank_singleton space) (.inr ⟨' ', rfl, space⟩)
      (.slice (isBlank_singleton space) (.inr ⟨'\n', rfl, newline⟩)
        (.slice (isBlank_singleton newline) (.inr ⟨' ', rfl, space⟩)
          (.slice (isBlank_singleton space) (.inl rfl) (.finish (isBlank_singleton space)))))
  obtain ⟨-, others⟩ := parse_layout (Registry.builtin : Registry Generator) "a<-b"
    (by decide +kernel)
  obtain ⟨-, same⟩ := others _ _ divided
  obtain ⟨⟨move, hmove⟩, reads⟩ := same " a <\n- b " layout
  exact ⟨move, hmove, reads move hmove 8⟩

end Grammar

end Formulary
