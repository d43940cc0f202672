import Formulary.Proofs.Lexing.Division

/-!
# Formulary.Proofs.Lexing.Lookahead

A stream that can be looked ahead in is one cursor among the tokens of its text.

A stream keeps a position in the text, a token that was looked at, and a latch. What it
hands out depends on less: the tokens that are still ahead (`TokenStream.Ahead`). Looking
and taking both find the first of them; after looking the same tokens are ahead, after
taking the rest of them (`Ahead.peek`, `Ahead.next`), and at the end of the text or
before an error there is no rest to come to. A `Place` is a number of tokens and the latch,
and says what every call does in these terms. A stream and a place that start together
answer all calls alike (`TokenStream.At.log_eq`).
-/

namespace Formulary

variable {σ : Type}

/-! ## What is ahead -/

namespace Lexed

/-- The first of the tokens or, if there is none, how the text ends. -/
def first (lexed : Lexed) : Except LexError Spanned :=
  match lexed.tokens with
  | spanned :: _ => .ok spanned
  | [] => lexed.ending.map fun offset => ⟨.finish, offset⟩

/-- What is behind the first token. How a text ends has nothing behind it. -/
def rest (lexed : Lexed) : Lexed := ⟨lexed.tokens.tail, lexed.ending⟩

/-- What is behind so many tokens. -/
def drop (lexed : Lexed) (count : Nat) : Lexed := ⟨lexed.tokens.drop count, lexed.ending⟩

@[simp] theorem rest_drop (lexed : Lexed) (count : Nat) :
    (lexed.drop count).rest = lexed.drop (count + 1) := by
  simp [rest, drop]

/-- Where no token is first, there is no rest to come to. -/
theorem rest_of_first_eq_error {lexed : Lexed} {e : LexError} (h : lexed.first = .error e) :
    lexed.rest = lexed := by
  obtain ⟨tokens, ending⟩ := lexed
  cases tokens with
  | nil => rfl
  | cons spanned tokens => contradiction

end Lexed

namespace Lexicon

variable {lexicon : Lexicon} {cursor next : Cursor} {spanned : Spanned} {e : LexError}

/-- The end of the text is no lexeme. -/
theorem token_ne_finish_of_lexeme? {text : List Char} {lexeme : Lexeme}
    (h : lexicon.lexeme? text = some lexeme) : lexeme.token ≠ .finish := by
  have word (slice : String) : lexicon.wordToken slice ≠ .finish := by
    unfold wordToken
    split <;> simp
  unfold lexeme? at h
  split at h
  · contradiction
  · simp [← Option.some.inj h]
  · simp [← Option.some.inj h]
  · simp [← Option.some.inj h]
  · split at h
    · simp [← Option.some.inj h]
    · split at h
      · rw [← Option.some.inj h]
        exact word _
      · obtain ⟨symbol, -, rfl⟩ := Option.map_eq_some_iff.1 h
        simp

/-- White space is skipped once and for all. -/
theorem scan_skipBlank (lexicon : Lexicon) (cursor : Cursor) :
    lexicon.scan cursor.skipBlank = lexicon.scan cursor := by
  have again : cursor.skipBlank.skipBlank = cursor.skipBlank := by
    have solid : Shuns Text.isBlank (cursor.rest.dropWhile Text.isBlank) :=
      shuns_dropWhile Text.isBlank cursor.rest
    simp [Cursor.skipBlank, solid.takeWhile, solid.dropWhile]
  unfold scan
  rw [again]

/-- At the end of the text only white space is passed. -/
theorem scan_eq_ok_finish (h : lexicon.scan cursor = .ok (spanned, next))
    (last : spanned.token = .finish) : next = cursor.skipBlank := by
  unfold scan at h
  dsimp only at h
  split at h
  · cases h
    rfl
  · split at h
    · next hlexeme =>
      cases h
      exact absurd last (token_ne_finish_of_lexeme? hlexeme)
    · contradiction

theorem tokensFrom_of_scan_eq_error (h : lexicon.scan cursor = .error e) :
    lexicon.tokensFrom cursor = ⟨[], .error e⟩ := by
  unfold tokensFrom
  split
  · next h' =>
    rw [h] at h'
    cases h'
    rfl
  · next h' =>
    rw [h] at h'
    contradiction

theorem tokensFrom_of_scan_eq_finish (h : lexicon.scan cursor = .ok (spanned, next))
    (last : spanned.token = .finish) : lexicon.tokensFrom cursor = ⟨[], .ok spanned.offset⟩ := by
  unfold tokensFrom
  split
  · next h' =>
    rw [h] at h'
    contradiction
  · next h' =>
    rw [h] at h'
    cases h'
    rw [dif_pos last]

theorem tokensFrom_of_scan_eq_token (h : lexicon.scan cursor = .ok (spanned, next))
    (more : spanned.token ≠ .finish) :
    lexicon.tokensFrom cursor =
      ⟨spanned :: (lexicon.tokensFrom next).tokens, (lexicon.tokensFrom next).ending⟩ := by
  rw [tokensFrom]
  split
  · next h' =>
    rw [h] at h'
    contradiction
  · next h' =>
    rw [h] at h'
    cases h'
    rw [dif_neg more]

/-- What is scanned first is the first of the tokens, and behind it are the rest of them. -/
theorem tokensFrom_of_scan_eq_ok (h : lexicon.scan cursor = .ok (spanned, next)) :
    (lexicon.tokensFrom cursor).first = .ok spanned ∧
      lexicon.tokensFrom next = (lexicon.tokensFrom cursor).rest := by
  by_cases last : spanned.token = .finish
  · have hnext := scan_eq_ok_finish h last
    have again : lexicon.scan next = .ok (spanned, next) := by
      rw [hnext, scan_skipBlank, h, hnext]
    rw [tokensFrom_of_scan_eq_finish h last, tokensFrom_of_scan_eq_finish again last]
    obtain ⟨token, offset⟩ := spanned
    cases last
    exact ⟨rfl, rfl⟩
  · rw [tokensFrom_of_scan_eq_token h last]
    exact ⟨rfl, rfl⟩

end Lexicon

namespace TokenStream

/-- The stream has these tokens ahead, the first of them looked at already or not. -/
inductive Ahead : TokenStream → Lexed → Prop
  | scanned {lexicon : Lexicon} {cursor : Cursor} {lexed : Lexed}
      (tokens : lexicon.tokensFrom cursor = lexed) (exhausted : Bool) :
      Ahead ⟨lexicon, cursor, none, exhausted⟩ lexed
  | peeked {lexicon : Lexicon} {cursor : Cursor} {spanned : Spanned} {lexed : Lexed}
      (first : lexed.first = .ok spanned) (others : lexicon.tokensFrom cursor = lexed.rest)
      (exhausted : Bool) : Ahead ⟨lexicon, cursor, some spanned, exhausted⟩ lexed

namespace Ahead

variable {stream : TokenStream} {lexed : Lexed}

/-- A fresh stream has the whole text ahead. -/
theorem ofText (lexicon : Lexicon) (text : String) :
    (TokenStream.ofText lexicon text).Ahead (lexicon.tokens text) :=
  .scanned rfl false

/-- Taking finds the first of the tokens and leaves the rest. The latch has no part in it. -/
theorem next (h : stream.Ahead lexed) :
    ∃ cursor, stream.next = (lexed.first, ⟨stream.lexicon, cursor, none, stream.exhausted⟩) ∧
      stream.lexicon.tokensFrom cursor = lexed.rest := by
  -- What was looked at is handed out; else it is scanned, and an error leaves the cursor where it
  -- is found again.
  cases h with
  | @peeked lexicon cursor spanned lexed first others exhausted =>
    rw [first]
    exact ⟨cursor, rfl, others⟩
  | @scanned lexicon cursor lexed tokens exhausted =>
    rw [← tokens]
    cases hscan : lexicon.scan cursor with
    | error e =>
      have again : lexicon.tokensFrom cursor.skipBlank = ⟨[], .error e⟩ :=
        Lexicon.tokensFrom_of_scan_eq_error ((lexicon.scan_skipBlank cursor).trans hscan)
      rw [Lexicon.tokensFrom_of_scan_eq_error hscan]
      exact ⟨cursor.skipBlank, by simp [TokenStream.next, hscan, Lexed.first, Except.map], again⟩
    | ok scanned =>
      obtain ⟨spanned, behind⟩ := scanned
      obtain ⟨first, others⟩ := Lexicon.tokensFrom_of_scan_eq_ok hscan
      rw [first]
      exact ⟨behind, by simp [TokenStream.next, hscan], others⟩

/-- Looking finds the first of the tokens and leaves them all. -/
theorem peek (h : stream.Ahead lexed) :
    stream.peek.1 = lexed.first ∧ stream.peek.2.Ahead lexed ∧
      stream.peek.2.exhausted = stream.exhausted := by
  obtain ⟨cursor, hnext, tokens⟩ := h.next
  unfold TokenStream.peek
  rw [hnext]
  cases first : lexed.first with
  | error e =>
    rw [Lexed.rest_of_first_eq_error first] at tokens
    exact ⟨rfl, .scanned tokens _, rfl⟩
  | ok spanned => exact ⟨rfl, .peeked first tokens _, rfl⟩

end Ahead

/-! ## Calls -/

/-- A call of a stream. -/
inductive Call
  /-- Take the next token. -/
  | next
  /-- Look at the next token. -/
  | peek
  /-- Take the next item. -/
  | item
deriving DecidableEq, Repr

/-- What a call answers: a token, the end, an error or, of items, nothing. -/
abbrev Answer := Option (Except LexError Spanned)

/-- What a stream answers to a call, and what the call leaves of the stream. -/
def call (stream : TokenStream) : Call → Answer × TokenStream
  | .next => (some stream.next.1, stream.next.2)
  | .peek => (some stream.peek.1, stream.peek.2)
  | .item => stream.item?

/-- The calls with their answers. -/
def log {α : Type} (respond : α → Call → Answer × α) (state : α) :
    List Call → List (Call × Answer)
  | [] => []
  | call :: calls => (call, (respond state call).1) :: log respond (respond state call).2 calls

/-- What the calls leave. -/
def after {α : Type} (respond : α → Call → Answer × α) (state : α) (calls : List Call) : α :=
  calls.foldl (fun state call => (respond state call).2) state

/-- The token that a call has taken. -/
def taken? : Call × Answer → Option Spanned
  | (.next, some (.ok spanned)) | (.item, some (.ok spanned)) =>
    if spanned.token = .finish then none else some spanned
  | _ => none

end TokenStream

/-! ## Places -/

open TokenStream (Call Answer)

/-- A place among the tokens of a text. -/
structure Place where
  /-- The number of tokens before it. -/
  count : Nat
  /-- The end or an error was handed out as the last item. -/
  latched : Bool
deriving DecidableEq, Repr

namespace Place

/-- The place before all tokens. -/
def start : Place := ⟨0, false⟩

/-- What stands at the place: a token or, behind all of them, how the text ends. -/
def here (lexed : Lexed) (place : Place) : Except LexError Spanned :=
  (lexed.drop place.count).first

/-- The place behind the next token, if there is one. -/
def advance (lexed : Lexed) (place : Place) : Place :=
  { place with count := min (place.count + 1) lexed.tokens.length }

/-- The same place, with no items to come. -/
def latch (place : Place) : Place := { place with latched := true }

/-- What a call answers at the place, and the place that it leads to. -/
def call (lexed : Lexed) (place : Place) : Call → Answer × Place
  | .peek => (some (place.here lexed), place)
  | .next => (some (place.here lexed), place.advance lexed)
  | .item =>
    if place.latched then (none, place)
    else
      match place.here lexed with
      | .error e => (some (.error e), place.latch)
      | .ok spanned =>
        if spanned.token = .finish then (none, place.latch)
        else (some (.ok spanned), place.advance lexed)

variable {lexed : Lexed} {place : Place}

theorem count_advance_le : (place.advance lexed).count ≤ lexed.tokens.length :=
  Nat.min_le_right _ _

theorem drop_advance : lexed.drop (place.advance lexed).count = (lexed.drop place.count).rest := by
  rw [Lexed.rest_drop]
  unfold Lexed.drop
  have count : (place.advance lexed).count = min (place.count + 1) lexed.tokens.length := rfl
  by_cases more : place.count < lexed.tokens.length
  · rw [count, Nat.min_eq_left more]
  · rw [List.drop_eq_nil_of_le (by omega), List.drop_eq_nil_of_le (by omega)]

/-- Either a token stands at the place, or all of them are before it, and there is nothing to
advance to. -/
theorem token_or_end (within : place.count ≤ lexed.tokens.length) :
    (∃ spanned, lexed.tokens[place.count]? = some spanned ∧ place.here lexed = .ok spanned ∧
      place.advance lexed = { place with count := place.count + 1 }) ∨
    (place.here lexed = lexed.ending.map (fun offset => ⟨.finish, offset⟩) ∧
      place.advance lexed = place) := by
  rcases Nat.lt_or_eq_of_le within with more | behind
  · refine .inl ⟨lexed.tokens[place.count], List.getElem?_eq_getElem more, ?_, ?_⟩
    · rw [here, Lexed.first, Lexed.drop, List.drop_eq_getElem_cons more]
    · rw [advance, Nat.min_eq_left more]
  · refine .inr ⟨?_, ?_⟩
    · simp [here, Lexed.first, Lexed.drop, behind]
    · obtain ⟨count, latched⟩ := place
      simp only at behind
      rw [advance, behind, Nat.min_eq_right (Nat.le_succ _)]

end Place

/-! ## A stream is at a place -/

/-- The stream has the tokens behind the place ahead, none of which is the end of the text. -/
structure TokenStream.At (stream : TokenStream) (lexed : Lexed) (place : Place) : Prop where
  ahead : stream.Ahead (lexed.drop place.count)
  latched : stream.exhausted = place.latched
  within : place.count ≤ lexed.tokens.length
  more : ∀ spanned ∈ lexed.tokens, spanned.token ≠ .finish

namespace TokenStream.At

variable {stream : TokenStream} {lexed : Lexed} {place : Place}

/-- Taking a token answers with the one at the place and goes on by one. -/
theorem next (h : stream.At lexed place) :
    stream.next.1 = place.here lexed ∧ stream.next.2.At lexed (place.advance lexed) := by
  obtain ⟨cursor, hnext, tokens⟩ := h.ahead.next
  rw [hnext]
  refine ⟨rfl, ?_, h.latched, Place.count_advance_le, h.more⟩
  rw [Place.drop_advance]
  exact .scanned tokens _

/-- Peeking answers with the token at the place and stays there. -/
theorem peek (h : stream.At lexed place) :
    stream.peek.1 = place.here lexed ∧ stream.peek.2.At lexed place := by
  obtain ⟨first, ahead, latch⟩ := h.ahead.peek
  exact ⟨first, ahead, latch.trans h.latched, h.within, h.more⟩

/-- After the last item the stream stays where it is. -/
theorem exhaust (h : stream.At lexed place) :
    TokenStream.At { stream with exhausted := true } lexed place.latch where
  ahead := by
    cases h.ahead with
    | scanned tokens => exact .scanned tokens true
    | peeked first others => exact .peeked first others true
  latched := rfl
  within := h.within
  more := h.more

/-- The iterator answers with what comes at the place, and ends behind an error or the last
token. -/
theorem item (h : stream.At lexed place) :
    stream.item?.1 = (place.call lexed .item).1 ∧
      stream.item?.2.At lexed (place.call lexed .item).2 := by
  obtain ⟨first, behind⟩ := h.next
  unfold TokenStream.item? Place.call
  rw [h.latched]
  cases latched : place.latched with
  | true => exact ⟨rfl, h⟩
  | false =>
    cases hnext : stream.next with
    | mk answer after =>
      rw [hnext] at first behind
      dsimp only at first behind ⊢
      rcases Place.token_or_end h.within with ⟨spanned, hget, hhere, -⟩ | ⟨hhere, stays⟩
      · have more := h.more spanned (List.mem_of_getElem? hget)
        rw [hhere] at first ⊢
        simp only [first, more, Bool.false_eq_true, if_false]
        exact ⟨trivial, behind⟩
      · rw [stays] at behind
        rw [hhere] at first ⊢
        cases hending : lexed.ending with
        | error e =>
          rw [hending] at first
          rw [first]
          exact ⟨rfl, behind.exhaust⟩
        | ok offset =>
          rw [hending] at first
          rw [first]
          exact ⟨rfl, behind.exhaust⟩

/-- What one call preserves: both answer alike, and the stream is where the place is. -/
theorem call (h : stream.At lexed place) (call : Call) :
    (stream.call call).1 = (place.call lexed call).1 ∧
      (stream.call call).2.At lexed (place.call lexed call).2 := by
  cases call with
  | next =>
    obtain ⟨first, behind⟩ := h.next
    exact ⟨congrArg some first, behind⟩
  | peek =>
    obtain ⟨first, behind⟩ := h.peek
    exact ⟨congrArg some first, behind⟩
  | item => exact h.item

/-- What a run preserves. -/
theorem log_eq (h : stream.At lexed place) (calls : List Call) :
    log TokenStream.call stream calls = log (Place.call lexed) place calls := by
  induction calls generalizing stream place with
  | nil => rfl
  | cons first calls ih =>
    obtain ⟨answer, behind⟩ := h.call first
    rw [log, log, answer, ih behind]

end TokenStream.At

/-! ## Runs of calls -/

namespace Place

open TokenStream (log after taken?)

variable {lexed : Lexed} {place : Place}

/-- Looking has no part in what the other calls answer. -/
theorem filter_log (place : Place) (calls : List Call) :
    (log (Place.call lexed) place calls).filter (fun entry => entry.1 ≠ .peek) =
      log (Place.call lexed) place (calls.filter fun call => call ≠ .peek) := by
  induction calls generalizing place with
  | nil => rfl
  | cons first calls ih =>
    cases first with
    | peek => simpa [log, Place.call] using ih place
    | next => simpa [log] using ih _
    | item => simpa [log] using ih _

/-- A call takes the tokens between the place before it and the place after it, which is one or
none. -/
theorem take_append_taken? (within : place.count ≤ lexed.tokens.length)
    (more : ∀ spanned ∈ lexed.tokens, spanned.token ≠ .finish) (call : Call) :
    lexed.tokens.take place.count ++ (taken? (call, (place.call lexed call).1)).toList =
      lexed.tokens.take (place.call lexed call).2.count := by
  rcases token_or_end within with ⟨spanned, hget, hhere, moves⟩ | ⟨hhere, stays⟩
  · have htoken := more spanned (List.mem_of_getElem? hget)
    cases call with
    | peek => simp [Place.call, taken?]
    | next => simp [Place.call, taken?, hhere, moves, htoken, List.take_add_one, hget]
    | item =>
      cases latched : place.latched <;>
        simp [Place.call, taken?, hhere, moves, htoken, latched, List.take_add_one, hget]
  · cases hending : lexed.ending <;> cases call <;> cases latched : place.latched <;>
      simp [Place.call, taken?, hhere, stays, hending, latched, Except.map, latch]

theorem count_call_le (within : place.count ≤ lexed.tokens.length) (call : Call) :
    (place.call lexed call).2.count ≤ lexed.tokens.length := by
  cases call with
  | next => exact count_advance_le
  | peek => exact within
  | item =>
    simp only [Place.call]
    split
    · exact within
    · split
      · exact within
      · split
        · exact within
        · exact count_advance_le

/-- A run takes the tokens between the place before it and the place after it, each once and in
order. -/
theorem take_append_filterMap_taken? (within : place.count ≤ lexed.tokens.length)
    (more : ∀ spanned ∈ lexed.tokens, spanned.token ≠ .finish) (calls : List Call) :
    lexed.tokens.take place.count ++ (log (Place.call lexed) place calls).filterMap taken? =
      lexed.tokens.take (after (Place.call lexed) place calls).count := by
  induction calls generalizing place with
  | nil => simp [log, after]
  | cons first calls ih =>
    have hfirst := take_append_taken? within more first
    have hrest := ih (count_call_le within first)
    rw [← hfirst] at hrest
    rw [after, List.foldl_cons, ← after, ← hrest, log, List.append_assoc]
    cases htaken : taken? (first, (place.call lexed first).1) <;> simp [htaken]

end Place

/-! ## The stream of a text -/

/-- A text that has an end ends behind its last byte. -/
theorem Registry.ending_eq_byteLength (registry : Registry σ) {text : String} {offset : Nat}
    (h : (registry.lexicon.tokens text).ending = .ok offset) :
    offset = Text.byteLength text.toList := by
  obtain ⟨pieces, ending, divided⟩ := exists_divided registry [] text.toList
  have hlexed : registry.lexicon.tokens text = ⟨pieces.map Piece.spanned, ending⟩ :=
    divided.tokensFrom_eq
  rw [hlexed] at h
  cases h
  obtain ⟨tail, covers, ends⟩ := divided.exists_tail
  cases ends with
  | finish white => rw [covers, List.nil_append]

namespace TokenStream

/-- **A stream is one cursor.** However looking, taking tokens and taking items are mixed, a
stream of the tokens of a text answers as a place among these tokens does, whose end is the end of
the text. So looking changes nothing for the other calls, and the tokens that they take are those
up to the place, each of them once and in order. -/
theorem log_ofText (registry : Registry σ) (text : String) (calls : List Call) :
    let lexed := registry.lexicon.tokens text
    let stream := ofText registry.lexicon text
    let entries := log TokenStream.call stream calls
    (∀ offset, lexed.ending = .ok offset → offset = Text.byteLength text.toList) ∧
    entries = log (Place.call lexed) .start calls ∧
    entries.filter (fun entry => entry.1 ≠ .peek) =
      log TokenStream.call stream (calls.filter fun call => call ≠ .peek) ∧
    entries.filterMap taken? =
      lexed.tokens.take (after (Place.call lexed) .start calls).count := by
  intro lexed stream entries
  have more : ∀ spanned ∈ lexed.tokens, spanned.token ≠ .finish := by
    intro spanned member
    obtain ⟨kind, slice, spells⟩ :=
      Lexicon.exists_spells registry text _ (List.mem_map_of_mem member)
    exact spells.ne_finish
  have start : stream.At lexed .start := ⟨.ofText _ _, rfl, Nat.zero_le _, more⟩
  have same (calls : List Call) :
      log TokenStream.call stream calls = log (Place.call lexed) .start calls := start.log_eq calls
  refine ⟨fun offset => registry.ending_eq_byteLength, same calls, ?_, ?_⟩
  · rw [same, ← Place.filter_log]
    exact congrArg _ (same calls)
  · rw [← Place.take_append_filterMap_taken? (Nat.zero_le _) more]
    exact congrArg _ (same calls)

end TokenStream

end Formulary
