/-!
# Formulary.CommandLine.Terminal

Text for a terminal, with control sequences that style it, and the text that
is left without them.

A sequence starts with the escape character. What follows says of which kind
it is and where it ends. `Terminal.plain` leaves out sequences and all other
controls, those that set text (`isSpacing`) apart, which are kept even within
some sequences.
-/

namespace Formulary.CommandLine.Terminal

/-! ## Styles -/

/-- How a part of a text is to look. -/
inductive Style
  /-- The word that says a text is about an error. -/
  | alarm
  /-- What is wrong. -/
  | faulty
  /-- What is missing. -/
  | wanted
  /-- What is to be typed as it stands. -/
  | literal
deriving DecidableEq, Repr

/-- The numbers that switch a style on. -/
def Style.codes : Style → List Nat
  | .alarm => [1, 31]
  | .faulty => [33]
  | .wanted => [32]
  | .literal => [1]

/-- The text in a style. -/
def styled (style : Style) (text : String) : String :=
  String.join (style.codes.map fun code => s!"\x1b[{code}m") ++ text ++ "\x1b[0m"

/-! ## Sequences -/

/-- Where in a sequence a terminal is. -/
inductive State
  /-- In no sequence. -/
  | ground
  /-- Behind the escape character. -/
  | escape
  /-- Before the last character of a short sequence. -/
  | short
  /-- In a control sequence, which ends with a letter. -/
  | control
  /-- In a system command, which ends with a bell. -/
  | command
  /-- At the start of a device sequence. -/
  | device
  /-- In the parameters of a device sequence. -/
  | parameters
  /-- Before the character that ends the head of a device sequence. -/
  | head
  /-- In the data of a device sequence or in a message. -/
  | data
deriving DecidableEq, Repr

/-- The character lies in a range of code points. -/
def within (c : Char) (first last : Nat) : Bool := first ≤ c.toNat && c.toNat ≤ last

/-- The character has a byte that ends the data of a sequence. -/
def hasTerminator (c : Char) : Bool := (String.utf8EncodeChar c).contains 0x9C

namespace State

/-- Where the terminal is after a character. Cancel and substitute end all sequences, and the
escape character starts a new one. -/
def next (state : State) (c : Char) : State :=
  if c == '\x18' || c == '\x1a' then ground
  else if c == '\x1b' then escape
  else match state with
    | ground => ground
    | escape =>
      if within c 0x20 0x2F then short
      else if c == '[' then control
      else if c == ']' then command
      else if c == 'P' then device
      else if c == 'X' || c == '^' || c == '_' then data
      else if within c 0x30 0x7E then ground
      else escape
    | short => if within c 0x30 0x7E then ground else short
    | control => if within c 0x40 0x7E then ground else control
    | command => if c == '\x07' then ground else command
    | device =>
      if within c 0x20 0x2F then head
      else if within c 0x30 0x3F then parameters
      else if within c 0x40 0x7E then data
      else device
    | parameters =>
      if within c 0x20 0x2F then head
      else if within c 0x3C 0x3F || within c 0x40 0x7E then data
      else parameters
    | head => if within c 0x30 0x7E then data else head
    | data => if hasTerminator c then ground else data

/-- A control that sets text: a tab, a line break, a page break or a carriage return. -/
def isSpacing (c : Char) : Bool := c == '\t' || c == '\n' || c == '\x0c' || c == '\r'

/-- The character is shown. Within a short or a control sequence, what sets text still does. -/
def shows (state : State) (c : Char) : Bool :=
  match state with
  | ground => (0x20 ≤ c.toNat && c != '\x7f') || isSpacing c
  | escape | short | control => isSpacing c
  | _ => false

end State

/-! ## Plain text -/

/-- The characters that are left. Once one is shown, so are those behind it up to the next that
is not shown outside of sequences; there the sequence goes on that was broken off, unless a
character beyond ASCII has ended it. -/
def plainFrom (state : State) (showing : Bool) : List Char → List Char
  | [] => []
  | c :: rest =>
    if showing && State.ground.shows c then
      c :: plainFrom (if c.toNat < 0x80 then state else .ground) true rest
    else if state.shows c then c :: plainFrom (state.next c) true rest
    else plainFrom (state.next c) false rest

/-- What is shown within a sequence is shown outside too. -/
theorem shows_ground {state : State} {c : Char} (h : state.shows c = true) :
    State.ground.shows c = true := by
  cases state <;> simp_all [State.shows]

/-- Nothing is left that acts upon the terminal. -/
theorem shows_of_mem_plainFrom {state : State} {showing : Bool} {text : List Char} {c : Char}
    (h : c ∈ plainFrom state showing text) : State.ground.shows c = true := by
  fun_induction plainFrom state showing text with
  | case1 => simp at h
  | case2 _ _ _ _ shown ih =>
    rcases List.mem_cons.1 h with rfl | h
    · exact (Bool.and_eq_true_iff.1 shown).2
    · exact ih h
  | case3 _ _ _ _ _ shown ih =>
    rcases List.mem_cons.1 h with rfl | h
    · exact shows_ground shown
    · exact ih h
  | case4 _ _ _ _ _ _ ih => exact ih h

/-- A character that is shown outside of sequences starts none. -/
theorem next_ground {c : Char} (h : State.ground.shows c = true) :
    State.ground.next c = .ground := by
  have notEscape : c ≠ '\x1b' := by rintro rfl; revert h; decide
  simp [State.next, notEscape]

/-- A text without controls is plain. -/
theorem plainFrom_eq_self {showing : Bool} {text : List Char}
    (h : ∀ c ∈ text, State.ground.shows c = true) : plainFrom .ground showing text = text := by
  induction text generalizing showing with
  | nil => rfl
  | cons c rest ih =>
    have shown := h c List.mem_cons_self
    have others : ∀ c ∈ rest, State.ground.shows c = true :=
      fun c member => h c (List.mem_cons_of_mem _ member)
    cases showing <;> simp [plainFrom, shown, next_ground shown, ih others]

/-- The text without control sequences. -/
def plain (text : String) : String := String.ofList (plainFrom .ground false text.toList)

end Formulary.CommandLine.Terminal
