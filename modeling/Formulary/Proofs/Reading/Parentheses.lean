import Mathlib.Data.List.Induction
import Formulary.Proofs.Reading.Moves

/-!
# Formulary.Proofs.Reading.Parentheses

Which parentheses of a text are open.

Going through tokens from the left, every opening parenthesis is put behind those that are open,
and every closing one takes the last of them away (`unclosed?`). Tokens that leave nothing open
nowhere reach below what was open before them (`Balanced`). The tokens of a tree are of this kind,
so what a reading has begun leaves open just the parentheses that its constructs have open, and a
descent carries the same offsets with it wherever it comes to.
-/

namespace Formulary

variable {σ : Type}

/-! ## Matching parentheses -/

/-- The open parentheses behind a token, innermost last, by their offsets. A parenthesis that
closes must have one to close. -/
def Spanned.open? (openings : List Nat) (spanned : Spanned) : Option (List Nat) :=
  match spanned.token with
  | .leftParen => some (openings ++ [spanned.offset])
  | .rightParen => if openings = [] then none else some openings.dropLast
  | _ => some openings

/-- The parentheses that the tokens open and do not close, innermost last, by their offsets. There
are none to speak of if the tokens close a parenthesis that they have not opened. -/
def unclosed? (spans : List Spanned) : Option (List Nat) := spans.foldlM Spanned.open? []

/-- The tokens close what they open, and nothing else. -/
def Balanced (spans : List Spanned) : Prop := unclosed? spans = some []

instance (spans : List Spanned) : Decidable (Balanced spans) :=
  inferInstanceAs (Decidable (unclosed? spans = some []))

section Matching

variable {spans front behind : List Spanned} {openings openings' outer : List Nat}
  {spanned : Spanned}

/-- The parentheses of a text are followed in its front and then in the rest. -/
theorem unclosed?_append (front behind : List Spanned) :
    unclosed? (front ++ behind) = unclosed? front >>= behind.foldlM Spanned.open? := by
  rw [unclosed?, List.foldlM_append]
  rfl

theorem unclosed?_append_singleton (front : List Spanned) (spanned : Spanned) :
    unclosed? (front ++ [spanned]) =
      unclosed? front >>= fun openings => spanned.open? openings := by
  rw [unclosed?_append]
  simp

/-- Parentheses that are open further out make no difference. -/
theorem Spanned.open?_append (outer : List Nat) (h : spanned.open? openings = some openings') :
    spanned.open? (outer ++ openings) = some (outer ++ openings') := by
  obtain ⟨token, offset⟩ := spanned
  cases token with
  | leftParen =>
    cases h
    simp [open?]
  | rightParen =>
    simp only [open?] at h ⊢
    split at h
    · contradiction
    · next some_open =>
      cases h
      rw [if_neg (by simp [some_open]), List.dropLast_append_of_ne_nil some_open]
  | _ =>
    cases h
    rfl

/-- What is open around some tokens stays open through them. -/
theorem foldlM_open?_append (outer : List Nat)
    (h : spans.foldlM Spanned.open? openings = some openings') :
    spans.foldlM Spanned.open? (outer ++ openings) = some (outer ++ openings') := by
  induction spans generalizing openings with
  | nil =>
    cases h
    rfl
  | cons spanned spans ih =>
    rw [List.foldlM_cons] at h ⊢
    obtain ⟨middle, hfirst, hrest⟩ := Option.bind_eq_some_iff.1 h
    rw [Spanned.open?_append outer hfirst]
    exact ih hrest

/-- Balanced tokens leave open what was open before them. -/
theorem Balanced.unclosed?_append (balanced : Balanced behind)
    (h : unclosed? front = some openings) : unclosed? (front ++ behind) = some openings := by
  have inside : behind.foldlM Spanned.open? [] = some [] := balanced
  have := foldlM_open?_append openings inside
  rw [List.append_nil] at this
  rw [Formulary.unclosed?_append, h]
  exact this

theorem balanced_nil : Balanced [] := rfl

theorem Balanced.append (first : Balanced front) (second : Balanced behind) :
    Balanced (front ++ behind) :=
  second.unclosed?_append first

/-- Tokens that are no parentheses leave all as it is. -/
theorem balanced_singleton (left : spanned.token ≠ .leftParen)
    (right : spanned.token ≠ .rightParen) : Balanced [spanned] := by
  obtain ⟨token, offset⟩ := spanned
  cases token with
  | leftParen | rightParen => contradiction
  | _ => rfl

/-- A token that is no parenthesis leaves open what is open. -/
theorem unclosed?_append_token (h : unclosed? front = some openings) (spanned : Spanned)
    (left : spanned.token ≠ .leftParen) (right : spanned.token ≠ .rightParen) :
    unclosed? (front ++ [spanned]) = some openings :=
  (balanced_singleton left right).unclosed?_append h

/-- A parenthesis that opens is the last one to be open. -/
theorem unclosed?_append_leftParen (h : unclosed? front = some openings) (opening : Nat) :
    unclosed? (front ++ [⟨.leftParen, opening⟩]) = some (openings ++ [opening]) := by
  rw [unclosed?_append_singleton, h]
  rfl

/-- A parenthesis that closes closes the last open one. -/
theorem unclosed?_append_rightParen {closing : Nat} (h : unclosed? front = some openings)
    (some_open : openings ≠ []) :
    unclosed? (front ++ [⟨.rightParen, closing⟩]) = some openings.dropLast := by
  rw [unclosed?_append_singleton, h]
  simp [Spanned.open?, some_open]

/-- Balanced tokens in parentheses are balanced. -/
theorem Balanced.parens (inside : Balanced spans) (opening closing : Nat) :
    Balanced (⟨.leftParen, opening⟩ :: (spans ++ [⟨.rightParen, closing⟩])) := by
  have hopen : unclosed? ([⟨.leftParen, opening⟩] ++ spans) = some [opening] :=
    inside.unclosed?_append rfl
  exact unclosed?_append_rightParen hopen (by simp)

/-- Between the parentheses that stay open, the tokens are balanced. -/
inductive Layers : List Nat → List Spanned → Prop
  | balanced {spans : List Spanned} (balanced : Balanced spans) : Layers [] spans
  | opening {outer : List Nat} {front behind : List Spanned} (before : Layers outer front)
      (opening : Nat) (balanced : Balanced behind) :
      Layers (outer ++ [opening]) (front ++ ⟨.leftParen, opening⟩ :: behind)

/-- Balanced tokens behind the layers leave the same parentheses open. -/
theorem Layers.append (layers : Layers openings front) (balanced : Balanced behind) :
    Layers openings (front ++ behind) := by
  cases layers with
  | balanced first => exact .balanced (first.append balanced)
  | opening before opening inner =>
    have := before.opening opening (inner.append balanced)
    simpa using this

/-- What stays open has balanced tokens between. -/
theorem layers_of_unclosed? (h : unclosed? spans = some openings) : Layers openings spans := by
  -- A parenthesis that closes undoes the last layer, so the tokens are taken from the right.
  induction spans using List.reverseRecOn generalizing openings with
  | nil =>
    cases h
    exact .balanced balanced_nil
  | append_singleton front spanned ih =>
    rw [unclosed?_append_singleton] at h
    obtain ⟨before, hfront, hopen⟩ := Option.bind_eq_some_iff.1 h
    have layers := ih hfront
    obtain ⟨token, offset⟩ := spanned
    cases token with
    | leftParen =>
      cases hopen
      exact layers.opening offset balanced_nil
    | rightParen =>
      simp only [Spanned.open?] at hopen
      split at hopen
      · contradiction
      · next some_open =>
        cases hopen
        cases layers with
        | balanced => contradiction
        | opening outer opening inner =>
          rw [List.dropLast_concat, List.append_assoc]
          exact outer.append (inner.parens opening offset)
    | _ =>
      cases hopen
      exact layers.append rfl

/-- The parentheses between the layers are the open ones. -/
theorem Layers.unclosed?_eq (layers : Layers openings spans) : unclosed? spans = some openings := by
  induction layers with
  | balanced balanced => exact balanced
  | opening before opening balanced ih =>
    have hopen := unclosed?_append_leftParen ih opening
    have := balanced.unclosed?_append hopen
    simpa using this

/-- The innermost parenthesis that stays open has balanced tokens behind it. -/
theorem exists_of_unclosed?_eq_append {opening : Nat}
    (h : unclosed? spans = some (outer ++ [opening])) :
    ∃ front behind, spans = front ++ ⟨.leftParen, opening⟩ :: behind ∧
      unclosed? front = some outer ∧ Balanced behind := by
  generalize hopenings : outer ++ [opening] = openings at h
  cases layers_of_unclosed? h with
  | balanced => simp at hopenings
  | opening before other balanced =>
    obtain ⟨rfl, hother⟩ := List.append_inj' hopenings rfl
    cases hother
    exact ⟨_, _, rfl, before.unclosed?_eq, balanced⟩

end Matching

/-! ## Arguments -/

/-- The commas that are in no parentheses which the tokens open, `depth` being the number of those
that are open before them. -/
def outerCommas (depth : Nat) : List Spanned → Nat
  | [] => 0
  | spanned :: spans =>
    match spanned.token with
    | .leftParen => outerCommas (depth + 1) spans
    | .rightParen => outerCommas (depth - 1) spans
    | .comma => outerCommas depth spans + if depth = 0 then 1 else 0
    | _ => outerCommas depth spans

/-- The number of arguments between the parentheses of a call: one more than there are commas, if
there is anything at all. -/
def argumentsIn (spans : List Spanned) : Nat :=
  if spans = [] then 0 else outerCommas 0 spans + 1

/-- Parentheses match, and commas are in parentheses, except where they may be outside. -/
inductive WellNested : Bool → List Spanned → Prop
  | nil {commas : Bool} : WellNested commas []
  | token {commas : Bool} {spanned : Spanned} (left : spanned.token ≠ .leftParen)
      (right : spanned.token ≠ .rightParen) (comma : spanned.token ≠ .comma) :
      WellNested commas [spanned]
  | comma (between : Nat) : WellNested true [⟨.comma, between⟩]
  | append {commas : Bool} {front behind : List Spanned} (first : WellNested commas front)
      (second : WellNested commas behind) : WellNested commas (front ++ behind)
  | parens {commas : Bool} {inner : List Spanned} (inside : WellNested true inner)
      (opening closing : Nat) :
      WellNested commas (⟨.leftParen, opening⟩ :: (inner ++ [⟨.rightParen, closing⟩]))

namespace WellNested

variable {commas : Bool} {spans : List Spanned}

/-- What is well nested is balanced. -/
theorem balanced (h : WellNested commas spans) : Balanced spans := by
  induction h with
  | nil => exact balanced_nil
  | token left right => exact balanced_singleton left right
  | comma between => exact balanced_singleton (by simp) (by simp)
  | append _ _ first second => exact first.append second
  | parens _ opening closing inside => exact inside.parens opening closing

/-- A token that is neither a parenthesis nor a comma may come first. -/
theorem cons_token {spanned : Spanned} (h : WellNested commas spans)
    (left : spanned.token ≠ .leftParen) (right : spanned.token ≠ .rightParen)
    (comma : spanned.token ≠ .comma) : WellNested commas (spanned :: spans) :=
  .append (.token left right comma) h

/-- Commas may well be in parentheses. -/
theorem loosen (h : WellNested commas spans) : WellNested true spans := by
  induction h with
  | nil => exact .nil
  | token left right comma => exact .token left right comma
  | comma between => exact .comma between
  | append _ _ first second => exact .append first second
  | parens inside opening closing => exact .parens inside opening closing

/-- Tokens count their commas, whatever is behind them. -/
theorem outerCommas_append (h : WellNested commas spans) (depth : Nat) (behind : List Spanned) :
    outerCommas depth (spans ++ behind) = outerCommas depth spans + outerCommas depth behind := by
  induction h generalizing depth behind with
  | nil => simp [outerCommas]
  | @token _ spanned left right comma =>
    obtain ⟨token, offset⟩ := spanned
    cases token with
    | leftParen | rightParen | comma => contradiction
    | _ => simp [outerCommas]
  | comma between => simp only [List.singleton_append, outerCommas]; omega
  | append _ _ first second =>
    rw [List.append_assoc, first, second, first]
    omega
  | parens _ opening closing inside =>
    simp only [List.cons_append, List.append_assoc, outerCommas, inside, List.nil_append,
      Nat.add_sub_cancel]
    omega

/-- Commas that may not be outside are in parentheses. -/
theorem outerCommas_eq_zero (h : WellNested commas spans) (depth : Nat)
    (covered : commas = true → 0 < depth) : outerCommas depth spans = 0 := by
  induction h generalizing depth with
  | nil => rfl
  | @token _ spanned left right comma =>
    obtain ⟨token, offset⟩ := spanned
    cases token with
    | leftParen | rightParen | comma => contradiction
    | _ => rfl
  | comma between =>
    have := covered rfl
    simp only [outerCommas]
    rw [if_neg (by omega)]
  | append first _ ihf ihs => rw [first.outerCommas_append, ihf depth covered, ihs depth covered]
  | parens inner opening closing ih =>
    simp only [outerCommas, inner.outerCommas_append, ih (depth + 1) fun _ => Nat.succ_pos depth]

end WellNested

/-! ## Trees -/

namespace Bracketed

/-- The tokens of the arguments behind the first, each with its comma. -/
theorem wellNested_tokensRest {args : List Bracketed}
    (ih : ∀ arg ∈ args, ∀ {spans : List Spanned}, spans.map Spanned.token = arg.tokens →
      WellNested false spans)
    {spans : List Spanned} (h : spans.map Spanned.token = tokensRest args) :
    WellNested true spans := by
  induction args generalizing spans with
  | nil =>
    rw [tokensRest, List.map_eq_nil_iff] at h
    subst h
    exact .nil
  | cons arg args iht =>
    rw [tokensRest, List.map_eq_cons_iff] at h
    obtain ⟨⟨token, between⟩, rest, rfl, hcomma, hrest⟩ := h
    obtain ⟨first, others, rfl, hfirst, hothers⟩ := List.map_eq_append_iff.1 hrest
    cases hcomma
    have hbehind := iht (fun other member => ih other (List.mem_cons_of_mem _ member)) hothers
    exact .append (.comma between) (.append (ih arg List.mem_cons_self hfirst).loosen hbehind)

/-- Tokens in parentheses, by what they are. -/
theorem wellNested_parens {commas : Bool} {spans : List Spanned} (tokens : List Token)
    (inside : ∀ {inner : List Spanned}, inner.map Spanned.token = tokens → WellNested true inner)
    (h : spans.map Spanned.token = .leftParen :: (tokens ++ [.rightParen])) :
    WellNested commas spans := by
  obtain ⟨⟨left, opening⟩, rest, rfl, hleft, hrest⟩ := List.map_eq_cons_iff.1 h
  obtain ⟨inner, last, rfl, hinner, hlast⟩ := List.map_eq_append_iff.1 hrest
  obtain ⟨⟨right, closing⟩, rfl, hright⟩ := List.map_eq_singleton_iff.1 hlast
  cases hleft
  cases hright
  exact .parens (inside hinner) opening closing

/-- The tokens of a tree match their parentheses, and their commas are between these. -/
theorem wellNested_of_tokens (tree : Bracketed) {spans : List Spanned}
    (h : spans.map Spanned.token = tree.tokens) : WellNested false spans := by
  induction tree generalizing spans with
  | constant value | var name =>
    obtain ⟨spanned, rfl, htoken⟩ := List.map_eq_singleton_iff.1 h
    exact .token (by simp [htoken]) (by simp [htoken]) (by simp [htoken])
  | unary symbol operand ih =>
    obtain ⟨spanned, rest, rfl, htoken, hrest⟩ := List.map_eq_cons_iff.1 h
    exact (ih hrest).cons_token (by simp [htoken]) (by simp [htoken]) (by simp [htoken])
  | binary symbol left right ihl ihr =>
    obtain ⟨lefts, rest, rfl, hleft, hrest⟩ := List.map_eq_append_iff.1 h
    obtain ⟨spanned, rights, rfl, htoken, hright⟩ := List.map_eq_cons_iff.1 hrest
    exact .append (ihl hleft)
      ((ihr hright).cons_token (by simp [htoken]) (by simp [htoken]) (by simp [htoken]))
  | ternary symbol separator condition ifTrue ifFalse ihc iht ihf =>
    obtain ⟨conditions, rest, rfl, hcondition, hrest⟩ := List.map_eq_append_iff.1 h
    obtain ⟨spanned, rest, rfl, htoken, hbranches⟩ := List.map_eq_cons_iff.1 hrest
    obtain ⟨trues, rest, rfl, htrue, hlast⟩ := List.map_eq_append_iff.1 hbranches
    obtain ⟨between, falses, rfl, hbetween, hfalse⟩ := List.map_eq_cons_iff.1 hlast
    have last : WellNested false (between :: falses) := (ihf hfalse).cons_token
      (by simp [hbetween]) (by simp [hbetween]) (by simp [hbetween])
    exact .append (ihc hcondition) (((iht htrue).append last).cons_token (by simp [htoken])
      (by simp [htoken]) (by simp [htoken]))
  | call name args ih =>
    cases args with
    | nil =>
      obtain ⟨spanned, rest, rfl, htoken, hrest⟩ := List.map_eq_cons_iff.1 h
      have parens : WellNested false rest := wellNested_parens []
        (fun hinner => by
          rw [List.map_eq_nil_iff.1 hinner]
          exact .nil) hrest
      exact parens.cons_token (by simp [htoken]) (by simp [htoken]) (by simp [htoken])
    | cons arg args =>
      obtain ⟨spanned, rest, rfl, htoken, hrest⟩ := List.map_eq_cons_iff.1 h
      have parens : WellNested false rest := wellNested_parens _ (fun hinner => by
          obtain ⟨first, others, rfl, hfirst, hothers⟩ := List.map_eq_append_iff.1 hinner
          exact .append (ih arg List.mem_cons_self hfirst).loosen (wellNested_tokensRest
            (fun other member => ih other (List.mem_cons_of_mem _ member)) hothers)) hrest
      exact parens.cons_token (by simp [htoken]) (by simp [htoken]) (by simp [htoken])
  | group inner ih => exact wellNested_parens _ (fun hinner => (ih hinner).loosen) h

namespace ReadsArgs

variable {args : List Bracketed} {spans : List Spanned} {subtrees : List Subtree}

/-- The tokens of arguments are well nested, with the commas between them. -/
theorem wellNested (h : ReadsArgs args spans subtrees) : WellNested true spans := by
  induction h with
  | first reads => exact (wellNested_of_tokens _ reads.tokens).loosen
  | next _ between reads ih =>
    exact ih.append (.append (.comma between) (wellNested_of_tokens _ reads.tokens).loosen)

/-- Between the arguments there is one comma less. -/
theorem outerCommas_eq (h : ReadsArgs args spans subtrees) :
    outerCommas 0 spans + 1 = args.length := by
  induction h with
  | first reads =>
    rw [(wellNested_of_tokens _ reads.tokens).outerCommas_eq_zero 0 (by simp)]
    rfl
  | next before between reads ih =>
    rw [before.wellNested.outerCommas_append]
    simp only [outerCommas, if_true, List.length_append, List.length_singleton,
      (wellNested_of_tokens _ reads.tokens).outerCommas_eq_zero 0 (by simp)]
    omega

theorem ne_nil (h : ReadsArgs args spans subtrees) : spans ≠ [] := by
  cases h with
  | @first arg _ _ reads =>
    have some_token := Nat.lt_of_lt_of_le arg.levels_pos arg.levels_le_length_tokens
    rw [← reads.tokens, List.length_map] at some_token
    exact List.length_pos_iff.1 some_token
  | next => simp

/-- Counting the commas that stand in no parentheses counts the arguments. -/
theorem argumentsIn_eq (h : ReadsArgs args spans subtrees) : argumentsIn spans = args.length := by
  rw [argumentsIn, if_neg h.ne_nil, h.outerCommas_eq]

end ReadsArgs

/-! ## What a reading has begun -/

variable {registry : Registry σ} {pending : List Construct} {before : List Spanned}

/-- The tokens of an operand are balanced. -/
theorem Operand.balanced {tree : Bracketed} {spans : List Spanned} {subtree : Subtree}
    (operand : tree.Operand registry spans subtree) : Balanced spans :=
  (wellNested_of_tokens tree operand.reads.tokens).balanced

/-- An operand and the operator behind it. -/
theorem Taken.balanced {operator : Operator σ} {tree : Bracketed} {spans : List Spanned}
    {subtree : Subtree} (taken : tree.Taken registry pending operator spans subtree)
    (symbol : String) (offset : Nat) : Balanced (spans ++ [⟨.operator symbol, offset⟩]) :=
  taken.toOperand.balanced.append rfl

/-- What a reading has begun leaves open the parentheses that the constructs have open. -/
theorem Begun.unclosed?_eq (begun : Begun registry pending before) :
    unclosed? before = some (Reading.openings pending).reverse := by
  induction begun with
  | nil => rfl
  | unary _ _ offset ih => exact unclosed?_append_token ih _ (by simp) (by simp)
  | binary _ _ taken offset ih | ternary _ _ _ _ taken offset ih =>
    exact (taken.balanced _ offset).unclosed?_append ih
  | @alternative _ _ _ _ symbol separator _ _ _ _ _ _ _ _ _ taken first offset between ih =>
    have branch : Balanced (_ ++ [⟨.operator separator, between⟩]) := first.balanced.append rfl
    have balanced := (taken.balanced symbol offset).append branch
    rw [List.append_assoc] at balanced
    exact balanced.unclosed?_append ih
  | group _ opening ih =>
    rw [unclosed?_append_leftParen ih]
    simp [Reading.openings, Construct.opening?]
  | @call _ _ name _ _ _ _ _ offset opening ih =>
    have named := unclosed?_append_token ih ⟨.name name, offset⟩ (by simp) (by simp)
    have := unclosed?_append_leftParen named opening
    simpa [Reading.openings, Construct.opening?] using this
  | @comma _ _ _ name _ _ _ _ _ _ _ reads _ offset opening between ih =>
    have named := unclosed?_append_token ih ⟨.name name, offset⟩ (by simp) (by simp)
    have opened := unclosed?_append_leftParen named opening
    have balanced : Balanced (_ ++ [⟨.comma, between⟩]) := reads.wellNested.balanced.append rfl
    have := balanced.unclosed?_append opened
    simpa [Reading.openings, Construct.opening?] using this

end Bracketed

/-! ## What a descent has open -/

namespace Frame

/-- The call has a parenthesis open. -/
def isParen : Frame → Bool
  | group | call _ _ _ _ => true
  | _ => false

end Frame

namespace Control

/-- The parentheses that the innermost call has open beside its frame. -/
def parens : Control → Nat
  | arguments _ _ _ => 1
  | _ => 0

end Control

/-- A first token that is not the end is the first of the tokens. -/
theorem Lexed.tokens_eq_cons {lexed : Lexed} {spanned : Spanned} (first : lexed.first = .ok spanned)
    (more : spanned.token ≠ .finish) : lexed.tokens = spanned :: lexed.rest.tokens := by
  obtain ⟨tokens, ending⟩ := lexed
  cases tokens with
  | cons other tokens =>
    cases first
    rfl
  | nil =>
    cases ending with
    | error e => contradiction
    | ok offset =>
      cases first
      contradiction

namespace Descent

variable {grammar : Grammar σ} {descent next : Descent} {lexed : Lexed} {taken : List Spanned}

/-- The parentheses that the waiting calls have open. -/
def parens (frames : List Frame) : Nat := frames.countP Frame.isParen

@[simp] theorem parens_cons (frame : Frame) (frames : List Frame) :
    parens (frame :: frames) = parens frames + if frame.isParen then 1 else 0 :=
  List.countP_cons

/-- These tokens have been taken off the text, and the open parentheses are theirs. As many calls
have a parenthesis open. -/
structure HasTaken (lexed : Lexed) (descent : Descent) (taken : List Spanned) : Prop where
  ahead : ∃ behind : Lexed, descent.stream.Ahead behind ∧ taken ++ behind.tokens = lexed.tokens ∧
    behind.ending = lexed.ending
  openings : unclosed? taken = some descent.openings
  parens : descent.openings.length = Descent.parens descent.frames + descent.control.parens

/-- Looking at a token takes nothing. -/
theorem HasTaken.looks {stream : TokenStream} {spanned : Spanned} {openings : List Nat}
    {frames : List Frame} {depth : Nat} {control : Control}
    (h : descent.HasTaken lexed taken) (looks : descent.stream.Looks spanned stream)
    (same : openings = descent.openings)
    (parens : openings.length = Descent.parens frames + control.parens) :
    HasTaken lexed ⟨stream, depth, openings, frames, control⟩ taken := by
  obtain ⟨behind, ahead, tokens, ending⟩ := h.ahead
  exact ⟨⟨behind, (looks ahead).2, tokens, ending⟩, same ▸ h.openings, parens⟩

/-- A token that is taken is taken off the text. -/
theorem HasTaken.takes {stream : TokenStream} {spanned : Spanned} {openings : List Nat}
    {frames : List Frame} {depth : Nat} {control : Control}
    (h : descent.HasTaken lexed taken) (takes : descent.stream.Takes spanned stream)
    (more : spanned.token ≠ .finish) (hopen : spanned.open? descent.openings = some openings)
    (parens : openings.length = Descent.parens frames + control.parens) :
    HasTaken lexed ⟨stream, depth, openings, frames, control⟩ (taken ++ [spanned]) := by
  obtain ⟨behind, ahead, tokens, ending⟩ := h.ahead
  obtain ⟨first, rest⟩ := takes ahead
  refine ⟨⟨_, rest, ?_, ending⟩, ?_, parens⟩
  · rw [List.append_assoc, ← tokens, Lexed.tokens_eq_cons first more]
    rfl
  · rw [unclosed?_append_singleton, h.openings]
    exact hopen

/-- A parenthesis that closes takes the innermost opening away. -/
theorem HasTaken.closes {stream : TokenStream} {closing depth : Nat} {frames : List Frame}
    {control : Control} (h : descent.HasTaken lexed taken)
    (takes : descent.stream.Takes ⟨.rightParen, closing⟩ stream)
    (parens : Descent.parens descent.frames + descent.control.parens =
      Descent.parens frames + control.parens + 1) :
    HasTaken lexed ⟨stream, depth, descent.openings.dropLast, frames, control⟩
      (taken ++ [⟨.rightParen, closing⟩]) := by
  have hlength := h.parens
  have some_open : descent.openings ≠ [] := by
    intro none_open
    rw [none_open, List.length_nil] at hlength
    omega
  refine h.takes takes (by simp) (if_neg some_open) ?_
  rw [List.length_dropLast, hlength]
  omega

/-- Every move takes what it takes off the text, and opens and closes what that opens and
closes. -/
theorem Moves.hasTaken (h : Moves grammar descent next) (hasTaken : descent.HasTaken lexed taken) :
    ∃ taken, next.HasTaken lexed taken := by
  have hparens := hasTaken.parens
  -- The moves fall into those that look, take, close a parenthesis, or leave the tokens alone.
  cases h with
  | expression looks | var looks | argument looks | branch looks | stop looks =>
    exact ⟨taken, hasTaken.looks looks rfl (by simpa [Frame.isParen, Control.parens] using hparens)⟩
  | unary takes | number takes | name takes | group takes | function takes | binary takes
  | ternary takes | separator takes | comma takes =>
    exact ⟨_, hasTaken.takes takes (by simp) rfl
      (by simpa [Frame.isParen, Control.parens] using hparens)⟩
  | nullary takes | closeGroup takes | closeCall takes =>
    exact ⟨_, hasTaken.closes takes (by simp [Frame.isParen, Control.parens])⟩
  | leave | first | right | ifFalse | operand =>
    exact ⟨taken, hasTaken.ahead, hasTaken.openings,
      by simpa [Frame.isParen, Control.parens] using hparens⟩

/-- Wherever the run comes to, the open parentheses are those of the tokens that have been
taken. -/
theorem Visits.hasTaken {lexicon : Lexicon} {text : String}
    (visits : Visits grammar (start lexicon text) descent) :
    ∃ taken, descent.HasTaken (lexicon.tokens text) taken := by
  have first : (start lexicon text).HasTaken (lexicon.tokens text) [] :=
    ⟨⟨_, .ofText lexicon text, rfl, rfl⟩, rfl, rfl⟩
  induction visits with
  | refl => exact ⟨[], first⟩
  | going _ h ih =>
    obtain ⟨taken, hasTaken⟩ := ih
    exact (moves_of_advance h).hasTaken hasTaken

end Descent

end Formulary
