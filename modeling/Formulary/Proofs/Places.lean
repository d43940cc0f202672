import Formulary.Builtin
import Formulary.CommandLine.Report
import Formulary.Proofs.Faults
import Formulary.Proofs.Lexing.Division
import Formulary.Proofs.Reading.Offsets
import Formulary.Proofs.Recovery
import Formulary.Proofs.SetText

/-!
# Formulary.Proofs.Places

Errors point into the text that they are about.

Every offset in an expression or an error is copied from a token or from the end of the text. That
does not take another walk through the reading of formulas: reading carries moved offsets along
(`Grammar.read_moved`), so if all that is not a place of the text is moved to one, and the tokens
stay where they are, then what is read stays as it is, too, and has places of the text in it
(`Grammar.offsets_of_read`, `Grammar.offset_of_read`).

Places are between two characters, by the division of the text (`Registry.between_of_mem_places`).
An error of compiling points to a node of the expression, which may be much older than the
registry. What makes its offset right is that text and expression are only replaced together
(`Formula.Anchored`).
-/

namespace Formulary

variable {σ : Type}

/-! ## Between two characters -/

namespace Text

/-- The byte offset is between two characters of the text, or at one of its ends. -/
def Between (text : List Char) (offset : Nat) : Prop :=
  ∃ front behind, text = front ++ behind ∧ offset = byteLength front

theorem utf8ByteSize_ofList (text : List Char) :
    (String.ofList text).utf8ByteSize = byteLength text := by
  induction text with
  | nil => rfl
  | cons c rest ih =>
    rw [String.ofList_cons, String.utf8ByteSize_append, ih]
    simp

end Text

/-! ## Errors and carets -/

namespace FormulaError

/-- The error points into the text, at an offset between two of its characters, and the report has
a caret below the place: before the caret are as many blanks as characters before the offset. -/
structure PointsInto (e : FormulaError) (text : String) (offset : Nat) : Prop where
  bounded : offset ≤ text.utf8ByteSize
  boundary : String.Pos.Raw.IsValid text ⟨offset⟩
  caret : ∃ front behind : String, text = front ++ behind ∧ offset = front.utf8ByteSize ∧
    -- There is a column, so the offset does not stand in for it.
    Text.column? text.toList offset = some front.length ∧
    CommandLine.located text e =
      ⟨"Invalid formula\n  " ++ text ++ "\n  " ++ String.ofList (List.replicate front.length ' ') ++
        "^", [e.message]⟩

/-- An error whose offset is a place between characters points into the text. -/
theorem pointsInto_of_between {e : FormulaError} {text : String} {offset : Nat}
    (points : e.offset? = some offset) (h : Text.Between text.toList offset) :
    e.PointsInto text offset := by
  obtain ⟨front, behind, htext, rfl⟩ := h
  have split : text = String.ofList front ++ String.ofList behind := by
    rw [← String.ofList_append, ← htext, String.ofList_toList]
  have size := Text.utf8ByteSize_ofList front
  have column : Text.column? text.toList (Text.byteLength front) = some front.length := by
    rw [htext, Text.column?_append]
  refine ⟨?_, ?_, String.ofList front, String.ofList behind, split, size.symm, ?_, ?_⟩
  · rw [split, String.utf8ByteSize_append, size]
    exact Nat.le_add_right _ _
  · rw [String.Pos.Raw.isValid_iff_exists_append]
    exact ⟨_, _, split, String.Pos.Raw.ext size.symm⟩
  · rw [column, String.length_ofList]
  · unfold CommandLine.located CommandLine.caret
    rw [points, String.length_ofList]
    dsimp only
    rw [column, Option.getD_some]
    rfl

end FormulaError

/-! ## The places of a text -/

namespace Lexed

variable {lexed : Lexed} {move : Nat → Nat} {offset : Nat}

/-- Where the text ends, or where no token can start. -/
def stop (lexed : Lexed) : Nat :=
  match lexed.ending with
  | .ok stop => stop
  | .error e => e.offset

/-- Where the tokens stop, and where each of them starts. -/
def places (lexed : Lexed) : List Nat := lexed.stop :: lexed.tokens.map Spanned.offset

/-- Moving only shows at the places. -/
theorem moved_eq_self (h : ∀ place ∈ lexed.places, move place = place) :
    lexed.moved move = lexed := by
  obtain ⟨tokens, ending⟩ := lexed
  obtain ⟨hstop, starts⟩ := List.forall_mem_cons.1 h
  have htokens : tokens.map (Spanned.moved move) = tokens.map id := by
    refine List.map_congr_left fun spanned member => ?_
    rw [Spanned.moved, starts spanned.offset (List.mem_map_of_mem member), id]
  rw [List.map_id] at htokens
  rw [Lexed.moved, htokens]
  cases ending with
  | ok stop => exact congrArg (fun place => Lexed.mk tokens (.ok place)) hstop
  | error e => exact congrArg (fun place => Lexed.mk tokens (.error ⟨e.character, place⟩)) hstop

/-- Move what is not a place of the text to where the tokens stop. -/
def snap (lexed : Lexed) (offset : Nat) : Nat :=
  if offset ∈ lexed.places then offset else lexed.stop

/-- Only the places of tokens are left where they are. -/
theorem snap_eq_self_iff : lexed.snap offset = offset ↔ offset ∈ lexed.places := by
  unfold snap
  split
  · next member => exact iff_of_true rfl member
  · next outside =>
    refine iff_of_false (fun same => outside ?_) outside
    rw [← same]
    exact List.mem_cons_self

end Lexed

/-! ## Where errors and nodes are -/

namespace Expr

variable {registry : Registry σ} {expr : Expr} {e : CompileError}

/-- The places in the text that the nodes point to. -/
def offsets (expr : Expr) : List Nat := expr.nodes.filterMap ownOffset?

theorem nodes_moved (move : Nat → Nat) (expr : Expr) :
    (expr.moved move).nodes = expr.nodes.map (moved move) := by
  induction expr with
  | constant value => rfl
  | var name => rfl
  | unary symbol operand offset ih => simp [moved, nodes, ih]
  | binary symbol left right offset ihl ihr => simp [moved, nodes, ihl, ihr]
  | ternary symbol condition ifTrue ifFalse offset ihc iht ihf =>
    simp [moved, nodes, ihc, iht, ihf]
  | call name args offset ih =>
    have all : nodesAll (movedAll move args) = (nodesAll args).map (moved move) := by
      induction args with
      | nil => rfl
      | cons arg args iht =>
        rw [movedAll, nodesAll, nodesAll, List.map_append, ih arg List.mem_cons_self,
          iht fun other member => ih other (List.mem_cons_of_mem _ member)]
    simp [moved, nodes, all]

/-- The offset of a node moves with it. -/
theorem ownOffset?_moved (move : Nat → Nat) (node : Expr) :
    (node.moved move).ownOffset? = node.ownOffset?.map move := by
  cases node <;> rfl

/-- All offsets of an expression move with it. -/
theorem offsets_moved (move : Nat → Nat) (expr : Expr) :
    (expr.moved move).offsets = expr.offsets.map move := by
  rw [offsets, nodes_moved, List.filterMap_map, offsets, List.map_filterMap]
  exact congrArg (List.filterMap · expr.nodes) (funext (ownOffset?_moved move))

/-- A fault points to where its node does. -/
theorem HasFault.ownOffset?_eq {node : Expr} (h : HasFault registry node e) :
    node.ownOffset? = some e.offset := by
  cases h with
  | missing key place absent => exact place
  | refused resolved bounded excess => rfl

/-- The fault of an expression is at one of its nodes. -/
theorem offset_mem_of_fault? (h : expr.fault? registry = some e) : e.offset ∈ expr.offsets := by
  obtain ⟨before, node, after, split, -, fault⟩ := firstFault?_eq_some_iff.1 h
  exact List.mem_filterMap.2 ⟨node, by simp [split], fault.ownOffset?_eq⟩

end Expr

/-- The offset of an error moves with it. -/
theorem ParseError.offset_moved (move : Nat → Nat) (e : ParseError) :
    (e.moved move).offset = move e.offset := by
  cases e <;> rfl

namespace Grammar

variable {grammar : Grammar σ} {lexed : Lexed} {expr : Expr} {e : ParseError}

/-- Reading does not tell whether the offsets that it returns have been moved. -/
theorem carried_snap (grammar : Grammar σ) (lexed : Lexed) :
    carried lexed.snap (Expr.moved lexed.snap) (grammar.read lexed) = grammar.read lexed := by
  have stays : lexed.moved lexed.snap = lexed :=
    Lexed.moved_eq_self fun _ => Lexed.snap_eq_self_iff.2
  rw [← read_moved, stays]

/-- All nodes that are read are at places of tokens. -/
theorem offsets_of_read (h : grammar.read lexed = .ok expr) :
    ∀ offset ∈ expr.offsets, offset ∈ lexed.places := by
  have same := carried_snap grammar lexed
  rw [h] at same
  have hexpr : expr.moved lexed.snap = expr := Except.ok.inj same
  have hoffsets : expr.offsets.map lexed.snap = expr.offsets.map id := by
    rw [← Expr.offsets_moved, hexpr, List.map_id]
  exact fun offset member => Lexed.snap_eq_self_iff.1 (List.map_inj_left.1 hoffsets offset member)

/-- Errors of reading are at places of tokens. -/
theorem offset_of_read (h : grammar.read lexed = .error e) : e.offset ∈ lexed.places := by
  have same := carried_snap grammar lexed
  rw [h] at same
  have he : e.moved lexed.snap = e := Except.error.inj same
  rw [← Lexed.snap_eq_self_iff, ← ParseError.offset_moved lexed.snap, he]

end Grammar

/-- The places of a text are between its characters. -/
theorem Registry.between_of_mem_places (registry : Registry σ) (text : String) :
    ∀ offset ∈ (registry.lexicon.tokens text).places, Text.Between text.toList offset := by
  obtain ⟨pieces, ending, divided⟩ := exists_divided registry [] text.toList
  obtain ⟨tail, covers, ends⟩ := divided.exists_tail
  have hlexed : registry.lexicon.tokens text = ⟨pieces.map Piece.spanned, ending⟩ :=
    divided.tokensFrom_eq
  rw [hlexed, covers, Lexed.places, List.forall_mem_cons, List.map_map, List.forall_mem_map]
  constructor
  · cases ends with
    | @finish blank white => exact ⟨_, [], (List.append_nil _).symm, rfl⟩
    | @stuck blank rest c white solid none =>
      exact ⟨pieces.flatMap Piece.chars ++ blank, c :: rest, by simp, rfl⟩
  · intro piece member
    obtain ⟨front, behind, rfl⟩ := List.append_of_mem member
    refine ⟨front.flatMap Piece.chars ++ piece.blank,
      piece.slice ++ behind.flatMap Piece.chars ++ tail, ?_, divided.placed rfl⟩
    simp [Piece.chars]

/-- An error of a listing of tokens points into the text, too. -/
theorem Registry.lexical_pointsInto (registry : Registry σ) (text : String) {e : LexError}
    (h : (registry.lexicon.tokens text).ending = .error e) :
    (FormulaError.parse (.lexical e)).PointsInto text e.offset := by
  have hstop : (registry.lexicon.tokens text).stop = e.offset := by rw [Lexed.stop, h]
  refine FormulaError.pointsInto_of_between rfl ?_
  rw [← hstop]
  exact registry.between_of_mem_places text _ List.mem_cons_self

namespace Grammar

variable {dialect : Dialect σ} {text : String}

/-- All nodes of a text that is read are at places between its characters. -/
theorem between_of_parse {expr : Expr} (h : parse dialect text = .ok expr) :
    ∀ offset ∈ expr.offsets, Text.Between text.toList offset :=
  fun offset member => dialect.registry.between_of_mem_places text offset
    (offsets_of_read h offset member)

/-- The error of a text that is not read is at a place between its characters. -/
theorem between_of_parse_error {e : ParseError} (h : parse dialect text = .error e) :
    Text.Between text.toList e.offset :=
  dialect.registry.between_of_mem_places text e.offset (offset_of_read h)

end Grammar

/-! ## Text and expression together -/

/-- The text that an error of the call is about: the one that was to be taken, else the one that the
formula has. -/
def Call.concerned (current : String) : Call σ → String
  | .setText text => text
  | _ => current

namespace Formula

variable {formula : Formula σ} {text : String}

/-- The expression points into the text. -/
def Anchored (formula : Formula σ) : Prop :=
  ∀ expr, formula.expr? = some expr →
    ∀ offset ∈ expr.offsets, Text.Between formula.text.toList offset

theorem text_setRegistry (formula : Formula σ) (registry : Registry σ) :
    (formula.setRegistry registry).2.text = formula.text := by
  unfold setRegistry recompile compileIfEager
  split
  · exact (spares_compile _).text
  · rfl

/-- Only a text that is taken changes the text. -/
theorem text_call {call : Call σ}
    (same : ¬ ∃ text, call = .setText text ∧ (formula.setText text).1 = .ok ()) :
    (formula.call call).text = formula.text := by
  cases call with
  | setText text =>
    cases hset : (formula.setText text).1 with
    | ok done => exact absurd ⟨text, rfl, hset⟩ same
    | error e => exact congrArg Formula.text (setText_error hset).2
  | compile => exact (spares_compile formula).text
  | recompile => exact text_setRegistry formula formula.registry
  | setRegistry registry => exact text_setRegistry formula registry
  | evaluate world =>
    rw [call, evaluate_snd]
    exact (spares_compile formula).text
  | withOptions options => rfl
  | bind name binding => rfl
  | unbind name => rfl

/-- A text that is taken brings its expression along. -/
theorem anchored_setText (taken : (formula.setText text).1 = .ok ()) :
    (formula.setText text).2.Anchored := by
  obtain ⟨expr, hparse⟩ := setText_eq_ok_iff.1 taken
  have atomic := setText_atomic formula text
  rw [hparse] at atomic
  obtain ⟨⟨after, hset, takes⟩, -⟩ := atomic
  intro other hother
  rw [hset, takes.parsed] at hother
  cases hother
  rw [hset, takes.text]
  exact Grammar.between_of_parse hparse

/-- To make a formula of a text is to set the text of a blank one. -/
theorem setText_of_ofText? {registry : Registry σ} {options : Options}
    (made : ofText? text registry options = .ok formula) :
    (blank registry options).setText text = (.ok (), formula) := by
  unfold ofText? at made
  split at made
  · next after hset =>
    cases made
    exact hset
  · contradiction

theorem setText_error_of_ofText? {registry : Registry σ} {options : Options} {e : FormulaError}
    (failed : ofText? text registry options = .error e) :
    ((blank registry options).setText text).1 = .error e := by
  unfold ofText? at failed
  split at failed
  · contradiction
  · next other after hset =>
    cases failed
    rw [hset]

/-- A formula that has been made is anchored in its text. -/
theorem anchored_of_made {creation : Creation σ} (made : creation.formula = .ok formula) :
    formula.Anchored := by
  cases creation with
  | blank registry options =>
    cases made
    intro expr hexpr
    contradiction
  | ofText text registry options =>
    have hset := setText_of_ofText? made
    have anchored := anchored_setText (congrArg Prod.fst hset)
    rwa [hset] at anchored

/-- What one call preserves. -/
theorem Anchored.call (h : formula.Anchored) (call : Call σ) : (formula.call call).Anchored := by
  by_cases taken : ∃ text, call = .setText text ∧ (formula.setText text).1 = .ok ()
  · obtain ⟨text, rfl, taken⟩ := taken
    exact anchored_setText taken
  · unfold Anchored
    rw [expr?_call taken, text_call taken]
    exact h

/-- What a run preserves. -/
theorem Anchored.history (h : formula.Anchored) (calls : List (Call σ)) :
    (calls.foldl Formula.call formula).Anchored := by
  induction calls generalizing formula with
  | nil => exact h
  | cons call calls ih => exact ih (h.call call)

/-! ## Errors -/

variable {call : Call σ} {e : FormulaError}

/-- An error of compiling is a fault of the expression, with the registry of that time. -/
theorem exists_fault_of_compile {e : CompileError} (h : formula.compile.1 = .error (.compile e)) :
    ∃ expr registry, formula.expr? = some expr ∧ expr.fault? (σ := σ) registry = some e := by
  rcases compile_error h with ⟨-, other, -⟩ | ⟨expr, e', hstage, hfault, same⟩
  · contradiction
  · cases same
    exact ⟨expr, formula.registry, by rw [expr?, hstage]; rfl, hfault⟩

/-- A registry is refused only for a fault of the expression. -/
theorem exists_fault_of_setRegistry {registry : Registry σ} {e : CompileError}
    (h : (formula.setRegistry registry).1 = .error (.compile e)) :
    ∃ expr registry, formula.expr? = some expr ∧ expr.fault? (σ := σ) registry = some e := by
  have started := setRegistry_error h
  rw [started] at h
  obtain ⟨expr, other, hexpr, hfault⟩ := exists_fault_of_compile h
  rw [expr?, expr?_withoutEvaluator] at hexpr
  exact ⟨expr, other, hexpr, hfault⟩

/-- A call ends with an error of compiling only for a fault of the expression. -/
theorem exists_fault_of_error? {e : CompileError} (h : formula.error? call = some (.compile e)) :
    ∃ expr registry, formula.expr? = some expr ∧ expr.fault? (σ := σ) registry = some e := by
  cases call with
  | setText text =>
    obtain ⟨⟨e', other⟩, -⟩ := setText_error (FormulaError.of?_eq_some h)
    contradiction
  | compile => exact exists_fault_of_compile (FormulaError.of?_eq_some h)
  | recompile =>
    exact @exists_fault_of_setRegistry σ formula formula.registry e (FormulaError.of?_eq_some h)
  | setRegistry registry => exact exists_fault_of_setRegistry (FormulaError.of?_eq_some h)
  | evaluate world =>
    rcases evaluate_error (FormulaError.of?_eq_some h) with
      ⟨failed, -⟩ | ⟨e', expr, evaluator, last, other, -⟩
    · exact exists_fault_of_compile failed
    · contradiction
  | _ => contradiction

/-- The offset with which a text is refused is between two characters of the text. -/
theorem between_of_setText_error (failed : (formula.setText text).1 = .error e) {offset : Nat}
    (points : e.offset? = some offset) : Text.Between text.toList offset := by
  rw [setText_fst] at failed
  cases hparse : Grammar.parse ⟨formula.registry, formula.options.maxDepth⟩ text with
  | ok expr => simp [hparse] at failed
  | error e' =>
    rw [hparse] at failed
    cases failed
    cases points
    exact Grammar.between_of_parse_error hparse

/-- The offset of an error is between two characters of the text that it is about. -/
theorem Anchored.between (h : formula.Anchored) (failed : formula.error? call = some e)
    {offset : Nat} (points : e.offset? = some offset) :
    Text.Between (call.concerned (formula.call call).text).toList offset := by
  by_cases hcall : ∃ text, call = .setText text
  · obtain ⟨text, rfl⟩ := hcall
    exact between_of_setText_error (FormulaError.of?_eq_some failed) points
  · have known := failed_of_error? failed
    have concerned : call.concerned (formula.call call).text = formula.text := by
      rw [← known.spares.text]
      cases call with
      | setText text => exact absurd ⟨text, rfl⟩ hcall
      | _ => rfl
    rw [concerned]
    cases e with
    | parse e =>
      obtain ⟨text, htext, -⟩ := known.reason
      exact absurd ⟨text, htext⟩ hcall
    | compile e =>
      obtain ⟨expr, registry, hexpr, hfault⟩ := exists_fault_of_error? failed
      cases points
      exact h expr hexpr e.offset (Expr.offset_mem_of_fault? hfault)
    | eval e => contradiction
    | notParsed => contradiction

/-- **Errors point into the text**: into the text that a formula was to be made of or was to take,
else into the text that it has, be the expression compiled with operators that are quite different
from those that it was read with. So the caret of a report is always below the right character. -/
theorem errors_point :
    (∀ (text : String) (registry : Registry σ) (options : Options) (e : FormulaError)
      (offset : Nat), ofText? text registry options = .error e → e.offset? = some offset →
        e.PointsInto text offset) ∧
    ∀ (creation : Creation σ) (made : Formula σ), creation.formula = .ok made →
      ∀ (calls : List (Call σ)) (call : Call σ) (e : FormulaError) (offset : Nat),
        let formula := calls.foldl Formula.call made
        formula.error? call = some e → e.offset? = some offset →
          e.PointsInto (call.concerned (formula.call call).text) offset := by
  constructor
  · intro text registry options e offset failed points
    exact FormulaError.pointsInto_of_between points
      (between_of_setText_error (setText_error_of_ofText? failed) points)
  · intro creation made hmade calls call e offset formula failed points
    have anchored : formula.Anchored := (anchored_of_made hmade).history calls
    exact FormulaError.pointsInto_of_between points (anchored.between failed points)

end Formula

/-! ## A symbol of three bytes -/

/-- A comparison between operands. -/
def atMost : Operator Generator := .binary "≤" 4 .left fun a b => .ok (if a ≤ b then 1 else 0)

theorem invalidName?_atMost : atMost.invalidName? = none := by
  have foreign : Text.isAlphanumeric '≤' = false := by
    unfold Text.isAlphanumeric Text.Ranges.contains
    -- As an array the table is looked through by index, which takes much longer.
    rw [← Array.any_toList]
    decide +kernel
  have single : "≤".toList = ['≤'] := by decide +kernel
  have solid : Text.isBlank '≤' = false := by decide +kernel
  have named : Symbol.isSymbol "≤" = true := by
    simp [Symbol.isSymbol, Symbol.isPunctuation, single, Symbol.isPunctuationChar, foreign, solid]
  have spelled : atMost.spelling = ⟨"≤", .binary, none⟩ := by decide +kernel
  rw [Operator.invalidName?, spelled]
  simp [Spelling.invalidName?, named]

/-- The comparison and the built-in operators. -/
def Registry.comparing : Registry Generator where
  operators := atMost :: Builtin.all
  valid := List.forall_mem_cons.2 ⟨invalidName?_atMost, Registry.builtin.valid⟩
  distinct := by decide +kernel

/-- Behind the comparison there are two bytes more than characters: at a letter that starts no
token, and at a sum that is left without its operator, though another text was refused in
between. -/
theorem Formula.errors_point_behind_comparison :
    let stray : FormulaError := .parse (.lexical ⟨'é', 6⟩)
    let missing : FormulaError := .compile (.missingOperator "+" .binary 8)
    FormulaError.of? (ofText? "a ≤ é" Registry.comparing .standard) = some stray ∧
    stray.PointsInto "a ≤ é" 6 ∧
    ∃ made, ofText? "a ≤ b + c" Registry.comparing .standard = .ok made ∧
      let fewer := Registry.comparing.unregister "+" .binary
      let formula := [Call.setText "a ≤ (", .setRegistry fewer].foldl Formula.call made
      formula.error? (.evaluate ⟨0⟩) = some missing ∧
      missing.PointsInto "a ≤ b + c" 8 ∧
      CommandLine.caret "a ≤ b + c" 8 = "Invalid formula\n  a ≤ b + c\n        ^" := by
  intro stray missing
  have refused : FormulaError.of? (ofText? "a ≤ é" Registry.comparing .standard) = some stray := by
    decide +kernel
  have results :
      (ofText? "a ≤ b + c" Registry.comparing .standard).toOption.map (fun made =>
        let fewer := Registry.comparing.unregister "+" .binary
        let formula := [Call.setText "a ≤ (", .setRegistry fewer].foldl Formula.call made
        (formula.error? (.evaluate ⟨0⟩), (formula.call (.evaluate ⟨0⟩)).text)) =
          some (some missing, "a ≤ b + c") := by
    decide +kernel
  refine ⟨refused, errors_point.1 _ _ _ stray 6 (FormulaError.of?_eq_some refused) rfl, ?_⟩
  cases made : ofText? "a ≤ b + c" Registry.comparing .standard with
  | error e => simp [made, Except.toOption] at results
  | ok formula =>
    simp only [made, Except.toOption, Option.map_some, Option.some.injEq, Prod.mk.injEq] at results
    obtain ⟨failed, text⟩ := results
    have points := errors_point.2 (.ofText "a ≤ b + c" Registry.comparing .standard) formula made
      _ _ missing 8 failed rfl
    simp only [Call.concerned, text] at points
    exact ⟨formula, rfl, failed, points, by decide +kernel⟩

end Formulary
