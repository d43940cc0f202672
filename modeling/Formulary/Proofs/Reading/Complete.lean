import Formulary.Builtin
import Formulary.Proofs.Bracketed

/-!
# Formulary.Proofs.Reading.Complete

Every well-grouped expression is read.

A reading does not build a node when its last operand is complete, but when a
token comes that does not go on with it. So the statement about a tree is about
its tokens and one more (`foldlM_step_reads`): after them the grammar is where it
would be had it found the whole tree as one operand before that last token, which
`Grammar.follow` describes. The last token must not go on with the tree
(`Bracketed.EndsBefore`), and the construct around the tree must admit it
(`Bracketed.Admitted`); the rules of grouping give both for every operand.
-/

namespace Formulary

variable {σ : Type}

/-! ## The surroundings of a tree -/

namespace Bracketed

/-- The innermost construct leaves the operator that joins the tree to the operand that it waits
for. -/
def Admitted (registry : Registry σ) (pending : List Construct) (tree : Bracketed) : Prop :=
  ∀ joint, tree.joint? registry = some joint →
    pending.head?.all (Construct.admits joint.precedence.toNat) = true

/-- The token does not go on with the last operand of the tree. -/
def EndsBefore (grammar : Grammar σ) (token : Token) (tree : Bracketed) : Prop :=
  ∀ symbol joiner, token = .operator symbol → grammar.joiner? symbol = some joiner →
    ∀ joint, tree.joint? grammar.registry = some joint → joiner.precedence < joint.rightPrecedence

variable {grammar : Grammar σ} {registry : Registry σ} {tree : Bracketed} {token : Token}
  {pending : List Construct}

/-- A tree that no operator joins has no operator that joins it. -/
theorem joint?_of_tight (tight : tree.isJoined = false) : tree.joint? registry = none := by
  cases tree <;> simp_all [isJoined, joint?]

/-- A tree that no operator joins is admitted everywhere. -/
theorem admitted_of_tight (tight : tree.isJoined = false) : tree.Admitted registry pending := by
  intro joint h
  rw [joint?_of_tight tight] at h
  contradiction

/-- No token goes on with a tree that no operator joins. -/
theorem endsBefore_of_tight (tight : tree.isJoined = false) : tree.EndsBefore grammar token := by
  intro symbol joiner _ _ joint h
  rw [joint?_of_tight tight] at h
  contradiction

/-- A token that does not join operands goes on with no tree. -/
theorem endsBefore_of_not_joiner
    (h : ∀ symbol, token = .operator symbol → grammar.joiner? symbol = none) :
    tree.EndsBefore grammar token := by
  intro symbol joiner htoken hjoiner
  rw [h symbol htoken] at hjoiner
  contradiction

end Bracketed

namespace Grammar

variable {grammar : Grammar σ} {pending : List Construct} {subtree : Subtree} {spanned : Spanned}

/-! ## A token after an operand -/

/-- Take a token after an operand that prefix operators may still wait for. -/
def follow (grammar : Grammar σ) (spanned : Spanned) (subtree : Subtree)
    (pending : List Construct) : Except ParseError Reading := do
  let (subtree, pending) ← grammar.settle subtree pending
  grammar.proceed spanned subtree pending

/-- To complete an operand and take one more token is to follow up on the operand. -/
theorem complete_bind_step (subtree : Subtree) (pending : List Construct) (spanned : Spanned) :
    (grammar.complete subtree pending >>= fun reading => grammar.step reading spanned) =
      grammar.follow spanned subtree pending := by
  unfold complete follow
  cases grammar.settle subtree pending <;> rfl

/-- The innermost construct is no prefix operator. -/
def Settled (pending : List Construct) : Prop :=
  ∀ symbol offset outer, pending ≠ .unary symbol offset :: outer

/-- Where no prefix operator waits, the operand stays as it is. -/
theorem settle_of_settled (h : Settled pending) :
    grammar.settle subtree pending = .ok (subtree, pending) := by
  cases pending with
  | nil => rfl
  | cons construct outer =>
    cases construct with
    | unary symbol offset => exact absurd rfl (h symbol offset outer)
    | _ => rfl

/-- Where no prefix operator waits, a token comes directly behind the operand. -/
theorem follow_of_settled (h : Settled pending) :
    grammar.follow spanned subtree pending = grammar.proceed spanned subtree pending := by
  unfold follow
  rw [settle_of_settled h]
  rfl

/-- A construct that leaves an operator to its operand is no prefix operator. -/
theorem settled_of_admits {precedence : Nat}
    (h : pending.head?.all (Construct.admits precedence) = true) : Settled pending := by
  rintro symbol offset outer rfl
  simp [Construct.admits] at h

theorem build_of_le {expr : Expr} {height offset : Nat} (h : height ≤ grammar.maxHeight) :
    grammar.build expr height offset = .ok ⟨expr, height⟩ := by
  unfold build
  rw [if_neg (by omega)]

theorem enter_of_le {depth offset : Nat} (h : depth ≤ grammar.maxDepth) :
    grammar.enter depth offset = .ok () := by
  unfold enter
  rw [if_neg (by omega)]

/-! ## Joining and not joining -/

/-- An operator joins the operand that the innermost construct leaves to it. -/
theorem joins?_of_admits {symbol : String} {joiner : Joiner}
    (hjoiner : grammar.joiner? symbol = some joiner)
    (admits : pending.head?.all (Construct.admits joiner.precedence) = true) :
    grammar.joins? pending (.operator symbol) = some (symbol, joiner) := by
  simp [joins?, hjoiner, admits]

/-- An operator that is admitted takes the operand. -/
theorem proceed_of_joins? {symbol : String} {joiner : Joiner}
    (h : grammar.joins? pending spanned.token = some (symbol, joiner)) :
    grammar.proceed spanned subtree pending =
      .ok (join symbol joiner spanned.offset subtree pending) := by
  cases pending <;> simp [proceed, h]

theorem joins?_eq_none_of_not_joiner
    (h : ∀ symbol, spanned.token = .operator symbol → grammar.joiner? symbol = none) :
    grammar.joins? pending spanned.token = none := by
  unfold joins?
  split
  · next symbol htoken => simp [h symbol htoken]
  · rfl

/-- A construct takes the operand if the token does not join it within the construct. -/
theorem joins?_eq_none_of_not_admits {construct : Construct} {outer : List Construct}
    (h : ∀ symbol joiner, spanned.token = .operator symbol → grammar.joiner? symbol = some joiner →
      construct.admits joiner.precedence = false) :
    grammar.joins? (construct :: outer) spanned.token = none := by
  unfold joins?
  split
  · next symbol htoken =>
    cases hjoiner : grammar.joiner? symbol with
    | none => simp
    | some joiner => simp [h symbol joiner htoken hjoiner]
  · rfl

/-! ## One step for each construct -/

/-- At the start of an expression, and of the operand of a prefix operator, an operand begins. -/
theorem step_of_begin {focus : Focus} (hfocus : focus = .expression ∨ focus = .operand)
    (deep : Reading.depth pending ≤ grammar.maxDepth) (notClosing : spanned.token ≠ .rightParen)
    (notComma : spanned.token ≠ .comma) (notFinish : spanned.token ≠ .finish) :
    grammar.step ⟨pending, focus⟩ spanned = grammar.beginOperand pending spanned := by
  rcases hfocus with rfl | rfl
  · simp only [step]
    unfold beginExpression
    split <;> try contradiction
    rw [enter_of_le deep]
    rfl
  · rfl

/-- A prefix operator begins an operand and waits for its own. -/
theorem beginOperand_unary {symbol : String} {offset : Nat} {operator : Operator σ}
    (resolved : grammar.registry.resolve? symbol .unary = some operator)
    (deep : pending.length + 2 ≤ grammar.maxDepth) :
    grammar.beginOperand pending ⟨.operator symbol, offset⟩ =
      .ok ⟨.unary symbol offset :: pending, .operand⟩ := by
  have hunary : grammar.isUnary symbol = true := by simp [isUnary, resolved]
  simp only [beginOperand, hunary, if_true]
  rw [enter_of_le (by simp only [Reading.depth, List.length_cons]; omega)]
  rfl

/-- A waiting prefix operator takes the operand first. -/
theorem follow_unary {symbol : String} {offset : Nat}
    (fits : subtree.height + 1 ≤ grammar.maxHeight) :
    grammar.follow spanned subtree (.unary symbol offset :: pending) =
      grammar.follow spanned ⟨.unary symbol subtree.expr offset, subtree.height + 1⟩ pending := by
  unfold follow
  rw [settle, apply, build_of_le fits]
  rfl

/-- A waiting binary operator takes its right operand when no tighter one goes on with it. -/
theorem proceed_binary {symbol : String} {offset floor : Nat} {left : Subtree}
    (h : grammar.joins? (.binary symbol offset floor left :: pending) spanned.token = none)
    (fits : max left.height subtree.height + 1 ≤ grammar.maxHeight) :
    grammar.proceed spanned subtree (.binary symbol offset floor left :: pending) =
      grammar.proceed spanned ⟨.binary symbol left.expr subtree.expr offset,
        max left.height subtree.height + 1⟩ pending := by
  rw [proceed, h, apply, build_of_le fits]
  rfl

/-- A waiting ternary operator takes its last operand when no tighter one goes on with it. -/
theorem proceed_alternative {symbol : String} {offset floor : Nat} {condition ifTrue : Subtree}
    (h : grammar.joins? (.alternative symbol offset floor condition ifTrue :: pending)
      spanned.token = none)
    (fits : max (max condition.height ifTrue.height) subtree.height + 1 ≤ grammar.maxHeight) :
    grammar.proceed spanned subtree (.alternative symbol offset floor condition ifTrue :: pending) =
      grammar.proceed spanned ⟨.ternary symbol condition.expr ifTrue.expr subtree.expr offset,
        max (max condition.height ifTrue.height) subtree.height + 1⟩ pending := by
  rw [proceed, h, apply, build_of_le fits]
  rfl

/-- The separator ends the second operand of the ternary operator that waits for it. -/
theorem proceed_ternary {symbol separator : String} {offset floor between : Nat}
    {condition : Subtree} (apart : grammar.joiner? separator = none) :
    grammar.proceed ⟨.operator separator, between⟩ subtree
        (.ternary symbol separator offset floor condition :: pending) =
      .ok ⟨.alternative symbol offset floor condition subtree :: pending, .expression⟩ := by
  have h : grammar.joins? (.ternary symbol separator offset floor condition :: pending)
      (Spanned.mk (.operator separator) between).token = none := by
    apply joins?_eq_none_of_not_joiner
    rintro symbol' hsymbol
    cases hsymbol
    exact apart
  simp [proceed, h]

theorem proceed_group {opening closing : Nat} :
    grammar.proceed ⟨.rightParen, closing⟩ subtree (.group opening :: pending) =
      grammar.complete subtree pending := by
  simp [proceed, joins?]

theorem proceed_call_comma {name : String} {bounds : ArgBounds} {offset opening between : Nat}
    {args : List Subtree} :
    grammar.proceed ⟨.comma, between⟩ subtree
        (.call name bounds offset opening args :: pending) =
      .ok ⟨.call name bounds offset opening (subtree :: args) :: pending, .expression⟩ := by
  simp [proceed, joins?]

/-- A parenthesis that closes ends the last argument and the call. -/
theorem proceed_call_close {name : String} {bounds : ArgBounds} {offset opening closing : Nat}
    {args : List Subtree} :
    grammar.proceed ⟨.rightParen, closing⟩ subtree
        (.call name bounds offset opening args :: pending) =
      grammar.applyCall name bounds offset (subtree :: args) >>= fun tree =>
        grammar.complete tree pending := by
  simp [proceed, joins?]

/-- A call with as many arguments as the function accepts is built, if it is not too high. -/
theorem applyCall_of_admits {name : String} {bounds : ArgBounds} {offset : Nat}
    {args : List Subtree} (admitted : bounds.admits args.length = true)
    (fits : (args.map Subtree.height).foldl max 0 + 1 ≤ grammar.maxHeight) :
    grammar.applyCall name bounds offset args =
      .ok ⟨.call name (args.reverse.map Subtree.expr) offset,
        (args.map Subtree.height).foldl max 0 + 1⟩ := by
  rw [applyCall, if_pos admitted, build_of_le fits]

end Grammar

/-! ## The rules of grouping as conditions on the surroundings -/

namespace Bracketed

variable {grammar : Grammar σ} {registry : Registry σ} {pending : List Construct}
  {operator : Operator σ} {operand tree : Bracketed} {token : Token}

/-- What fits as the right operand of a binary operator is admitted as such. -/
theorem admitted_of_fitsRight_binary {symbol : String} {offset : Nat} {left : Subtree}
    (fits : operand.FitsRight registry operator) :
    operand.Admitted registry
      (.binary symbol offset operator.rightPrecedence left :: pending) := by
  intro joint h
  simpa [Construct.admits] using fits joint h

theorem admitted_of_fitsRight_alternative {symbol : String} {offset : Nat}
    {condition ifTrue : Subtree} (fits : operand.FitsRight registry operator) :
    operand.Admitted registry
      (.alternative symbol offset operator.rightPrecedence condition ifTrue :: pending) := by
  intro joint h
  simpa [Construct.admits] using fits joint h

/-- Where an operator is admitted, so is what may be its left operand. -/
theorem admitted_of_fitsLeft
    (admits : pending.head?.all (Construct.admits operator.precedence.toNat) = true)
    (fits : operand.FitsLeft registry operator) : operand.Admitted registry pending := by
  intro joint h
  have hless : operator.precedence.toNat ≤ joint.precedence.toNat := by
    have := fits joint h
    have := joint.rightPrecedence_le
    omega
  cases pending with
  | nil => rfl
  | cons construct outer => exact Construct.admits_mono hless admits

/-- An operator ends what may be its left operand. -/
theorem endsBefore_of_fitsLeft {symbol : String} {joiner : Joiner}
    (hjoiner : grammar.joiner? symbol = some joiner)
    (hprecedence : joiner.precedence = operator.precedence.toNat)
    (fits : operand.FitsLeft grammar.registry operator) :
    operand.EndsBefore grammar (.operator symbol) := by
  rintro symbol' joiner' hsymbol hjoiner' joint h
  cases hsymbol
  rw [hjoiner] at hjoiner'
  rw [← Option.some.inj hjoiner', hprecedence]
  exact fits joint h

/-- What ends a tree ends its last operand. -/
theorem endsBefore_of_fitsRight (ends : tree.EndsBefore grammar token)
    (hjoint : tree.joint? grammar.registry = some operator)
    (fits : operand.FitsRight grammar.registry operator) : operand.EndsBefore grammar token := by
  intro symbol joiner htoken hjoiner joint h
  calc
    joiner.precedence < operator.rightPrecedence :=
      ends symbol joiner htoken hjoiner operator hjoint
    _ ≤ joint.precedence.toNat := fits joint h
    _ ≤ joint.rightPrecedence := joint.precedence_le_rightPrecedence

/-- The construct of an operator lets go of its last operand at a token that ends the tree. -/
theorem joins?_eq_none_of_endsBefore {spanned : Spanned} {construct : Construct}
    {outer : List Construct} (ends : tree.EndsBefore grammar spanned.token)
    (hjoint : tree.joint? grammar.registry = some operator)
    (hadmits : ∀ precedence, construct.admits precedence =
      decide (operator.rightPrecedence ≤ precedence)) :
    grammar.joins? (construct :: outer) spanned.token = none := by
  apply Grammar.joins?_eq_none_of_not_admits
  intro symbol joiner htoken hjoiner
  have hless := ends symbol joiner htoken hjoiner operator hjoint
  rw [hadmits]
  exact decide_eq_false (by omega)

end Bracketed

/-! ## Reading a tree -/

namespace Grammar

variable {grammar : Grammar σ}

/-- After the tokens of the tree and one more, the grammar is where it would be had it found the
tree as one operand before the last token. -/
def ReadsThrough (grammar : Grammar σ) (tree : Bracketed) : Prop :=
  ∀ ⦃spans : List Spanned⦄ ⦃subtree : Subtree⦄ ⦃pending : List Construct⦄ ⦃focus : Focus⦄
    ⦃next : Spanned⦄, tree.Reads spans subtree →
    (focus = .expression ∨ focus = .operand ∧ tree.isJoined = false) →
    tree.Admitted grammar.registry pending →
    tree.EndsBefore grammar next.token → next.token ≠ .leftParen →
    pending.length + tree.levels ≤ grammar.maxDepth → tree.height ≤ grammar.maxHeight →
    (spans ++ [next]).foldlM grammar.step ⟨pending, focus⟩ = grammar.follow next subtree pending

theorem readsThrough_constant (value : Float) : grammar.ReadsThrough (.constant value) := by
  intro spans subtree pending focus next reads hfocus _ _ _ deep _
  obtain ⟨⟨token, offset⟩, rfl, htoken⟩ := List.map_eq_singleton_iff.1 reads.tokens
  cases htoken
  rw [reads.unique (.constant value offset)]
  have hbegin : grammar.step ⟨pending, focus⟩ ⟨.number value, offset⟩ =
      grammar.complete ⟨.constant value, 1⟩ pending :=
    step_of_begin (hfocus.imp_right And.left) deep (by simp) (by simp) (by simp)
  simp only [List.cons_append, List.nil_append, List.foldlM_cons, List.foldlM_nil, hbegin,
    bind_pure]
  exact complete_bind_step _ _ _

theorem readsThrough_var (name : String) : grammar.ReadsThrough (.var name) := by
  intro spans subtree pending focus next reads hfocus _ _ notCall deep _
  obtain ⟨⟨token, offset⟩, rfl, htoken⟩ := List.map_eq_singleton_iff.1 reads.tokens
  cases htoken
  rw [reads.unique (.var name offset)]
  have hbegin : grammar.step ⟨pending, focus⟩ ⟨.name name, offset⟩ =
      .ok ⟨pending, .name name offset⟩ :=
    step_of_begin (hfocus.imp_right And.left) deep (by simp) (by simp) (by simp)
  have hnext : grammar.step ⟨pending, .name name offset⟩ next =
      grammar.follow next ⟨.var name, 1⟩ pending := by
    unfold step
    split
    · contradiction
    · contradiction
    · next h =>
      cases h
      split
      · contradiction
      · rfl
    · contradiction
  simp only [List.cons_append, List.nil_append, List.foldlM_cons, List.foldlM_nil, hbegin,
    bind_pure]
  exact hnext

/-- A prefix operator and its operand are read as one operand. -/
theorem readsThrough_unary {symbol : String} {operator : Operator σ} {operand : Bracketed}
    (resolved : grammar.registry.resolve? symbol .unary = some operator)
    (tight : operand.isJoined = false) (through : grammar.ReadsThrough operand) :
    grammar.ReadsThrough (.unary symbol operand) := by
  intro spans subtree pending focus next reads hfocus _ _ notCall deep tall
  obtain ⟨⟨token, offset⟩, operands, rfl, htoken, hoperands⟩ :=
    List.map_eq_cons_iff.1 reads.tokens
  cases htoken
  obtain ⟨inner, hoperand⟩ := Bracketed.Reads.exists_of_tokens hoperands
  rw [reads.unique (hoperand.unary symbol offset)]
  simp only [Bracketed.levels, Bracketed.height] at deep tall
  have hlevels := operand.levels_pos
  have hbegin : grammar.step ⟨pending, focus⟩ ⟨.operator symbol, offset⟩ =
      .ok ⟨.unary symbol offset :: pending, .operand⟩ :=
    (step_of_begin (hfocus.imp_right And.left) (by simp only [Reading.depth]; omega) (by simp)
      (by simp) (by simp)).trans (beginOperand_unary resolved (by omega))
  rw [List.cons_append, List.foldlM_cons, hbegin]
  calc
    (operands ++ [next]).foldlM grammar.step ⟨.unary symbol offset :: pending, .operand⟩
      = grammar.follow next inner (.unary symbol offset :: pending) :=
        through hoperand (.inr ⟨rfl, tight⟩) (Bracketed.admitted_of_tight tight)
          (Bracketed.endsBefore_of_tight tight) notCall (by simp; omega) (by omega)
    _ = grammar.follow next ⟨.unary symbol inner.expr offset, inner.height + 1⟩ pending :=
        follow_unary (by rw [hoperand.height_eq]; exact tall)

/-- Two operands are read as one with the binary operator between them. -/
theorem readsThrough_binary {symbol : String} {operator : Operator σ} {left right : Bracketed}
    (resolved : grammar.registry.resolve? symbol .binary = some operator)
    (fitsLeft : left.FitsLeft grammar.registry operator)
    (fitsRight : right.FitsRight grammar.registry operator)
    (throughLeft : grammar.ReadsThrough left) (throughRight : grammar.ReadsThrough right) :
    grammar.ReadsThrough (.binary symbol left right) := by
  intro spans subtree pending focus next reads hfocus admitted ends notCall deep tall
  have hfocus : focus = .expression := by simpa [Bracketed.isJoined] using hfocus
  obtain ⟨lefts, rest, rfl, hlefts, hrest⟩ := List.map_eq_append_iff.1 reads.tokens
  obtain ⟨⟨token, offset⟩, rights, rfl, htoken, hrights⟩ := List.map_eq_cons_iff.1 hrest
  cases htoken
  obtain ⟨l, hleft⟩ := Bracketed.Reads.exists_of_tokens hlefts
  obtain ⟨r, hright⟩ := Bracketed.Reads.exists_of_tokens hrights
  rw [reads.unique (hleft.binary hright symbol offset)]
  simp only [Bracketed.levels, Bracketed.height] at deep tall
  have hjoint : (Bracketed.binary symbol left right).joint? grammar.registry = some operator :=
    resolved
  have admits := admitted operator hjoint
  have hjoiner := joiner?_of_binary resolved
  rw [← hleft.height_eq, ← hright.height_eq] at tall
  have hjoin :
      (lefts ++ [(⟨.operator symbol, offset⟩ : Spanned)]).foldlM grammar.step ⟨pending, focus⟩ =
        .ok ⟨.binary symbol offset operator.rightPrecedence l :: pending, .expression⟩ := by
    rw [throughLeft hleft (.inl hfocus) (Bracketed.admitted_of_fitsLeft admits fitsLeft)
      (Bracketed.endsBefore_of_fitsLeft hjoiner rfl fitsLeft) (by simp) (by omega)
      (by rw [← hleft.height_eq]; omega)]
    rw [follow_of_settled (settled_of_admits admits),
      proceed_of_joins? (joins?_of_admits hjoiner admits)]
    rfl
  have hclose : grammar.joins? (.binary symbol offset operator.rightPrecedence l :: pending)
      next.token = none :=
    Bracketed.joins?_eq_none_of_endsBefore ends hjoint fun _ => rfl
  rw [show lefts ++ ⟨.operator symbol, offset⟩ :: rights ++ [next] =
    (lefts ++ [(⟨.operator symbol, offset⟩ : Spanned)]) ++ (rights ++ [next]) by simp,
    List.foldlM_append, hjoin]
  calc
    (rights ++ [next]).foldlM grammar.step
        ⟨.binary symbol offset operator.rightPrecedence l :: pending, .expression⟩
      = grammar.follow next r (.binary symbol offset operator.rightPrecedence l :: pending) :=
        throughRight hright (.inl rfl) (Bracketed.admitted_of_fitsRight_binary fitsRight)
          (Bracketed.endsBefore_of_fitsRight ends hjoint fitsRight) notCall
          (by simp only [List.length_cons]; omega) (by rw [← hright.height_eq]; omega)
    _ = grammar.proceed next ⟨.binary symbol l.expr r.expr offset, max l.height r.height + 1⟩
          pending := by
        rw [follow_of_settled (by simp [Settled]), proceed_binary hclose (by omega)]
    _ = grammar.follow next ⟨.binary symbol l.expr r.expr offset, max l.height r.height + 1⟩
          pending :=
        (follow_of_settled (settled_of_admits admits)).symm

/-- Three operands are read as one with symbol and separator of a ternary operator between them. -/
theorem readsThrough_ternary {symbol separator : String} {operator : Operator σ}
    {condition ifTrue ifFalse : Bracketed}
    (notBinary : grammar.registry.resolve? symbol .binary = none)
    (resolved : grammar.registry.resolve? symbol .ternary = some operator)
    (separated : operator.separator? = some separator)
    (apart : grammar.joiner? separator = none)
    (fitsLeft : condition.FitsLeft grammar.registry operator)
    (fitsRight : ifFalse.FitsRight grammar.registry operator)
    (throughCondition : grammar.ReadsThrough condition) (throughTrue : grammar.ReadsThrough ifTrue)
    (throughFalse : grammar.ReadsThrough ifFalse) :
    grammar.ReadsThrough (.ternary symbol separator condition ifTrue ifFalse) := by
  intro spans subtree pending focus next reads hfocus admitted ends notCall deep tall
  have hfocus : focus = .expression := by simpa [Bracketed.isJoined] using hfocus
  obtain ⟨conditions, rest, rfl, hconditions, hrest⟩ := List.map_eq_append_iff.1 reads.tokens
  obtain ⟨⟨token, offset⟩, rest, rfl, htoken, hbranches⟩ := List.map_eq_cons_iff.1 hrest
  cases htoken
  obtain ⟨trues, rest, rfl, htrues, hlast⟩ := List.map_eq_append_iff.1 hbranches
  obtain ⟨⟨token, between⟩, falses, rfl, htoken, hfalses⟩ := List.map_eq_cons_iff.1 hlast
  cases htoken
  obtain ⟨c, hcondition⟩ := Bracketed.Reads.exists_of_tokens hconditions
  obtain ⟨t, htrue⟩ := Bracketed.Reads.exists_of_tokens htrues
  obtain ⟨f, hfalse⟩ := Bracketed.Reads.exists_of_tokens hfalses
  rw [reads.unique (hcondition.ternary htrue hfalse symbol separator offset between)]
  simp only [Bracketed.levels, Bracketed.height] at deep tall
  rw [← hcondition.height_eq, ← htrue.height_eq, ← hfalse.height_eq] at tall
  have hjoint : (Bracketed.ternary symbol separator condition ifTrue ifFalse).joint?
      grammar.registry = some operator := resolved
  have admits := admitted operator hjoint
  have hjoiner := joiner?_of_ternary notBinary resolved separated
  have hjoin : (conditions ++ [(⟨.operator symbol, offset⟩ : Spanned)]).foldlM grammar.step
      ⟨pending, focus⟩ =
      .ok ⟨.ternary symbol separator offset operator.rightPrecedence c :: pending,
        .expression⟩ := by
    rw [throughCondition hcondition (.inl hfocus) (Bracketed.admitted_of_fitsLeft admits fitsLeft)
      (Bracketed.endsBefore_of_fitsLeft hjoiner rfl fitsLeft) (by simp) (by omega)
      (by rw [← hcondition.height_eq]; omega)]
    rw [follow_of_settled (settled_of_admits admits),
      proceed_of_joins? (joins?_of_admits hjoiner admits)]
    rfl
  have hseparate : (trues ++ [(⟨.operator separator, between⟩ : Spanned)]).foldlM grammar.step
      ⟨.ternary symbol separator offset operator.rightPrecedence c :: pending, .expression⟩ =
      .ok ⟨.alternative symbol offset operator.rightPrecedence c t :: pending, .expression⟩ := by
    rw [throughTrue htrue (.inl rfl) (fun _ _ => rfl)
      (Bracketed.endsBefore_of_not_joiner (by rintro _ ⟨⟩; exact apart)) (by simp)
      (by simp only [List.length_cons]; omega) (by rw [← htrue.height_eq]; omega)]
    rw [follow_of_settled (by simp [Settled]), proceed_ternary apart]
  have hclose : grammar.joins?
      (.alternative symbol offset operator.rightPrecedence c t :: pending) next.token = none :=
    Bracketed.joins?_eq_none_of_endsBefore ends hjoint fun _ => rfl
  rw [show conditions ++ ⟨.operator symbol, offset⟩ ::
      (trues ++ ⟨.operator separator, between⟩ :: falses) ++ [next] =
    (conditions ++ [(⟨.operator symbol, offset⟩ : Spanned)]) ++
      ((trues ++ [(⟨.operator separator, between⟩ : Spanned)]) ++ (falses ++ [next])) by simp,
    List.foldlM_append, hjoin]
  show ((trues ++ [(⟨.operator separator, between⟩ : Spanned)]) ++ (falses ++ [next])).foldlM
    grammar.step _ = _
  rw [List.foldlM_append, hseparate]
  calc
    (falses ++ [next]).foldlM grammar.step
        ⟨.alternative symbol offset operator.rightPrecedence c t :: pending, .expression⟩
      = grammar.follow next f
          (.alternative symbol offset operator.rightPrecedence c t :: pending) :=
        throughFalse hfalse (.inl rfl) (Bracketed.admitted_of_fitsRight_alternative fitsRight)
          (Bracketed.endsBefore_of_fitsRight ends hjoint fitsRight) notCall
          (by simp only [List.length_cons]; omega) (by rw [← hfalse.height_eq]; omega)
    _ = grammar.proceed next ⟨.ternary symbol c.expr t.expr f.expr offset,
          max (max c.height t.height) f.height + 1⟩ pending := by
        rw [follow_of_settled (by simp [Settled]), proceed_alternative hclose (by omega)]
    _ = grammar.follow next ⟨.ternary symbol c.expr t.expr f.expr offset,
          max (max c.height t.height) f.height + 1⟩ pending :=
        (follow_of_settled (settled_of_admits admits)).symm

/-- What stands in parentheses is read as one operand, be it joined or not. -/
theorem readsThrough_group {inner : Bracketed} (through : grammar.ReadsThrough inner) :
    grammar.ReadsThrough (.group inner) := by
  intro spans subtree pending focus next reads hfocus _ _ notCall deep tall
  obtain ⟨⟨token, opening⟩, rest, rfl, htoken, hrest⟩ := List.map_eq_cons_iff.1 reads.tokens
  cases htoken
  obtain ⟨inners, rest, rfl, hinners, hrest⟩ := List.map_eq_append_iff.1 hrest
  obtain ⟨⟨token, closing⟩, rfl, htoken⟩ := List.map_eq_singleton_iff.1 hrest
  cases htoken
  obtain ⟨i, hinner⟩ := Bracketed.Reads.exists_of_tokens hinners
  rw [reads.unique (hinner.group opening closing)]
  simp only [Bracketed.levels, Bracketed.height] at deep tall
  have hbegin : grammar.step ⟨pending, focus⟩ ⟨.leftParen, opening⟩ =
      .ok ⟨.group opening :: pending, .expression⟩ :=
    step_of_begin (hfocus.imp_right And.left) (by simp only [Reading.depth]; omega) (by simp)
      (by simp) (by simp)
  have hinside : (inners ++ [(⟨.rightParen, closing⟩ : Spanned)]).foldlM grammar.step
      ⟨.group opening :: pending, .expression⟩ = grammar.complete i pending := by
    rw [through hinner (.inl rfl) (fun _ _ => rfl) (Bracketed.endsBefore_of_not_joiner (by simp))
      (by simp) (by simp only [List.length_cons]; omega) tall]
    rw [follow_of_settled (by simp [Settled]), proceed_group]
  rw [List.cons_append, List.foldlM_cons, hbegin]
  show ((inners ++ [(⟨.rightParen, closing⟩ : Spanned)]) ++ [next]).foldlM grammar.step _ = _
  rw [List.foldlM_append, hinside]
  simp only [List.foldlM_cons, List.foldlM_nil, bind_pure]
  exact complete_bind_step i pending next

/-! ## Reading the arguments of a call -/

/-- One more argument is put in front. What has been read stands in reverse order. -/
theorem readsArgs_cons {first : Bracketed} {rest : List Bracketed} {firsts rests : List Spanned}
    {subtree : Subtree} {subtrees : List Subtree} (hfirst : first.Reads firsts subtree)
    (between : Nat) (hrest : Bracketed.ReadsArgs rest rests subtrees) :
    Bracketed.ReadsArgs (first :: rest) (firsts ++ ⟨.comma, between⟩ :: rests)
      (subtrees ++ [subtree]) := by
  induction hrest with
  | first reads => exact .next (.first hfirst) between reads
  | next before offset reads ih => simpa using ih.next offset reads

/-- From the start of an argument on, the arguments up to the closing parenthesis are added to
those before. -/
theorem foldlM_step_args (name : String) (bounds : ArgBounds) (offset opening closing : Nat)
    (pending : List Construct) {first : Bracketed} {rest : List Bracketed}
    (through : ∀ arg ∈ first :: rest, grammar.ReadsThrough arg) {spans : List Spanned}
    (htokens : spans.map Spanned.token = first.tokens ++ Bracketed.tokensRest rest)
    (before : List Subtree)
    (deep : pending.length + 1 + Bracketed.levelsAll (first :: rest) ≤ grammar.maxDepth)
    (tall : Bracketed.heightAll (first :: rest) ≤ grammar.maxHeight) :
    ∃ subtrees, Bracketed.ReadsArgs (first :: rest) spans subtrees ∧
      (spans ++ [(⟨.rightParen, closing⟩ : Spanned)]).foldlM grammar.step
          ⟨.call name bounds offset opening before :: pending, .expression⟩ =
        grammar.applyCall name bounds offset (subtrees ++ before) >>= fun tree =>
          grammar.complete tree pending := by
  simp only [Bracketed.levelsAll, Bracketed.heightAll] at deep tall
  have throughFirst := through first List.mem_cons_self
  induction rest generalizing first spans before with
  | nil =>
    rw [Bracketed.tokensRest, List.append_nil] at htokens
    obtain ⟨subtree, hfirst⟩ := Bracketed.Reads.exists_of_tokens htokens
    refine ⟨[subtree], .first hfirst, ?_⟩
    rw [throughFirst hfirst (.inl rfl) (fun _ _ => rfl)
      (Bracketed.endsBefore_of_not_joiner (by simp)) (by simp)
      (by simp only [List.length_cons]; omega) (by omega)]
    rw [follow_of_settled (by simp [Settled]), proceed_call_close]
    rfl
  | cons second rest ih =>
    obtain ⟨firsts, others, rfl, hfirsts, hrests⟩ := List.map_eq_append_iff.1 htokens
    obtain ⟨⟨token, between⟩, others, rfl, htoken, hothers⟩ := List.map_eq_cons_iff.1 hrests
    cases htoken
    simp only [Bracketed.levelsAll, Bracketed.heightAll] at deep tall
    obtain ⟨subtree, hfirst⟩ := Bracketed.Reads.exists_of_tokens hfirsts
    have hcomma : (firsts ++ [(⟨.comma, between⟩ : Spanned)]).foldlM grammar.step
        ⟨.call name bounds offset opening before :: pending, .expression⟩ =
        .ok ⟨.call name bounds offset opening (subtree :: before) :: pending, .expression⟩ := by
      rw [throughFirst hfirst (.inl rfl) (fun _ _ => rfl)
        (Bracketed.endsBefore_of_not_joiner (by simp)) (by simp)
        (by simp only [List.length_cons]; omega) (by omega)]
      rw [follow_of_settled (by simp [Settled]), proceed_call_comma]
    obtain ⟨subtrees, hrest, hrun⟩ := ih
      (fun arg member => through arg (List.mem_cons_of_mem _ member)) hothers (subtree :: before)
      (by omega) (by omega) (through second (by simp))
    refine ⟨subtrees ++ [subtree], readsArgs_cons hfirst between hrest, ?_⟩
    rw [show firsts ++ ⟨.comma, between⟩ :: others ++ [⟨.rightParen, closing⟩] =
      (firsts ++ [(⟨.comma, between⟩ : Spanned)]) ++ (others ++ [⟨.rightParen, closing⟩]) by simp,
      List.foldlM_append, hcomma, List.append_assoc]
    exact hrun

/-- A call is read as one operand if the function accepts its arguments. -/
theorem readsThrough_call {name : String} {operator : Operator σ} {bounds : ArgBounds}
    {args : List Bracketed} (resolved : grammar.registry.function? name = some operator)
    (bounded : operator.bounds? = some bounds) (admitted : bounds.admits args.length = true)
    (through : ∀ arg ∈ args, grammar.ReadsThrough arg) :
    grammar.ReadsThrough (.call name args) := by
  intro spans subtree pending focus next reads hfocus _ _ notCall deep tall
  simp only [Bracketed.levels, Bracketed.height] at deep tall
  have hname (offset : Nat) : grammar.step ⟨pending, focus⟩ ⟨.name name, offset⟩ =
      .ok ⟨pending, .name name offset⟩ :=
    step_of_begin (hfocus.imp_right And.left) (by simp only [Reading.depth]; omega) (by simp)
      (by simp) (by simp)
  have hopen (offset opening : Nat) :
      grammar.step ⟨pending, .name name offset⟩ ⟨.leftParen, opening⟩ =
        .ok ⟨.call (Symbol.normalize name) bounds offset opening [] :: pending, .expression⟩ := by
    simp only [step, signature?_of_function? resolved bounded]
  -- A call without arguments closes where an argument could begin.
  cases args with
  | nil =>
    obtain ⟨⟨token, offset⟩, rest, rfl, htoken, hrest⟩ := List.map_eq_cons_iff.1 reads.tokens
    cases htoken
    obtain ⟨⟨token, opening⟩, rest, rfl, htoken, hclosing⟩ := List.map_eq_cons_iff.1 hrest
    cases htoken
    obtain ⟨⟨token, closing⟩, rfl, htoken⟩ := List.map_eq_singleton_iff.1 hclosing
    cases htoken
    rw [reads.unique (Bracketed.ReadsArgs.nil_call name offset opening closing)]
    have hclose : grammar.step
        ⟨.call (Symbol.normalize name) bounds offset opening [] :: pending, .expression⟩
        ⟨.rightParen, closing⟩ =
        grammar.complete ⟨.call (Symbol.normalize name) [] offset, 1⟩ pending := by
      simp only [step, beginExpression]
      rw [applyCall_of_admits admitted (by simpa [Bracketed.heightAll] using tall)]
      rfl
    simp only [List.cons_append, List.nil_append, List.foldlM_cons, List.foldlM_nil, hname,
      bind_pure]
    show (grammar.step ⟨pending, .name name offset⟩ ⟨.leftParen, opening⟩ >>= _) = _
    rw [hopen]
    show (grammar.step _ ⟨.rightParen, closing⟩ >>= _) = _
    rw [hclose]
    exact complete_bind_step _ pending next
  | cons first rest =>
    obtain ⟨⟨token, offset⟩, spans, rfl, htoken, hparen⟩ := List.map_eq_cons_iff.1 reads.tokens
    cases htoken
    obtain ⟨⟨token, opening⟩, spans, rfl, htoken, hrest⟩ := List.map_eq_cons_iff.1 hparen
    cases htoken
    obtain ⟨inners, spans, rfl, hinners, hclosing⟩ := List.map_eq_append_iff.1 hrest
    obtain ⟨⟨token, closing⟩, rfl, htoken⟩ := List.map_eq_singleton_iff.1 hclosing
    cases htoken
    obtain ⟨subtrees, hargs, hrun⟩ := foldlM_step_args (Symbol.normalize name) bounds offset
      opening closing pending through hinners [] (by omega) (by omega)
    have hcall := hargs.call name offset opening closing
    rw [reads.unique hcall]
    have happly : grammar.applyCall (Symbol.normalize name) bounds offset (subtrees ++ []) =
        .ok ⟨.call (Symbol.normalize name) (subtrees.reverse.map Subtree.expr) offset,
          (subtrees.map Subtree.height).foldl max 0 + 1⟩ := by
      rw [List.append_nil]
      apply applyCall_of_admits
      · rw [← hargs.length_eq]
        exact admitted
      · have := hcall.height_eq
        simp only [Bracketed.height] at this
        omega
    rw [happly] at hrun
    rw [show (⟨.name name, offset⟩ :: ⟨.leftParen, opening⟩ ::
        (inners ++ [⟨.rightParen, closing⟩]) ++ [next] : List Spanned) =
      ⟨.name name, offset⟩ :: ⟨.leftParen, opening⟩ ::
        ((inners ++ [⟨.rightParen, closing⟩]) ++ [next]) by simp,
      List.foldlM_cons, hname]
    show (grammar.step ⟨pending, .name name offset⟩ ⟨.leftParen, opening⟩ >>= _) = _
    rw [hopen]
    show ((inners ++ [(⟨.rightParen, closing⟩ : Spanned)]) ++ [next]).foldlM grammar.step _ = _
    rw [List.foldlM_append, hrun]
    simp only [List.foldlM_cons, List.foldlM_nil, bind_pure]
    exact complete_bind_step _ pending next

/-- Every well-grouped tree is read as one operand. -/
theorem foldlM_step_reads {tree : Bracketed} (apart : grammar.registry.SeparatorsApart)
    (grouped : tree.Grouped grammar.registry) : grammar.ReadsThrough tree := by
  induction grouped with
  | constant value => exact readsThrough_constant value
  | var name => exact readsThrough_var name
  | unary resolved grouped tight ih => exact readsThrough_unary resolved tight ih
  | binary resolved _ _ fitsLeft fitsRight ihl ihr =>
    exact readsThrough_binary resolved fitsLeft fitsRight ihl ihr
  | ternary notBinary resolved separated _ _ _ fitsLeft fitsRight ihc iht ihf =>
    have hmember := (Registry.resolve?_eq_some_iff.1 resolved).1
    have hapart := apart _ hmember _ separated
    exact readsThrough_ternary notBinary resolved separated (joiner?_eq_none hapart.1 hapart.2)
      fitsLeft fitsRight ihc iht ihf
  | call resolved bounded admitted _ ih =>
    exact readsThrough_call resolved bounded (ArgBounds.admits_iff.2 admitted) ih
  | group grouped ih => exact readsThrough_group ih

/-- The tokens of a tree that is read as one operand are read as the tree without its parentheses,
if the limits leave room for its levels and its height. -/
theorem read_of_readsThrough {tree : Bracketed} (through : grammar.ReadsThrough tree)
    {lexed : Lexed} {ending : Nat} (hending : lexed.ending = .ok ending)
    (htokens : lexed.tokens.map Spanned.token = tree.tokens)
    (deep : tree.levels ≤ grammar.maxDepth) (tall : tree.height ≤ grammar.maxHeight) :
    grammar.read lexed = .ok (tree.expr (lexed.tokens.map Spanned.offset)) := by
  obtain ⟨subtree, reads⟩ := Bracketed.Reads.exists_of_tokens htokens
  have hrun : (lexed.tokens ++ [(⟨.finish, ending⟩ : Spanned)]).foldlM grammar.step Reading.start =
      grammar.follow ⟨.finish, ending⟩ subtree [] :=
    through reads (.inl rfl) (fun _ _ => rfl) (Bracketed.endsBefore_of_not_joiner (by simp))
      (by simp) (by simpa using deep) tall
  have hfollow : grammar.follow ⟨.finish, ending⟩ subtree [] = .ok ⟨[], .complete subtree⟩ := by
    rw [follow_of_settled (by simp [Settled])]
    simp [proceed, joins?]
  rw [hfollow, List.foldlM_append] at hrun
  simp only [List.foldlM_cons, List.foldlM_nil, bind_pure] at hrun
  unfold read finish
  rw [hending]
  show (lexed.tokens.foldlM grammar.step Reading.start >>= fun reading =>
    grammar.step reading ⟨.finish, ending⟩ >>= _) = _
  rw [← bind_assoc, hrun, ← reads.expr]
  rfl

/-- The tokens of a well-grouped tree are read as its expression, each node at the offset of its
token. -/
theorem read_of_grouped {tree : Bracketed} (apart : grammar.registry.SeparatorsApart)
    (grouped : tree.Grouped grammar.registry) {lexed : Lexed} {ending : Nat}
    (hending : lexed.ending = .ok ending)
    (htokens : lexed.tokens.map Spanned.token = tree.tokens)
    (deep : tree.levels ≤ grammar.maxDepth) (tall : tree.height ≤ grammar.maxHeight) :
    grammar.read lexed = .ok (tree.expr (lexed.tokens.map Spanned.offset)) :=
  read_of_readsThrough (foldlM_step_reads apart grouped) hending htokens deep tall

/-- Two well-grouped trees with the same tokens are the same without their parentheses. -/
theorem expr_eq_of_tokens_eq {registry : Registry σ} (apart : registry.SeparatorsApart)
    {tree other : Bracketed} (grouped : tree.Grouped registry) (grouped' : other.Grouped registry)
    (same : other.tokens = tree.tokens) {offsets : List Nat}
    (hlength : offsets.length = tree.tokens.length) :
    other.expr offsets = tree.expr offsets := by
  -- These tokens have one reading, whatever the limits are, and both trees are it.
  let grammar : Grammar σ := ⟨registry, tree.tokens.length, tree.tokens.length⟩
  let lexed : Lexed := ⟨(tree.tokens.zip offsets).map fun (token, offset) => ⟨token, offset⟩, .ok 0⟩
  have htokens : lexed.tokens.map Spanned.token = tree.tokens := by
    simp only [lexed, List.map_map, Function.comp_def]
    exact List.map_fst_zip (by omega)
  have hoffsets : lexed.tokens.map Spanned.offset = offsets := by
    simp only [lexed, List.map_map, Function.comp_def]
    exact List.map_snd_zip (by omega)
  have hread {t : Bracketed} (grouped : t.Grouped registry) (h : t.tokens = tree.tokens) :
      grammar.read lexed = .ok (t.expr offsets) := by
    have deep : t.levels ≤ tree.tokens.length := h ▸ t.levels_le_length_tokens
    have tall : t.height ≤ tree.tokens.length := h ▸ t.height_le_length_tokens
    rw [← hoffsets]
    exact read_of_grouped apart grouped rfl (htokens.trans h.symm) deep tall
  have hother := hread grouped' same
  rw [hread grouped rfl] at hother
  exact (Except.ok.inj hother).symm

/-- **Completeness**: a text with the tokens of a well-grouped tree is read as that tree without
its parentheses and with the offsets of its operators and names in the text, if it may nest as
deep as it has tokens. The limit is a number of 64 bits. Hence the tokens determine the tree
without its parentheses. -/
theorem parse_eq_ok_of_grouped (registry : Registry σ) (apart : registry.SeparatorsApart)
    (tree : Bracketed) (grouped : tree.Grouped registry) :
    (∀ (text : String) (maxDepth : Nat), maxDepth ≤ 0xFFFFFFFFFFFFFFFF →
      (registry.lexicon.tokens text).ending.isOk = true →
      (registry.lexicon.tokens text).tokens.map Spanned.token = tree.tokens →
      tree.tokens.length ≤ maxDepth →
      Grammar.parse ⟨registry, maxDepth⟩ text =
        .ok (tree.expr ((registry.lexicon.tokens text).tokens.map Spanned.offset))) ∧
    ∀ other : Bracketed, other.Grouped registry → other.tokens = tree.tokens →
      ∀ offsets : List Nat, offsets.length = tree.tokens.length →
        other.expr offsets = tree.expr offsets := by
  constructor
  · intro text maxDepth counted lexes htokens deep
    have hlevels := tree.levels_le_length_tokens
    have hheight := tree.height_le_length_tokens
    have tall : tree.height ≤ min (4 * maxDepth) 0xFFFFFFFFFFFFFFFF := by omega
    cases hending : (registry.lexicon.tokens text).ending with
    | error e => simp [hending, Except.isOk, Except.toBool] at lexes
    | ok ending =>
      exact read_of_grouped apart grouped hending htokens (Nat.le_trans hlevels deep) tall
  · intro other grouped' same offsets hlength
    exact expr_eq_of_tokens_eq apart grouped grouped' same hlength

/-- A prefix operator, parentheses, a call in lower case and a conditional around them all. -/
def mixedTree : Bracketed :=
  .ternary "?" ":"
    (.binary "+" (.unary "-" (.var "a"))
      (.binary "*" (.var "b") (.group (.binary "-" (.var "c") (.var "d")))))
    (.call "max" [.var "a", .var "b"]) (.var "c")

/-- A text that has all kinds of trees in it. -/
theorem parse_mixedTree :
    Grammar.parse ⟨(Registry.builtin : Registry Generator), 19⟩ "-a + b * (c - d) ? max(a, b) : c" =
      .ok (.ternary "?"
        (.binary "+" (.unary "-" (.var "a") 0)
          (.binary "*" (.var "b") (.binary "-" (.var "c") (.var "d") 12) 7) 3)
        (.call "MAX" [.var "a", .var "b"] 19) (.var "c") 17) := by
  have htokens : ((Registry.builtin : Registry Generator).lexicon.tokens
      "-a + b * (c - d) ? max(a, b) : c").tokens.map Spanned.token = mixedTree.tokens := by
    decide +kernel
  have hoffsets : ((Registry.builtin : Registry Generator).lexicon.tokens
      "-a + b * (c - d) ? max(a, b) : c").tokens.map Spanned.offset =
        [0, 1, 3, 5, 7, 9, 10, 12, 14, 15, 17, 19, 22, 23, 24, 26, 27, 29, 31] := by
    decide +kernel
  have hparse := (parse_eq_ok_of_grouped (Registry.builtin : Registry Generator)
    (by decide +kernel) mixedTree (by decide +kernel)).1
    "-a + b * (c - d) ? max(a, b) : c" 19 (by decide) (by decide +kernel) htokens
    (by decide +kernel)
  rw [hparse, hoffsets]
  have hname : Symbol.normalize "max" = "MAX" := by decide +kernel
  simp [mixedTree, Bracketed.expr, Bracketed.exprAll, Bracketed.tokens, hname]

end Grammar

end Formulary
