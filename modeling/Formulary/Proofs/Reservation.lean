import Mathlib.Data.List.Basic
import Formulary.Proofs.Faults
import Formulary.Proofs.Folding

/-!
# Formulary.Proofs.Reservation

What compiling does to the table of variables, and where it puts the slots.

Compiling gives a slot to each variable as it comes to it. In terms of the table, it adds the names
that are new, in order of first appearance, with nothing bound to them
(`Variables.entries_reserveAll`). The slots that are in use are counted apart from that, and come to
as many as the expression has variables: two slots are the same only if they are of the same name,
wherever in the table they are (`Variables.slotsOf`).

`Expr.Becomes` relates an expression to what it is compiled to: the same shape, with slots of the
right names for variables and with values for some operations. No operation that has a variable
becomes a value, so all variables are found again (`Expr.Becomes.slots`).
-/

namespace Formulary

variable {σ : Type}

/-- The names without repetition are filtered like all of them. -/
theorem eraseDups_filter (p : String → Bool) (names : List String) :
    (names.filter p).eraseDups = names.eraseDups.filter p := by
  match names with
  | [] => rfl
  | name :: names =>
    have shorter := eraseDups_filter p (names.filter fun other => !other == name)
    have swapped : (names.filter p).filter (fun other => !other == name) =
        (names.filter fun other => !other == name).filter p := by
      simp only [List.filter_filter, Bool.and_comm]
    by_cases holds : p name = true
    · rw [List.filter_cons_of_pos holds, List.eraseDups_cons, List.eraseDups_cons,
        List.filter_cons_of_pos holds, swapped, shorter]
    · have same : names.filter p = (names.filter p).filter fun other => !other == name := by
        rw [List.filter_filter]
        apply List.filter_congr
        intro other _
        by_cases equal : other = name <;> simp_all
      rw [List.filter_cons_of_neg holds, List.eraseDups_cons, List.filter_cons_of_neg holds,
        ← shorter, ← swapped, ← same]
termination_by names.length
decreasing_by exact Nat.lt_succ_of_le (List.length_filter_le _ _)

/-! ## Names that are new -/

namespace Variables

variable {table : Variables σ} {name : String} {names : List String}

/-- The names that have no slot, each once, in order of first appearance. -/
def fresh (table : Variables σ) (names : List String) : List String :=
  names.eraseDups.filter (· ∉ table.slotNames)

/-- The entries of slots that nothing is bound in. -/
def vacant (names : List String) : List (Entry σ) := names.map (⟨·, none⟩)

@[simp] theorem map_name_vacant (names : List String) :
    (vacant names : List (Entry σ)).map Entry.name = names := by
  rw [vacant, List.map_map]
  exact List.map_id names

/-- A name that has a slot is not fresh. -/
theorem fresh_cons_of_mem (taken : name ∈ table.slotNames) :
    table.fresh (name :: names) = table.fresh names := by
  simp only [fresh, ← eraseDups_filter]
  rw [List.filter_cons_of_neg (by simpa using taken)]

/-- A name without a slot is fresh, but only once. -/
theorem fresh_cons_of_not_mem (absent : name ∉ table.slotNames) :
    table.fresh (name :: names) = name :: (table.reserve name).fresh names := by
  have others : (names.filter (· ∉ table.slotNames)).filter (fun other => !other == name) =
      names.filter (· ∉ (table.reserve name).slotNames) := by
    rw [List.filter_filter, slotNames_reserve, if_neg absent]
    apply List.filter_congr
    intro other _
    by_cases same : other = name <;> simp [same]
  simp only [fresh, ← eraseDups_filter]
  rw [List.filter_cons_of_pos (by simpa using absent), List.eraseDups_cons, others]

/-- Reserving adds the names that are new, with nothing bound to them. -/
theorem entries_reserveAll (table : Variables σ) (names : List String) :
    (table.reserveAll names).entries = table.entries ++ vacant (table.fresh names) := by
  induction names generalizing table with
  | nil => simp [reserveAll, fresh, vacant]
  | cons name names ih =>
    have first : table.reserveAll (name :: names) = (table.reserve name).reserveAll names := rfl
    rw [first, ih]
    by_cases taken : name ∈ table.slotNames
    · rw [reserve_of_mem taken, fresh_cons_of_mem taken]
    · rw [entries_reserve_of_not_mem taken, fresh_cons_of_not_mem taken]
      simp [vacant]

/-- Names that have slots need no more. -/
theorem reserveAll_of_subset (taken : ∀ name ∈ names, name ∈ table.slotNames) :
    table.reserveAll names = table := by
  induction names with
  | nil => rfl
  | cons name names ih =>
    obtain ⟨first, others⟩ := List.forall_mem_cons.1 taken
    have same : table.reserveAll (name :: names) = (table.reserve name).reserveAll names := rfl
    rw [same, reserve_of_mem first, ih others]

/-- The slots of names in a table whose slots have the names `names`: each once, the last that is
seen first. -/
def slotsOf (names seen : List String) : List Slot := (seen.eraseDups.map (slotOf names)).reverse

/-- A slot is new if its name is. -/
theorem slotsOf_append_singleton {seen : List String} (taken : name ∈ names) :
    slotsOf names (seen ++ [name]) = (slotsOf names seen).insert (slotOf names name) := by
  have known : slotOf names name ∈ slotsOf names seen ↔ name ∈ seen := by
    simp only [slotsOf, List.mem_reverse, List.mem_map, List.mem_eraseDups, slotOf, Slot.mk.injEq]
    constructor
    · rintro ⟨other, member, same⟩
      rwa [← (List.idxOf_inj taken).1 same.symm] at member
    · intro member
      exact ⟨name, member, rfl⟩
  rw [slotsOf, List.eraseDups_append]
  by_cases member : name ∈ seen
  · rw [List.insert_of_mem (known.2 member)]
    simp [slotsOf, List.removeAll, member]
  · rw [List.insert_of_not_mem (mt known.1 member)]
    simp [slotsOf, List.removeAll, member, List.eraseDups_cons]

end Variables

/-! ## What expressions become -/

namespace Node

mutual

/-- The slots that are read, from left to right, each as often as it appears. -/
def slots : Node σ → List Slot
  | constant _ => []
  | read slot => [slot]
  | unary _ operand => operand.slots
  | binary _ left right => left.slots ++ right.slots
  | ternary _ condition ifTrue ifFalse => condition.slots ++ ifTrue.slots ++ ifFalse.slots
  | call _ args => slotsAll args

/-- The slots of a list of nodes. -/
def slotsAll : List (Node σ) → List Slot
  | [] => []
  | arg :: args => arg.slots ++ slotsAll args

end

end Node

namespace Expr

/-- The node is what the expression may become with slots of these names: each variable is a slot
with its name, and an operation without variables may be a value. -/
inductive Becomes (names : List String) : Expr → Node σ → Prop
  | constant (value : Float) : Becomes names (.constant value) (.constant value)
  | var {name : String} {slot : Slot} (named : names[slot.index]? = some name) :
      Becomes names (.var name) (.read slot)
  | folded {expr : Expr} (value : Float) (closed : expr.occurrences = []) :
      Becomes names expr (.constant value)
  | unary {symbol : String} {operand : Expr} {offset : Nat} {body : Body σ Float} {o : Node σ}
      (ho : Becomes names operand o) :
      Becomes names (.unary symbol operand offset) (.unary body o)
  | binary {symbol : String} {left right : Expr} {offset : Nat} {body : Body σ (Float × Float)}
      {l r : Node σ} (hl : Becomes names left l) (hr : Becomes names right r) :
      Becomes names (.binary symbol left right offset) (.binary body l r)
  | ternary {symbol : String} {condition ifTrue ifFalse : Expr} {offset : Nat}
      {body : TernaryBody σ} {c t f : Node σ} (hc : Becomes names condition c)
      (ht : Becomes names ifTrue t) (hf : Becomes names ifFalse f) :
      Becomes names (.ternary symbol condition ifTrue ifFalse offset) (.ternary body c t f)
  | call {name : String} {args : List Expr} {offset : Nat} {body : Body σ (List Float)}
      {nodes : List (Node σ)} (all : List.Forall₂ (Becomes names) args nodes) :
      Becomes names (.call name args offset) (.call body nodes)

namespace Becomes

variable {names : List String} {expr : Expr} {node : Node σ} {args : List Expr}
  {nodes : List (Node σ)}

/-- What becomes a constant has no variables. -/
theorem closed_of_isConstant (h : expr.Becomes names node) (constant : node.isConstant = true) :
    expr.occurrences = [] := by
  cases h with
  | constant value => rfl
  | folded value closed => exact closed
  | _ => contradiction

/-- Arguments that were compiled to constants have no variables. -/
theorem closed_of_all_isConstant (all : List.Forall₂ (Becomes names) args nodes)
    (constant : nodes.all Node.isConstant = true) : occurrencesAll args = [] := by
  induction all with
  | nil => rfl
  | cons first _ ih =>
    rw [List.all_cons, Bool.and_eq_true] at constant
    rw [occurrencesAll, first.closed_of_isConstant constant.1, ih constant.2, List.append_nil]

/-- What is folded has no variables. -/
theorem closed_of_isReady (h : expr.Becomes names node) (ready : node.isReady = true) :
    expr.occurrences = [] := by
  cases h with
  | constant value => rfl
  | var named => contradiction
  | folded value closed => exact closed
  | @unary _ _ _ body _ ho =>
    cases body with
    | volatile run => contradiction
    | steady run => exact ho.closed_of_isConstant ready
  | @binary _ _ _ _ body _ _ hl hr =>
    cases body with
    | volatile run => contradiction
    | steady run =>
      simp only [Node.isReady, Bool.and_eq_true] at ready
      rw [occurrences, hl.closed_of_isConstant ready.1, hr.closed_of_isConstant ready.2,
        List.append_nil]
  | @ternary _ _ _ _ _ body _ _ _ hc ht hf =>
    cases body with
    | volatile run => contradiction
    | steady run =>
      simp only [Node.isReady, Bool.and_eq_true] at ready
      rw [occurrences, hc.closed_of_isConstant ready.1.1, ht.closed_of_isConstant ready.1.2,
        hf.closed_of_isConstant ready.2, List.append_nil, List.append_nil]
  | @call _ _ _ body _ all =>
    cases body with
    | volatile run => contradiction
    | steady run => exact closed_of_all_isConstant all ready

/-- The slots of several nodes are those of the variables, if it is so for each node. -/
theorem slotsAll_eq
    (ih : ∀ arg ∈ args, ∀ node : Node σ, arg.Becomes names node →
      node.slots.map (fun slot => names[slot.index]?) = arg.occurrences.map some)
    (all : List.Forall₂ (Becomes names) args nodes) :
    (Node.slotsAll nodes).map (fun slot => names[slot.index]?) =
      (occurrencesAll args).map some := by
  induction all with
  | nil => rfl
  | cons first _ iht =>
    obtain ⟨hfirst, hrest⟩ := List.forall_mem_cons.1 ih
    rw [Node.slotsAll, occurrencesAll, List.map_append, List.map_append, hfirst _ first, iht hrest]

/-- The slots have the names of the variables, one after the other. -/
theorem slots_eq (h : expr.Becomes names node) :
    node.slots.map (fun slot => names[slot.index]?) = expr.occurrences.map some := by
  induction expr generalizing node with
  | constant value => cases h <;> rfl
  | var name =>
    cases h with
    | var named => simp [Node.slots, occurrences, named]
    | folded value closed => contradiction
  | unary symbol operand offset ih =>
    cases h with
    | folded value closed => rw [closed]; rfl
    | unary ho => rw [Node.slots, occurrences, ih ho]
  | binary symbol left right offset ihl ihr =>
    cases h with
    | folded value closed => rw [closed]; rfl
    | binary hl hr =>
      rw [Node.slots, occurrences, List.map_append, List.map_append, ihl hl, ihr hr]
  | ternary symbol condition ifTrue ifFalse offset ihc iht ihf =>
    cases h with
    | folded value closed => rw [closed]; rfl
    | ternary hc ht hf =>
      simp only [Node.slots, occurrences, List.map_append, ihc hc, iht ht, ihf hf]
  | call name args offset ih =>
    cases h with
    | folded value closed => rw [closed]; rfl
    | call all => exact slotsAll_eq (fun arg member _ => ih arg member) all

end Becomes

end Expr

/-! ## Slots while compiling -/

namespace Compile

variable {α β : Type} {computation : Compile σ α} {found more : List String}
  {post : List String → α → Prop} {result : List String → β → Prop}

/-- When the computation succeeds, it has come to these names and marked their slots as in use, and
its value is as described for every table that has come to hold more names. -/
def Gathers (computation : Compile σ α) (found : List String) (post : List String → α → Prop) :
    Prop :=
  ∀ progress value after, computation progress = .ok value after →
    progress.table.slotNames <+: after.table.slotNames ∧
    ∀ names, after.table.slotNames <+: names → post names value ∧
      ∀ seen, progress.slots = Variables.slotsOf names seen →
        after.slots = Variables.slotsOf names (seen ++ found)

namespace Gathers

/-- Returning a value gathers nothing. -/
theorem pure {value : α} (h : ∀ names, post names value) :
    Gathers (σ := σ) (pure value) [] post := by
  rintro progress value' after ⟨⟩
  refine ⟨List.prefix_rfl, fun names _ => ⟨h names, fun seen hslots => ?_⟩⟩
  rw [hslots, List.append_nil]

theorem throw (e : CompileError) : Gathers (σ := σ) (throw e) found post := by
  intro progress value after h
  contradiction

theorem imp {weaker : List String → α → Prop} (h : computation.Gathers found post)
    (himp : ∀ names value, post names value → weaker names value) :
    computation.Gathers found weaker := by
  intro progress value after hrun
  obtain ⟨extended, holds⟩ := h progress value after hrun
  exact ⟨extended, fun names longer => ⟨himp names value (holds names longer).1,
    (holds names longer).2⟩⟩

/-- What the parts of a sequence gather follows one another. -/
theorem bind {next : α → Compile σ β} (first : computation.Gathers found post)
    (rest : ∀ value, (next value).Gathers more fun names value' =>
      post names value → result names value') :
    (computation >>= next).Gathers (found ++ more) result := by
  intro progress value after h
  change EStateM.bind computation next progress = .ok value after at h
  unfold EStateM.bind at h
  split at h
  · next middle between hfirst =>
    obtain ⟨grown, hmiddle⟩ := first _ _ _ hfirst
    obtain ⟨grown', hvalue⟩ := rest middle _ _ _ h
    refine ⟨grown.trans grown', fun names longer => ?_⟩
    obtain ⟨hpost, hslots⟩ := hmiddle names (grown'.trans longer)
    obtain ⟨hresult, hslots'⟩ := hvalue names longer
    refine ⟨hresult hpost, fun seen hseen => ?_⟩
    rw [hslots' _ (hslots seen hseen), List.append_assoc]
  · contradiction

/-- Looking an operator up gathers nothing, and what follows may rely on the operator. -/
theorem resolve {registry : Registry σ} {symbol : String} {arity : Arity} {offset : Nat}
    {next : Operator σ → Compile σ α}
    (rest : ∀ operator, registry.resolve? symbol arity = some operator →
      (next operator).Gathers found post) :
    (Compile.resolve registry symbol arity offset >>= next).Gathers found post := by
  unfold Compile.resolve
  cases hfound : registry.resolve? symbol arity with
  | none => exact .throw _
  | some operator => exact rest operator hfound

end Gathers

/-- Giving a slot to a variable gathers its name. -/
theorem gathers_reserve (name : String) : (reserve (σ := σ) name).Gathers [name]
    fun names slot => names[slot.index]? = some name := by
  rintro progress slot after ⟨⟩
  refine ⟨Variables.slotNames_prefix_reserve, fun names longer => ?_⟩
  have taken : name ∈ names := longer.mem Variables.mem_slotNames_reserve
  have same : (progress.table.slot name).1 = Variables.slotOf names name := by
    rw [Variables.slot_fst]
    exact (Variables.slotOf_extend longer Variables.mem_slotNames_reserve).symm
  show names[(progress.table.slot name).1.index]? = some name ∧
    ∀ seen, progress.slots = Variables.slotsOf names seen →
      progress.slots.insert (progress.table.slot name).1 = Variables.slotsOf names (seen ++ [name])
  rw [same]
  refine ⟨List.getElem?_idxOf taken, fun seen hslots => ?_⟩
  rw [Variables.slotsOf_append_singleton taken, ← hslots]

/-- What is folded has no variables that could be lost. -/
theorem gathers_fold (folding : Bool) (symbol : String) (expr : Expr) (node : Node σ) :
    (fold folding symbol node).Gathers [] fun names folded =>
      expr.Becomes names node → expr.Becomes names folded := by
  unfold fold
  split
  · exact .pure fun names h => h
  · next value houtcome =>
    have ready : node.isReady = true := by
      rw [← node.isSome_outcome?]
      cases folding with
      | true => rw [show node.outcome? = _ from houtcome]; rfl
      | false => contradiction
    rintro progress folded after ⟨⟩
    refine ⟨List.prefix_rfl, fun names _ => ⟨fun h => .folded value (h.closed_of_isReady ready),
      fun seen hslots => ?_⟩⟩
    rw [hslots, List.append_nil]
  · rintro progress folded after ⟨⟩
    refine ⟨List.prefix_rfl, fun names _ => ⟨fun h => h, fun seen hslots => ?_⟩⟩
    rw [hslots, List.append_nil]

/-! ### Node by node -/

section Nodes

open Formulary.Expr

variable {registry : Registry σ} {folding : Bool} {symbol name : String} {offset : Nat}
  {operand left right condition ifTrue ifFalse : Expr} {args : List Expr}

/-- What is known of compiling an operand. -/
def GathersAll (registry : Registry σ) (folding : Bool) (expr : Expr) : Prop :=
  (node registry folding expr).Gathers expr.occurrences expr.Becomes

theorem gathers_unary (ih : GathersAll registry folding operand) :
    GathersAll registry folding (.unary symbol operand offset) := by
  rw [GathersAll, node, occurrences, ← List.append_nil operand.occurrences]
  refine .resolve fun operator resolved => ?_
  obtain ⟨body, himplementation, -⟩ := Registry.exists_unaryBody resolved
  simp only [himplementation]
  exact ih.bind fun o => (gathers_fold folding _ _ _).imp fun names folded h ho => h (.unary ho)

theorem gathers_binary (ihl : GathersAll registry folding left)
    (ihr : GathersAll registry folding right) :
    GathersAll registry folding (.binary symbol left right offset) := by
  rw [GathersAll, node, occurrences, ← List.append_nil right.occurrences]
  refine .resolve fun operator resolved => ?_
  obtain ⟨body, himplementation, -⟩ := Registry.exists_binaryBody resolved
  simp only [himplementation]
  exact ihl.bind fun l => ihr.bind fun r =>
    (gathers_fold folding _ _ _).imp fun names folded h hr hl => h (.binary hl hr)

/-- Both branches are gathered, whichever is taken later. -/
theorem gathers_ternary (ihc : GathersAll registry folding condition)
    (iht : GathersAll registry folding ifTrue) (ihf : GathersAll registry folding ifFalse) :
    GathersAll registry folding (.ternary symbol condition ifTrue ifFalse offset) := by
  rw [GathersAll, node, occurrences, List.append_assoc, ← List.append_nil ifFalse.occurrences]
  refine .resolve fun operator resolved => ?_
  obtain ⟨separator, body, himplementation, -⟩ := Registry.exists_ternaryBody resolved
  simp only [himplementation]
  exact ihc.bind fun c => iht.bind fun t => ihf.bind fun f =>
    (gathers_fold folding _ _ _).imp fun names folded h hf ht hc => h (.ternary hc ht hf)

/-- Arguments are gathered from left to right. -/
theorem gathers_args (ih : ∀ arg ∈ args, GathersAll registry folding arg) :
    (nodes registry folding args).Gathers (occurrencesAll args)
      fun names => List.Forall₂ (Becomes names) args := by
  induction args with
  | nil => exact .pure fun _ => .nil
  | cons arg args iht =>
    obtain ⟨hfirst, hrest⟩ := List.forall_mem_cons.1 ih
    rw [nodes, occurrencesAll, ← List.append_nil (occurrencesAll args)]
    exact hfirst.bind fun first => (iht hrest).bind fun rest => .pure fun names h' h => .cons h h'

theorem gathers_call (ih : ∀ arg ∈ args, GathersAll registry folding arg) :
    GathersAll registry folding (.call name args offset) := by
  rw [GathersAll, node, occurrences, ← List.append_nil (occurrencesAll args)]
  refine .resolve fun operator resolved => ?_
  obtain ⟨bounds, body, himplementation, -⟩ := Registry.exists_functionBody resolved
  simp only [himplementation]
  split
  · exact (gathers_args ih).bind fun values =>
      (gathers_fold folding _ _ _).imp fun names folded h hall => h (.call hall)
  · exact .throw _

/-- Compiling comes to the variables of the expression from left to right, and to what the
expression may become. -/
theorem gathers_node (expr : Expr) : GathersAll registry folding expr := by
  induction expr with
  | constant value =>
    rw [GathersAll, node]
    exact .pure fun names => .constant value
  | var name =>
    rw [GathersAll, node, occurrences, ← List.append_nil [name]]
    exact (gathers_reserve name).bind fun slot => .pure fun names h => .var h
  | unary symbol operand offset ih => exact gathers_unary ih
  | binary symbol left right offset ihl ihr => exact gathers_binary ihl ihr
  | ternary symbol condition ifTrue ifFalse offset ihc iht ihf => exact gathers_ternary ihc iht ihf
  | call name args offset ih => exact gathers_call ih

end Nodes

end Compile

/-! ## The whole -/

namespace Expr

open Variables (vacant)

variable {registry : Registry σ} {folding : Bool} {table after : Variables σ}
  {evaluator : Evaluator σ} {expr : Expr}

/-- The evaluator has as many slots in use as the expression has variables, and they are in the
places of the variables. -/
theorem becomes_of_compile (h : expr.compile registry folding table = (.ok evaluator, after)) :
    expr.Becomes after.slotNames evaluator.root ∧
      evaluator.slotCount = expr.variables.length := by
  unfold compile at h
  split at h
  · next root progress hrun =>
    cases h
    obtain ⟨-, gathered⟩ := Compile.gathers_node expr _ _ _ hrun
    obtain ⟨becomes, hslots⟩ := gathered _ List.prefix_rfl
    refine ⟨becomes, ?_⟩
    show progress.slots.length = _
    rw [hslots [] rfl, List.nil_append, Variables.slotsOf, List.length_reverse, List.length_map,
      «variables»]
  · simp at h

/-- Compiling fails for the first node that has a fault, and has come to the variables before it. -/
theorem reached_of_fault? {e : CompileError} (h : expr.fault? registry = some e) :
    ∃ before node behind, expr.nodes = before ++ node :: behind ∧
      (∀ other ∈ before, ¬ Faulty registry other) ∧ HasFault registry node e ∧
      expr.reached registry = before.filterMap ownName? := by
  obtain ⟨before, node, behind, hnodes, free, fault⟩ := firstFault?_eq_some_iff.1 h
  refine ⟨before, node, behind, hnodes, free, fault, ?_⟩
  have faultless : firstFault? registry before = none := by
    rw [firstFault?, List.findSome?_eq_none_iff]
    exact fun other member => ownFault?_eq_none_iff.2 (free other member)
  rw [reached, hnodes, reachedIn_append_of_none faultless, reachedIn_of_none faultless,
    reachedIn_cons_of_some fault.ownFault?_eq, List.append_nil]

/-- **What compiling does to the table.** It changes no entry and adds one for each variable that
the table does not have yet, in order of first appearance and with nothing bound to it. If it
succeeds, these are the variables of the expression; the evaluator uses as many slots as the
expression has variables, each of them in place of a variable whose name the slot has; and
compiling again adds nothing. If it fails, they are the variables before the first node that has a
fault. -/
theorem compile_table (expr : Expr) (registry : Registry σ) (folding : Bool)
    (table : Variables σ) :
    match expr.compile registry folding table with
    | (.ok evaluator, after) =>
      after.entries = table.entries ++ vacant (table.fresh expr.occurrences) ∧
      evaluator.slotCount = expr.variables.length ∧
      expr.Becomes after.slotNames evaluator.root ∧
      evaluator.root.slots.map (fun slot => after.slotNames[slot.index]?) =
        expr.occurrences.map some ∧
      ∀ again : Bool, ∃ evaluator', expr.compile registry again after = (.ok evaluator', after)
    | (.error e, after) =>
      ∃ before node behind, expr.nodes = before ++ node :: behind ∧
        (∀ other ∈ before, ¬ Faulty registry other) ∧ HasFault registry node e ∧
        after.entries = table.entries ++ vacant (table.fresh (before.filterMap ownName?)) := by
  cases hfault : expr.fault? registry with
  | some e =>
    rw [compile_eq_error hfault]
    obtain ⟨before, node, behind, hnodes, free, fault, reaches⟩ := reached_of_fault? hfault
    refine ⟨before, node, behind, hnodes, free, fault, ?_⟩
    rw [Variables.entries_reserveAll, reaches]
  | none =>
    obtain ⟨evaluator, hcompile, fits⟩ := @compile_eq_ok σ registry folding table expr hfault
    obtain ⟨becomes, count⟩ := becomes_of_compile hcompile
    have reaches := reached_of_fault?_eq_none hfault
    rw [reaches] at hcompile fits becomes
    rw [hcompile]
    refine ⟨Variables.entries_reserveAll _ _, count, becomes, becomes.slots_eq, fun again => ?_⟩
    obtain ⟨evaluator', hagain, -⟩ :=
      @compile_eq_ok σ registry again (table.reserveAll expr.occurrences) expr hfault
    refine ⟨evaluator', ?_⟩
    rw [hagain, reaches, Variables.reserveAll_of_subset fits.taken]

end Expr

end Formulary
