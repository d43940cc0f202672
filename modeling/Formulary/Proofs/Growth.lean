import Mathlib.Data.List.Dedup
import Mathlib.Data.List.Perm.Subperm
import Formulary.Proofs.Columns
import Formulary.Proofs.Recovery
import Formulary.Proofs.Reservation
import Formulary.Proofs.SetText

/-!
# Formulary.Proofs.Growth

Replacing the text of a formula does not let its table grow.

A text that is taken leaves the bound variables and, in eager mode, adds those of the text
(`Formula.replaces_of_setText`). What can come to have a slot afterwards is a name that is bound or
one of the expression, whatever registry it is compiled with and whether that succeeds or not
(`Formula.slotNames_call`). So as long as no other text is taken the slots can be counted by where
their names are from.
-/

namespace Formulary

variable {σ : Type}

/-- The name that a call binds. -/
def Call.boundName? : Call σ → Option String
  | .bind name _ => some name
  | _ => none

namespace Variables

variable {table : Variables σ} {name : String}

theorem slotNames_releaseUnbound : table.releaseUnbound.slotNames = table.names := rfl

/-- What reserving adds are some of the names. -/
theorem mem_slotNames_reserveAll_iff {names : List String} :
    name ∈ (table.reserveAll names).slotNames ↔ name ∈ table.slotNames ∨ name ∈ names := by
  have all : (table.reserveAll names).slotNames = table.slotNames ++ table.fresh names := by
    rw [slotNames, entries_reserveAll, List.map_append, map_name_vacant, slotNames]
  rw [all, List.mem_append, fresh, List.mem_filter, List.mem_eraseDups]
  by_cases taken : name ∈ table.slotNames <;> simp [taken]

end Variables

namespace Formula

variable {formula after : Formula σ} {text : String} {expr : Expr}

/-! ## The table of a new text -/

/-- The variables of the text that nothing is bound to are those that the table does not have once
its empty slots are released. -/
theorem unbound_eq_fresh (hexpr : after.expr? = some expr)
    (bindings : ∀ name, after.variables.binding? name = formula.variables.binding? name) :
    after.unbound = formula.variables.releaseUnbound.fresh expr.occurrences := by
  rw [unbound, referenced, hexpr, Variables.fresh, Variables.slotNames_releaseUnbound]
  apply List.filter_congr
  intro name _
  rw [Variables.contains, bindings, Bool.eq_iff_iff]
  simp [Variables.mem_names_iff]

/-- In eager mode the variables of the text are given slots behind the bound ones. The evaluator is
built in any world, and the world is left as it is. -/
theorem entries_of_eager (hmode : formula.options.mode = .eager)
    (hparse : Grammar.parse ⟨formula.registry, formula.options.maxDepth⟩ text = .ok expr)
    (taken : formula.setText text = (.ok (), after)) :
    after.variables.entries = formula.variables.releaseUnbound.entries ++
      Variables.vacant (formula.variables.releaseUnbound.fresh expr.occurrences) ∧
    ∃ evaluator, after.stage = .compiled expr evaluator ∧ ∀ world,
      expr.compileIn formula.registry formula.options.folding formula.variables.releaseUnbound
        world = ((.ok evaluator, after.variables), world) := by
  have hfault : expr.fault? formula.registry = none := Grammar.fault?_of_parse hparse
  have started : (formula.replaceText text expr).compileIfEager =
      (formula.replaceText text expr).compile :=
    if_pos ⟨hmode, rfl⟩
  obtain ⟨evaluator, hcompile, -⟩ := @Expr.compile_eq_ok σ formula.registry
    formula.options.folding formula.variables.releaseUnbound expr hfault
  rw [setText_of_parse hparse, started] at taken
  simp only [compile, replaceText, hcompile, Prod.mk.injEq, true_and] at taken
  subst taken
  refine ⟨?_, evaluator, rfl, fun world => by rw [Expr.compileIn_eq, hcompile]⟩
  rw [Expr.reached_of_fault?_eq_none hfault]
  exact Variables.entries_reserveAll _ _

/-- With compiling on demand, a new text has the unbound names released and takes no slots yet. -/
theorem entries_of_onDemand (hmode : formula.options.mode = .onDemand)
    (hparse : Grammar.parse ⟨formula.registry, formula.options.maxDepth⟩ text = .ok expr)
    (taken : formula.setText text = (.ok (), after)) :
    after.variables = formula.variables.releaseUnbound := by
  rw [setText_of_parse hparse, (takes_of_onDemand hmode).1, Prod.mk.injEq] at taken
  rw [← taken.2]
  rfl

/-! ## Where the names of slots are from -/

/-- Compiling names no slots but those of the variables of the text. -/
theorem slotNames_compile {name : String}
    (member : name ∈ formula.compile.2.variables.slotNames) :
    name ∈ formula.variables.slotNames ∨ name ∈ formula.referenced := by
  obtain ⟨names, stage, hcompile, -, within⟩ := exists_compile formula
  rw [hcompile] at member
  exact (Variables.mem_slotNames_reserveAll_iff.1 member).imp_right (within name)

theorem slotNames_setRegistry {registry : Registry σ} {name : String}
    (member : name ∈ (formula.setRegistry registry).2.variables.slotNames) :
    name ∈ formula.variables.slotNames ∨ name ∈ formula.referenced := by
  have same : referenced { formula with registry, stage := formula.stage.withoutEvaluator } =
      formula.referenced := by
    simp only [referenced, expr?, expr?_withoutEvaluator]
  unfold setRegistry recompile compileIfEager at member
  split at member
  · rw [← same]
    exact slotNames_compile member
  · exact .inl member

/-- What one call preserves, unless a text is taken. -/
theorem slotNames_call {call : Call σ} {name : String}
    (same : ¬ ∃ text, call = .setText text ∧ (formula.setText text).1 = .ok ())
    (member : name ∈ (formula.call call).variables.slotNames) :
    name ∈ formula.variables.slotNames ∨ call.boundName? = some name ∨
      name ∈ formula.referenced := by
  cases call with
  | setText text =>
    cases hset : (formula.setText text).1 with
    | ok done => exact absurd ⟨text, rfl, hset⟩ same
    | error e =>
      have unchanged : formula.call (.setText text) = formula := (setText_error hset).2
      rw [unchanged] at member
      exact .inl member
  | withOptions options => exact .inl member
  | compile => exact (slotNames_compile member).imp_right .inr
  | recompile =>
    exact (@slotNames_setRegistry σ formula formula.registry name member).imp_right .inr
  | setRegistry registry => exact (slotNames_setRegistry member).imp_right .inr
  | bind other binding =>
    have hbind : (formula.call (.bind other binding)).variables.slotNames =
        (formula.variables.reserve other).slotNames :=
      Variables.slotNames_bind
    rw [hbind, Variables.slotNames_reserve] at member
    split at member
    · exact .inl member
    · rcases List.mem_append.1 member with member | member
      · exact .inl member
      · exact .inr (.inl (congrArg some (List.mem_singleton.1 member).symm))
  | unbind other =>
    have hunbind : (formula.call (.unbind other)).variables.slotNames =
        formula.variables.slotNames :=
      Variables.slotNames_unbind
    rw [hunbind] at member
    exact .inl member
  | evaluate world =>
    rw [call, evaluate_snd] at member
    exact (slotNames_compile member).imp_right .inr

/-- What a run preserves. -/
theorem slotNames_run {calls : List (Call σ)} {name : String}
    (same : ¬ formula.TakesText calls)
    (member : name ∈ (calls.foldl call formula).variables.slotNames) :
    name ∈ formula.variables.slotNames ∨ name ∈ calls.filterMap Call.boundName? ∨
      name ∈ formula.referenced := by
  induction calls generalizing formula with
  | nil => exact .inl member
  | cons call calls ih =>
    rw [TakesText, not_or] at same
    have hexpr : (formula.call call).referenced = formula.referenced := by
      rw [referenced, expr?_call same.1, referenced]
    have later := ih same.2 member
    rw [hexpr] at later
    rcases later with first | bound | used
    · rcases slotNames_call same.1 first with before | bound | used
      · exact .inl before
      · exact .inr (.inl (List.mem_filterMap.2 ⟨call, List.mem_cons_self, bound⟩))
      · exact .inr (.inr used)
    · obtain ⟨other, member, bound⟩ := List.mem_filterMap.1 bound
      exact .inr (.inl (List.mem_filterMap.2 ⟨other, List.mem_cons_of_mem _ member, bound⟩))
    · exact .inr (.inr used)

end Formula

/-! ## Counting slots -/

/-- There are no more slots than names that they may have. -/
theorem Variables.slotCount_le {table : Variables σ} {names : List String}
    (within : ∀ name ∈ table.slotNames, name ∈ names) : table.slotCount ≤ names.length := by
  have count : table.slotNames.length = table.slotCount := List.length_map _
  rw [← count]
  exact (List.subperm_of_subset table.distinct within).length_le

namespace Formula

/-- What the table is like when a text has been taken that parses to the expression. -/
structure Replaces (formula after : Formula σ) (expr : Expr) : Prop where
  parsed : after.expr? = some expr
  /-- The bound variables are left and, in eager mode, the others of the text come behind them. -/
  entries : after.variables.entries = formula.variables.entries.filter (·.binding.isSome) ++
    match formula.options.mode with
    | .onDemand => []
    | .eager => Variables.vacant after.unbound
  /-- In eager mode the evaluator is built, which leaves the world alone. So no supplier is read. -/
  unread : formula.options.mode = .eager → ∃ evaluator, after.stage = .compiled expr evaluator ∧
    ∀ world, expr.compileIn formula.registry formula.options.folding
      formula.variables.releaseUnbound world = ((.ok evaluator, after.variables), world)

variable {formula after : Formula σ} {text : String} {expr : Expr}

/-- A text that is accepted replaces the one before, whichever the mode. -/
theorem replaces_of_setText
    (hparse : Grammar.parse ⟨formula.registry, formula.options.maxDepth⟩ text = .ok expr)
    (taken : formula.setText text = (.ok (), after)) : formula.Replaces after expr := by
  have atomic := setText_atomic formula text
  rw [hparse] at atomic
  obtain ⟨⟨after', taken', takes⟩, -⟩ := atomic
  obtain rfl : after' = after := congrArg Prod.snd (taken'.symm.trans taken)
  cases hmode : formula.options.mode with
  | onDemand =>
    refine ⟨takes.parsed, ?_, fun eager => ?_⟩
    · rw [entries_of_onDemand hmode hparse taken, hmode, List.append_nil]
      rfl
    · rw [hmode] at eager
      contradiction
  | eager =>
    obtain ⟨entries, built⟩ := entries_of_eager hmode hparse taken
    refine ⟨takes.parsed, ?_, fun _ => built⟩
    rw [entries, hmode, unbound_eq_fresh takes.parsed takes.bindings]
    rfl

/-- Behind a new text the slots are those of bound names and of its own variables. -/
theorem Replaces.slotNames (h : formula.Replaces after expr) :
    ∀ name ∈ after.variables.slotNames,
      name ∈ formula.variables.names ∨ name ∈ after.referenced := by
  intro name member
  rw [Variables.slotNames, h.entries, List.map_append, List.mem_append] at member
  refine member.imp_right fun added => ?_
  split at added
  · contradiction
  · rw [Variables.map_name_vacant] at added
    exact (List.mem_filter.1 added).1

/-- **Replacing the text does not let the table grow.** When a text is taken, exactly the bound
variables stay in the table, with their bindings and in their order; in eager mode those of the
new text that are not among them follow in order of first appearance. From then on, whatever is
called, there are never more slots than names bound at that time, names bound since, and variables
of the text, until another text is taken. -/
theorem setText_table (formula : Formula σ) (text : String) (after : Formula σ)
    (taken : formula.setText text = (.ok (), after)) :
    (∃ expr, Grammar.parse ⟨formula.registry, formula.options.maxDepth⟩ text = .ok expr ∧
      formula.Replaces after expr) ∧
    ∀ later : List (Call σ), ¬ after.TakesText later →
      (later.foldl call after).variables.slotCount ≤ formula.variables.size +
        (later.filterMap Call.boundName?).eraseDups.length +
        (later.foldl call after).referenced.length := by
  obtain ⟨expr, hparse⟩ := setText_eq_ok_iff.1 (congrArg Prod.fst taken)
  have replaces := replaces_of_setText hparse taken
  refine ⟨⟨expr, hparse, replaces⟩, fun later same => ?_⟩
  have hreferenced : (later.foldl call after).referenced = after.referenced := by
    rw [referenced, expr?_history same, referenced]
  rw [hreferenced, Variables.size_eq_length_names, ← List.length_append, ← List.length_append]
  apply Variables.slotCount_le
  intro name member
  rw [List.mem_append, List.mem_append, List.mem_eraseDups]
  rcases slotNames_run same member with before | bound | used
  · exact (replaces.slotNames name before).imp_left .inl
  · exact .inl (.inr bound)
  · exact .inr used

/-- The variables of the old text and one that is not bound any more make way for the new text. A
name that is bound for a while takes a slot, a text that is refused does not. -/
theorem setText_table_after_unbind :
    let made : Formula Generator := .blank .empty ⟨.eager, true, 8⟩
    let formula := [.setText "gone", .bind "keep" (.static 2), .bind "lost" (.static 1),
      .unbind "lost"].foldl Formula.call made
    let later := [.bind "other" (.static 3), .unbind "other", .setText "(", .evaluate ⟨0⟩]
    formula.variables.slotNames = ["gone", "keep", "lost"] ∧
    ∃ after, formula.setText "new" = (.ok (), after) ∧
      after.variables.slotNames = ["keep", "new"] ∧ ¬ after.TakesText later ∧
      (later.foldl Formula.call after).variables.slotCount ≤ 1 + 1 + 1 := by
  intro made formula later
  let after := (formula.setText "new").2
  have taken : formula.setText "new" = (.ok (), after) :=
    Prod.ext (by decide +kernel : (formula.setText "new").1 = .ok ()) rfl
  have refused : (((after.bind "other" (.static 3)).unbind "other").2.setText "(").1 ≠ .ok () := by
    decide +kernel
  have same : ¬ after.TakesText later := by
    simp [later, TakesText, call, refused]
  have bound : formula.variables.size = 1 ∧
      (later.filterMap Call.boundName?).eraseDups.length = 1 ∧
      (later.foldl Formula.call after).referenced.length = 1 := by
    decide +kernel
  have count := (setText_table formula "new" after taken).2 later same
  rw [bound.1, bound.2.1, bound.2.2] at count
  exact ⟨by decide +kernel, after, taken, by decide +kernel, same, count⟩

end Formula

end Formulary
