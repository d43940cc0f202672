import Formulary.Proofs.Columns

/-!
# Formulary.Proofs.Stability

Slots stay where they are until they are released, and releasing them only moves them together.

Binding, unbinding and reserving add names behind the others and take none away
(`Variables.slotNames_prefix_call`), so the slot of a name is the same after any of these calls, and
what is read from it is what is bound to the name by then (`Columns.Keeps`).

Releasing slots leaves the bound names in their order, each in the slot of its number
(`Columns.Compacts`). Whoever asks by name does not notice. What the names are bound to has no part
in it (`Columns.releaseUnbound_map`).
-/

namespace Formulary

variable {σ τ : Type}

/-- The call gives up no slot. -/
def Variables.Call.keepsSlots : Variables.Call σ → Bool
  | .releaseUnbound => false
  | .bind _ _ | .unbind _ | .slot _ => true

namespace Columns

/-- The columns with something else bound in each slot that is not empty. -/
def map (change : Binding σ → Binding τ) (columns : Columns σ) : Columns τ :=
  { columns with bindings := columns.bindings.map (Option.map change) }

/-- The slots of the columns are slots of the later ones, in which the names are bound as given. -/
structure Keeps (columns later : Columns σ) (bound : Bound σ) : Prop where
  lookup? : ∀ name slot, columns.lookup? name = some slot → later.lookup? name = some slot
  read : ∀ name slot, columns.lookup? name = some slot →
    later.read slot = Binding.readAs name (bound.lookup name)
  value : ∀ name slot, columns.lookup? name = some slot → later.read slot = later.value name
  unbound : ∀ name slot, columns.lookup? name = some slot → later.contains name = false →
    later.read slot = throw (.unbound name)

/-- The released columns are the columns without the empty slots. -/
structure Compacts (columns released : Columns σ) : Prop where
  names : released.names = columns.boundNames
  bindings : released.names.zip released.bindings =
    (columns.names.zip columns.bindings).filter (·.2.isSome)
  /-- The bound names are numbered anew, in their order. -/
  lookup_iff : ∀ number name,
    released.lookup? name = some ⟨number⟩ ↔ columns.boundNames[number]? = some name
  forgotten : ∀ name, columns.contains name = false → released.lookup? name = none
  slotCount : released.slotCount = released.size
  value : ∀ name, released.value name = columns.value name
  contains : ∀ name, released.contains name = columns.contains name
  boundNames : released.boundNames = columns.boundNames
  size : released.size = columns.size
  isEmpty : released.isEmpty = columns.isEmpty
  again : released.releaseUnbound = released
  /-- The same is done whatever is bound. So nothing that is bound is read. -/
  unread : ∀ {τ : Type} (change : Binding σ → Binding τ),
    (columns.map change).releaseUnbound = released.map change

end Columns

/-! ## Slots that stay -/

namespace Variables

variable {table : Variables σ}

/-- What one call preserves. -/
theorem slotNames_prefix_call {call : Call σ} (keeps : call.keepsSlots = true) :
    table.slotNames <+: (table.call call).slotNames := by
  cases call with
  | bind name binding =>
    rw [Variables.call, slotNames_bind]
    exact slotNames_prefix_reserve
  | unbind name =>
    rw [Variables.call, slotNames_unbind]
  | slot name => exact slotNames_prefix_reserve
  | releaseUnbound => contradiction

/-- What a run preserves. -/
theorem slotNames_prefix_run {calls : List (Call σ)}
    (keeps : ∀ call ∈ calls, call.keepsSlots = true) :
    table.slotNames <+: (calls.foldl Variables.call table).slotNames := by
  induction calls generalizing table with
  | nil => exact List.prefix_rfl
  | cons call calls ih =>
    obtain ⟨first, others⟩ := List.forall_mem_cons.1 keeps
    exact (slotNames_prefix_call first).trans (ih others)

/-- Only a name that has a slot is found, and in that slot. -/
theorem lookup?_eq_some_iff {name : String} {slot : Slot} :
    table.lookup? name = some slot ↔
      name ∈ table.slotNames ∧ slotOf table.slotNames name = slot := by
  by_cases taken : name ∈ table.slotNames
  · simp [lookup?_of_mem taken, taken]
  · simp [lookup?_eq_none taken, taken]

end Variables

namespace Columns

variable {columns later : Columns σ} {table further : Variables σ} {bound : Bound σ}

/-- Where the names of the slots are the first names later on, the slots are kept. -/
theorem Holds.keeps (h : columns.Holds table.entries) (h' : later.Holds further.entries)
    (extended : table.slotNames <+: further.slotNames) (binds : further.Binds bound) :
    columns.Keeps later bound := by
  have found {name : String} {slot : Slot} (hslot : columns.lookup? name = some slot) :
      name ∈ table.slotNames ∧ Variables.slotOf table.slotNames name = slot := by
    rw [h.lookup?_eq] at hslot
    exact Variables.lookup?_eq_some_iff.1 hslot
  have reads {name : String} {slot : Slot} (hslot : columns.lookup? name = some slot) :
      later.read slot = Binding.readAs name (further.binding? name) := by
    obtain ⟨taken, rfl⟩ := found hslot
    rw [h'.read_eq, Variables.read_slotOf extended taken]
  constructor
  · intro name slot hslot
    obtain ⟨taken, rfl⟩ := found hslot
    rw [h'.lookup?_eq, Variables.lookup?_of_mem (extended.mem taken),
      Variables.slotOf_extend extended taken]
  · intro name slot hslot
    rw [reads hslot, binds]
  · intro name slot hslot
    rw [reads hslot, h'.serves.value, Variables.value_eq]
  · intro name slot hslot empty
    rw [h'.serves.contains, Variables.contains, Option.isSome_eq_false_iff,
      Option.isNone_iff_eq_none] at empty
    rw [reads hslot, empty]
    rfl

/-! ## Slots that are released -/

/-- The entries are all that there is to columns. -/
theorem Holds.unique {entries : List (Entry σ)} (h : columns.Holds entries)
    (h' : later.Holds entries) : columns = later := by
  obtain ⟨names, bindings, index⟩ := columns
  obtain ⟨names', bindings', index'⟩ := later
  obtain rfl : names = names' := h.names.trans h'.names.symm
  obtain rfl : bindings = bindings' := h.bindings.trans h'.bindings.symm
  have same : index = index' :=
    Finmap.ext_lookup fun name => (h.index name).trans (h'.index name).symm
  rw [same]

/-- To take over something else that is bound is to take over the slot and change it then. -/
theorem keep_map (change : Binding σ → Binding τ) (columns : Columns σ)
    (slot : String × Option (Binding σ)) :
    (columns.map change).keep (Prod.map id (Option.map change) slot) =
      (columns.keep slot).map change := by
  obtain ⟨name, binding⟩ := slot
  cases binding with
  | none => rfl
  | some binding => simp [keep, push, map, slotCount]

/-- What is bound in the slots has no part in which of them are kept. -/
theorem releaseUnbound_map (change : Binding σ → Binding τ) (columns : Columns σ) :
    (columns.map change).releaseUnbound = columns.releaseUnbound.map change := by
  have slots : (columns.map change).names.zip (columns.map change).bindings =
      (columns.names.zip columns.bindings).map (Prod.map id (Option.map change)) :=
    List.zip_map_right
  rw [releaseUnbound, slots, List.foldl_map, releaseUnbound]
  change List.foldl _ ((empty : Columns σ).map change) _ = _
  refine List.foldl_hom (map change) ?_
  exact keep_map change

/-- Releasing slots packs the bound names, in their order, and leaves to each what is bound to it. -/
theorem Holds.compacts (h : columns.Holds table.entries) :
    columns.Compacts columns.releaseUnbound := by
  have released := h.releaseUnbound
  have names : columns.releaseUnbound.names = columns.boundNames :=
    released.names.trans h.boundNames_eq.symm
  have bound (entry : Entry σ) (member : entry ∈ table.releaseUnbound.entries) :
      entry.binding.isSome = true :=
    (List.mem_filter.1 member).2
  have binding? (name : String) : table.releaseUnbound.binding? name = table.binding? name :=
    Variables.binding?_releaseUnbound
  have contains (name : String) : columns.releaseUnbound.contains name = columns.contains name := by
    rw [released.serves.contains, h.serves.contains, Variables.contains, binding?,
      Variables.contains]
  have size : columns.releaseUnbound.size = columns.releaseUnbound.slotCount := by
    rw [released.size_eq, released.slotCount_eq, List.countP_eq_length]
    exact bound
  have boundNames : columns.releaseUnbound.boundNames = columns.boundNames := by
    rw [← names, released.boundNames_eq, List.filter_eq_self.2 bound, released.names]
  have sizes : columns.releaseUnbound.size = columns.size := by
    rw [size, released.slotCount_eq, h.size_eq, List.countP_eq_length_filter]
    rfl
  exact {
    names
    bindings := by
      rw [released.zip_eq, h.zip_eq, List.filter_map]
      rfl
    lookup_iff := fun number name => by
      rw [released.lookup_iff released.distinct, names]
    forgotten := fun name unbound => by
      have absent : name ∉ columns.releaseUnbound.names := by
        intro member
        rw [names, h.serves.boundNames, Variables.mem_names_iff] at member
        rw [h.serves.contains, Variables.contains, member] at unbound
        contradiction
      rw [released.index, if_neg absent]
    slotCount := size.symm
    value := fun name => by
      rw [released.serves.value, h.serves.value, Variables.value_eq, Variables.value_eq, binding?]
    contains
    boundNames
    size := sizes
    isEmpty := by rw [isEmpty, isEmpty, sizes]
    again := by
      have same : table.releaseUnbound.releaseUnbound.entries = table.releaseUnbound.entries :=
        List.filter_eq_self.2 bound
      have twice := released.releaseUnbound
      rw [same] at twice
      exact twice.unique released
    unread := fun change => releaseUnbound_map change columns }

/-! ## Runs -/

/-- **Slots are stable until they are released, and releasing them only compacts.** After any calls
and any more that release no slots, every name that had a slot has it still, and what is read from
it is what has been bound to the name last, or the error that names it. When slots are released
after any calls, exactly the bound names are left, with what is bound to them and in their order,
each in the slot of its number; who asks by name is answered as before, and nothing is read. -/
theorem run_stable (calls : List (Variables.Call σ)) :
    let columns := calls.foldl Columns.call empty
    (∀ more : List (Variables.Call σ), (∀ call ∈ more, call.keepsSlots = true) →
      columns.Keeps (more.foldl Columns.call columns) ((calls ++ more).foldl Bound.call ∅)) ∧
    columns.Compacts columns.releaseUnbound := by
  intro columns
  have start : (empty : Columns σ).Holds Variables.empty.entries := .empty
  have holds : columns.Holds (calls.foldl Variables.call .empty).entries := start.run calls
  have binds : (Variables.empty : Variables σ).Binds ∅ := fun name => rfl
  refine ⟨fun more keeps => ?_, holds.compacts⟩
  refine holds.keeps (holds.run more) (Variables.slotNames_prefix_run keeps) ?_
  rw [← List.foldl_append]
  exact binds.run (calls ++ more)

/-- The variable `a` has slot 1 all the time and is read there, though nothing is bound to it in
the end. When the slots are released, it is `b` that comes to have slot 1. -/
theorem run_stable_unbound :
    let calls : List (Variables.Call Unit) := [.slot "gone", .bind "a" (.static 1), .slot "too",
      .bind "b" (.static 2), .bind "c" (.static 3), .unbind "c"]
    let more : List (Variables.Call Unit) := [.bind "d" (.static 4), .slot "e", .unbind "a"]
    let columns := calls.foldl Columns.call empty
    let later := more.foldl Columns.call columns
    (∀ call ∈ more, call.keepsSlots = true) ∧ columns.lookup? "a" = some ⟨1⟩ ∧
      later.lookup? "a" = some ⟨1⟩ ∧ later.read ⟨1⟩ = throw (.unbound "a") ∧
      columns.releaseUnbound.lookup? "b" = some ⟨1⟩ := by
  intro calls more columns later
  have keeps : ∀ call ∈ more, call.keepsSlots = true := by
    decide +kernel
  have slot : columns.lookup? "a" = some ⟨1⟩ := by
    decide +kernel
  have unbound : later.contains "a" = false := by
    decide +kernel
  have second : columns.boundNames[1]? = some "b" := by
    decide +kernel
  obtain ⟨stays, compacts⟩ := run_stable calls
  have kept := stays more keeps
  exact ⟨keeps, slot, kept.lookup? "a" ⟨1⟩ slot, kept.unbound "a" ⟨1⟩ slot unbound,
    (compacts.lookup_iff 1 "b").2 second⟩

end Columns

end Formulary
