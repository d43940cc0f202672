import Formulary.Proofs.Variables
import Formulary.Variables.Columns

/-!
# Formulary.Proofs.Columns

A table of variables is a finite map, however it is kept.

Columns hold a list of entries when their lists are those of the entries and the index leads to
the places of the names (`Columns.Holds`). Every operation keeps that up, the one
that releases slots by adding one entry after the other. As the entries of a table have
distinct names, everything else follows: the three parts are inverse to each other
(`Columns.Indexed`), and whatever is asked of the columns is answered as by the table
(`Columns.Serves`).

What a table says of its names is what a map says that is written by the same calls
(`Columns.Represents`); slots have no part in it.
-/

namespace Formulary

variable {σ : Type}

/-! ## Calls -/

/-- A call that changes a table of variables. -/
inductive Variables.Call (σ : Type) where
  | bind (name : String) (binding : Binding σ)
  | unbind (name : String)
  | slot (name : String)
  | releaseUnbound

/-- What a call leaves of a table. -/
def Variables.call (table : Variables σ) : Call σ → Variables σ
  | .bind name binding => table.bind name binding
  | .unbind name => (table.unbind name).2
  | .slot name => (table.slot name).2
  | .releaseUnbound => table.releaseUnbound

/-- What a call leaves of columns. -/
def Columns.call (columns : Columns σ) : Variables.Call σ → Columns σ
  | .bind name binding => columns.bind name binding
  | .unbind name => (columns.unbind name).2
  | .slot name => (columns.slot name).2
  | .releaseUnbound => columns.releaseUnbound

/-- What is bound to each name. -/
abbrev Bound (σ : Type) := Finmap fun _ : String => Binding σ

/-- What a call does to the bindings: the last one counts, and unbinding removes it. -/
def Bound.call (bound : Bound σ) : Variables.Call σ → Bound σ
  | .bind name binding => bound.insert name binding
  | .unbind name => bound.erase name
  | .slot _ | .releaseUnbound => bound

namespace Columns

/-- The columns hold these entries, one for each slot. -/
structure Holds (columns : Columns σ) (entries : List (Entry σ)) : Prop where
  names : columns.names = entries.map Entry.name
  bindings : columns.bindings = entries.map Entry.binding
  index : ∀ name, columns.lookup? name =
    if name ∈ columns.names then some (Variables.slotOf columns.names name) else none

/-- The parts of the columns fit together: they are of the same size, the slots are the numbers
below it, and the index leads from a name to the one slot that has it. -/
structure Indexed (columns : Columns σ) : Prop where
  names_length : columns.names.length = columns.slotCount
  index_card : columns.index.keys.card = columns.slotCount
  dense : ∀ index, index < columns.slotCount ↔ ∃ name, columns.lookup? name = some ⟨index⟩
  lookup_iff : ∀ name slot,
    columns.lookup? name = some slot ↔ columns.names[slot.index]? = some name
  distinct : columns.names.Nodup
  slot : ∀ name, (columns.slot name).2.lookup? name = some (columns.slot name).1

/-- The columns say of every name what the map does. -/
structure Represents (columns : Columns σ) (bound : Bound σ) : Prop where
  contains : ∀ name, columns.contains name = true ↔ name ∈ bound
  value : ∀ name, columns.value name =
    match bound.lookup name with
    | some binding => binding.read
    | none => throw (.unbound name)
  unbind : ∀ name, (columns.unbind name).1 = bound.lookup name
  size : columns.size = bound.keys.card
  isEmpty : columns.isEmpty = true ↔ bound = ∅
  boundNames : ∀ name, name ∈ columns.boundNames ↔ name ∈ bound
  once : columns.boundNames.Nodup
  ordered : columns.boundNames.Pairwise fun name other => ∃ slot slot' : Slot,
    columns.lookup? name = some slot ∧ columns.lookup? other = some slot' ∧
      slot.index < slot'.index

/-- Whatever is asked of the columns is answered as by the table. -/
structure Serves (columns : Columns σ) (table : Variables σ) : Prop where
  lookup? : ∀ name, columns.lookup? name = table.lookup? name
  read : ∀ slot, columns.read slot = table.read slot
  value : ∀ name, columns.value name = table.value name
  contains : ∀ name, columns.contains name = table.contains name
  boundNames : columns.boundNames = table.names
  size : columns.size = table.size
  isEmpty : columns.isEmpty = table.isEmpty
  slotCount : columns.slotCount = table.slotCount
  slot : ∀ name, (columns.slot name).1 = (table.slot name).1
  unbind : ∀ name, (columns.unbind name).1 = (table.unbind name).1

/-! ## What the columns answer -/

namespace Holds

variable {columns : Columns σ} {entries : List (Entry σ)} {name : String}

theorem slotCount_eq (h : columns.Holds entries) : columns.slotCount = entries.length := by
  simp [slotCount, h.bindings]

theorem names_length (h : columns.Holds entries) : columns.names.length = columns.slotCount := by
  simp [slotCount, h.bindings, h.names]

/-- A slot holds what its entry does. -/
theorem held?_eq (h : columns.Holds entries) (slot : Slot) :
    columns.held? slot = entries[slot.index]?.bind Entry.binding := by
  rw [held?, h.bindings, List.getElem?_map]
  cases entries[slot.index]? <;> rfl

theorem zip_eq (h : columns.Holds entries) :
    columns.names.zip columns.bindings = entries.map fun entry => (entry.name, entry.binding) := by
  rw [h.names, h.bindings, List.zip_map']

theorem boundNames_eq (h : columns.Holds entries) :
    columns.boundNames = (entries.filter (·.binding.isSome)).map Entry.name := by
  rw [boundNames, h.zip_eq, List.filter_map, List.map_map]
  rfl

theorem size_eq (h : columns.Holds entries) :
    columns.size = entries.countP (·.binding.isSome) := by
  rw [size, h.bindings, List.countP_map]
  rfl

/-! ## Operations -/

theorem empty : (empty : Columns σ).Holds [] := ⟨rfl, rfl, fun _ => rfl⟩

/-- A name that is new becomes the name of a new slot. -/
theorem push (h : columns.Holds entries) (fresh : name ∉ entries.map Entry.name)
    (binding : Option (Binding σ)) :
    (columns.push name binding).Holds (entries ++ [⟨name, binding⟩]) where
  names := by simp [Columns.push, h.names]
  bindings := by simp [Columns.push, h.bindings]
  index other := by
    have old := h.index other
    rw [← h.names] at fresh
    simp only [Columns.lookup?, Columns.push, Variables.slotOf, List.idxOf_append] at old ⊢
    by_cases same : other = name
    · subst same
      simp [fresh, h.names_length]
    · rw [Finmap.lookup_insert_of_ne _ same, old]
      by_cases taken : other ∈ columns.names <;> simp [taken, same]

/-- The index leads from a name to the slot where the name stands, and nowhere else. -/
theorem lookup_iff (h : columns.Holds entries) (distinct : columns.names.Nodup) (name : String)
    (slot : Slot) : columns.lookup? name = some slot ↔ columns.names[slot.index]? = some name := by
  rw [h.index]
  by_cases taken : name ∈ columns.names
  · rw [if_pos taken, Option.some.injEq]
    constructor
    · rintro rfl
      exact List.getElem?_idxOf taken
    · intro found
      obtain ⟨bound, same⟩ := List.getElem?_eq_some_iff.1 found
      rw [← same, Variables.slotOf, distinct.idxOf_getElem]
  · rw [if_neg taken]
    constructor
    · intro found
      contradiction
    · intro found
      exact absurd (List.mem_of_getElem? found) taken

end Holds

section Table

variable {columns : Columns σ} {table : Variables σ} {name : String}

/-- No name stands twice, since none does among the entries. -/
theorem Holds.distinct (h : columns.Holds table.entries) : columns.names.Nodup := by
  rw [h.names]
  exact table.distinct

/-- To overwrite the slot of a name is to change the entry of that name. -/
theorem Holds.put (h : columns.Holds table.entries) {slot : Slot}
    (found : columns.lookup? name = some slot) (binding : Option (Binding σ)) :
    (columns.put slot binding).Holds (table.assign name binding).entries := by
  have place (index : Nat) : columns.names[index]? = some name ↔ slot.index = index := by
    rw [← h.lookup_iff h.distinct name ⟨index⟩, found, Option.some.injEq, Slot.mk.injEq]
  constructor
  · have names : (table.assign name binding).slotNames = table.slotNames :=
      Variables.slotNames_assign
    exact h.names.trans names.symm
  · apply List.ext_getElem?
    intro index
    have here := place index
    rw [h.names, List.getElem?_map] at here
    simp only [Columns.put, Variables.assign, h.bindings, List.getElem?_set, List.getElem?_map,
      List.map_map, List.length_map]
    cases hentry : table.entries[index]? with
    | none =>
      have beyond : table.entries.length ≤ index := List.getElem?_eq_none_iff.1 hentry
      by_cases same : slot.index = index <;> simp [same, beyond]
    | some entry =>
      have bound : index < table.entries.length := (List.getElem?_eq_some_iff.1 hentry).1
      have here : entry.name = name ↔ slot.index = index := by simpa [hentry] using here
      by_cases same : entry.name = name
      · simp [here.1 same, same, bound]
      · simp [mt here.2 same, same]
  · exact h.index

/-- A name is looked up as in the table. -/
theorem Holds.lookup?_eq (h : columns.Holds table.entries) (name : String) :
    columns.lookup? name = table.lookup? name := by
  have names : columns.names = table.slotNames := h.names
  rw [h.index, names]
  by_cases taken : name ∈ table.slotNames
  · rw [if_pos taken, Variables.lookup?_of_mem taken]
  · rw [if_neg taken, Variables.lookup?_eq_none taken]

/-- Reserving a name has the result that it has on the table, and keeps the columns in step. -/
theorem Holds.slot (h : columns.Holds table.entries) (name : String) :
    (columns.slot name).1 = (table.slot name).1 ∧
      (columns.slot name).2.Holds (table.slot name).2.entries := by
  have names : columns.names = table.slotNames := h.names
  have found := h.index name
  rw [names] at found
  rw [Variables.slot_fst]
  by_cases taken : name ∈ table.slotNames
  · rw [if_pos taken] at found
    simp only [Columns.slot, found, Variables.slot, Variables.reserve_of_mem taken]
    exact ⟨trivial, h⟩
  · rw [if_neg taken] at found
    simp only [Columns.slot, found, Variables.slot, Variables.entries_reserve_of_not_mem taken]
    constructor
    · rw [Variables.slotNames_reserve, if_neg taken, Variables.slotOf, List.idxOf_append,
        if_neg taken, ← names, h.names_length]
      simp
    · exact h.push taken none

/-- The slot that is handed out for a name is found under it. -/
theorem lookup?_slot (columns : Columns σ) (name : String) :
    (columns.slot name).2.lookup? name = some (columns.slot name).1 := by
  unfold slot
  split
  · next found => exact found
  · exact Finmap.lookup_insert _

/-- Binding a name keeps the columns in step with the table. -/
theorem Holds.bind (h : columns.Holds table.entries) (name : String) (binding : Binding σ) :
    (columns.bind name binding).Holds (table.bind name binding).entries :=
  (h.slot name).2.put (columns.lookup?_slot name) (some binding)

/-- The binding in the slot of a name is that of the name. -/
theorem Holds.bind_held?_eq (h : columns.Holds table.entries) (name : String) :
    (columns.lookup? name).bind columns.held? = table.binding? name := by
  have names : columns.names = table.slotNames := h.names
  rw [h.index, names]
  by_cases taken : name ∈ table.slotNames
  · rw [if_pos taken, Option.bind_some, h.held?_eq,
      Variables.getElem?_slotOf List.prefix_rfl taken, Variables.binding?]
  · rw [if_neg taken, Variables.binding?_eq_none taken, Option.bind_none]

/-- Unbinding a name has the result that it has on the table, and keeps the columns in step. -/
theorem Holds.unbind (h : columns.Holds table.entries) (name : String) :
    (columns.unbind name).1 = (table.unbind name).1 ∧
      (columns.unbind name).2.Holds (table.unbind name).2.entries := by
  have held := h.bind_held?_eq name
  cases found : columns.lookup? name with
  | some slot =>
    rw [found, Option.bind_some] at held
    simp only [Columns.unbind, found, Variables.unbind, held]
    exact ⟨trivial, h.put found none⟩
  | none =>
    have absent : name ∉ table.slotNames := by
      intro taken
      rw [h.lookup?_eq, Variables.lookup?_of_mem taken] at found
      contradiction
    have same : (table.assign name none).entries = table.entries := by
      refine (List.map_congr_left fun entry member => ?_).trans (List.map_id _)
      have apart : entry.name ≠ name := fun same => absent (same ▸ List.mem_map_of_mem member)
      exact if_neg apart
    rw [found, Option.bind_none] at held
    simp only [Columns.unbind, found, Variables.unbind, same]
    exact ⟨held, h⟩

end Table

/-- One entry after the other is taken over if it is not empty. -/
theorem Holds.foldl_keep {columns : Columns σ} {entries : List (Entry σ)}
    (h : columns.Holds entries) {rest : List (Entry σ)}
    (distinct : ((entries ++ rest).map Entry.name).Nodup) :
    ((rest.map fun entry => (entry.name, entry.binding)).foldl keep columns).Holds
      (entries ++ rest.filter (·.binding.isSome)) := by
  induction rest generalizing columns entries with
  | nil => simpa using h
  | cons entry rest ih =>
    obtain ⟨name, binding⟩ := entry
    cases binding with
    | none =>
      have fewer : ((entries ++ rest).map Entry.name).Nodup :=
        distinct.sublist (((List.sublist_cons_self _ rest).append_left entries).map Entry.name)
      simpa [keep] using ih h fewer
    | some binding =>
      have fresh : name ∉ entries.map Entry.name := by
        rw [List.map_append, List.nodup_append] at distinct
        exact fun member => distinct.2.2 name member name (by simp) rfl
      have pushed := h.push fresh (some binding)
      have moved : ((entries ++ [(⟨name, some binding⟩ : Entry σ)] ++ rest).map
          Entry.name).Nodup := by
        simpa using distinct
      simpa [keep] using ih pushed moved

/-- Releasing slots keeps the columns in step, though they are built anew. -/
theorem Holds.releaseUnbound {columns : Columns σ} {table : Variables σ}
    (h : columns.Holds table.entries) :
    columns.releaseUnbound.Holds table.releaseUnbound.entries := by
  rw [Columns.releaseUnbound, h.zip_eq]
  exact Holds.empty.foldl_keep table.distinct

/-! ## What follows for columns -/

section Table

variable {columns : Columns σ} {table : Variables σ} {bound : Bound σ}

/-- The names in the index are those of the list. -/
theorem Holds.keys_eq {entries : List (Entry σ)} (h : columns.Holds entries) :
    columns.index.keys = columns.names.toFinset := by
  ext name
  have found := h.index name
  rw [Finmap.mem_keys, ← Finmap.lookup_isSome, List.mem_toFinset]
  rw [lookup?] at found
  by_cases taken : name ∈ columns.names <;> simp [found, taken]

/-- The three parts of columns that are in step with a table are inverse to each other. -/
theorem Holds.indexed (h : columns.Holds table.entries) : columns.Indexed where
  names_length := h.names_length
  index_card := by rw [h.keys_eq, List.toFinset_card_of_nodup h.distinct, h.names_length]
  dense index := by
    simp only [h.lookup_iff h.distinct, ← h.names_length, List.getElem?_eq_some_iff]
    grind
  lookup_iff := h.lookup_iff h.distinct
  distinct := h.distinct
  slot := columns.lookup?_slot

/-- A slot is read as in the table, with the same error. -/
theorem Holds.read_eq (h : columns.Holds table.entries) (slot : Slot) :
    columns.read slot = table.read slot := by
  rw [read, Variables.read, h.held?_eq, h.names, List.getElem?_map]
  cases table.entries[slot.index]? with
  | none => rfl
  | some entry =>
    obtain ⟨name, binding⟩ := entry
    cases binding <;> rfl

/-- Whatever is asked of the columns is answered as by the table. -/
theorem Holds.serves (h : columns.Holds table.entries) : columns.Serves table where
  lookup? := h.lookup?_eq
  read := h.read_eq
  value name := by
    rw [value, Variables.value, h.lookup?_eq]
    cases table.lookup? name with
    | none => rfl
    | some slot => exact h.read_eq slot
  contains name := by
    rw [Variables.contains, ← h.bind_held?_eq, contains]
    cases columns.lookup? name <;> rfl
  boundNames := h.boundNames_eq
  size := h.size_eq
  isEmpty := by rw [isEmpty, Variables.isEmpty, h.size_eq, Variables.size]
  slotCount := h.slotCount_eq
  slot name := (h.slot name).1
  unbind name := (h.unbind name).1

end Table

end Columns

/-! ## Bound names -/

namespace Variables

variable {table : Variables σ} {bound : Bound σ} {name : String}

/-- An entry is the one that is found under its name. -/
theorem find?_entries_of_mem {entry : Entry σ} (member : entry ∈ table.entries) :
    table.entries.find? (·.name == entry.name) = some entry := by
  obtain ⟨found, hfound⟩ := exists_entry_of_mem (List.mem_map_of_mem member)
  have same : found.name = entry.name := by simpa using List.find?_some hfound
  rw [hfound, List.inj_on_of_nodup_map table.distinct (List.mem_of_find?_eq_some hfound) member
    same]

/-- The names of a table are those that something is bound to. -/
theorem mem_names_iff : name ∈ table.names ↔ (table.binding? name).isSome = true := by
  rw [names, List.mem_map, binding?]
  constructor
  · rintro ⟨entry, member, rfl⟩
    rw [List.mem_filter] at member
    rw [find?_entries_of_mem member.1]
    exact member.2
  · intro bound
    cases hfound : table.entries.find? (·.name == name) with
    | none => simp [hfound] at bound
    | some entry =>
      have same : entry.name = name := by simpa using List.find?_some hfound
      rw [hfound] at bound
      exact ⟨entry, List.mem_filter.2 ⟨List.mem_of_find?_eq_some hfound, bound⟩, same⟩

/-- The names of a table stand in the order of their slots. -/
theorem names_sublist : table.names.Sublist table.slotNames := List.filter_sublist.map Entry.name

theorem size_eq_length_names : table.size = table.names.length := by
  rw [size, names, List.length_map, List.countP_eq_length_filter]

/-- The table has the bindings of the map. -/
def Binds (table : Variables σ) (bound : Bound σ) : Prop :=
  ∀ name, table.binding? name = bound.lookup name

/-- What one call preserves. -/
theorem Binds.call (h : table.Binds bound) (call : Call σ) :
    (table.call call).Binds (bound.call call) := by
  intro name
  cases call with
  | bind other binding =>
    rw [Variables.call, Bound.call, binding?_bind]
    by_cases same : name = other
    · subst same
      simp
    · rw [if_neg same, Finmap.lookup_insert_of_ne _ same, h]
  | unbind other =>
    rw [Variables.call, Bound.call, binding?_unbind]
    by_cases same : name = other
    · subst same
      simp
    · rw [if_neg same, Finmap.lookup_erase_ne same, h]
  | slot other => exact binding?_reserve.trans (h name)
  | releaseUnbound => exact binding?_releaseUnbound.trans (h name)

/-- What a run preserves. -/
theorem Binds.run (h : table.Binds bound) (calls : List (Call σ)) :
    (calls.foldl Variables.call table).Binds (calls.foldl Bound.call bound) := by
  induction calls generalizing table bound with
  | nil => exact h
  | cons first calls ih => exact ih (h.call first)

/-- The names of a table are the keys of the map. -/
theorem Binds.mem_names_iff (h : table.Binds bound) : name ∈ table.names ↔ name ∈ bound := by
  rw [Variables.mem_names_iff, h, Finmap.lookup_isSome]

theorem Binds.size_eq (h : table.Binds bound) : table.size = bound.keys.card := by
  have keys : bound.keys = table.names.toFinset := by
    ext name
    rw [Finmap.mem_keys, List.mem_toFinset, h.mem_names_iff]
  rw [keys, List.toFinset_card_of_nodup (table.distinct.sublist names_sublist),
    size_eq_length_names]

theorem Binds.isEmpty_iff (h : table.Binds bound) : table.isEmpty = true ↔ bound = ∅ := by
  rw [isEmpty, beq_iff_eq, h.size_eq, Finset.card_eq_zero]
  constructor
  · intro none
    apply Finmap.ext_lookup
    intro name
    rw [Finmap.lookup_empty, Finmap.lookup_eq_none, ← Finmap.mem_keys, none]
    simp
  · rintro rfl
    rfl

end Variables

/-! ## Runs -/

namespace Columns

variable {columns : Columns σ} {table : Variables σ} {bound : Bound σ}

/-- The names stand in the order of their slots. -/
theorem Holds.names_ordered (h : columns.Holds table.entries) :
    columns.names.Pairwise fun name other => ∃ slot slot' : Slot,
      columns.lookup? name = some slot ∧ columns.lookup? other = some slot' ∧
        slot.index < slot'.index := by
  rw [List.pairwise_iff_getElem]
  intro i j hi hj before
  refine ⟨⟨i⟩, ⟨j⟩, ?_, ?_, before⟩
  · rw [h.lookup_iff h.distinct, List.getElem?_eq_getElem hi]
  · rw [h.lookup_iff h.distinct, List.getElem?_eq_getElem hj]

/-- Columns say of their names what the map says that has the bindings of the table. -/
theorem Holds.represents (h : columns.Holds table.entries) (binds : table.Binds bound) :
    columns.Represents bound := by
  have serves := h.serves
  have names : columns.boundNames = table.names := serves.boundNames
  exact {
    contains := fun name => by
      rw [serves.contains, Variables.contains, binds, Finmap.lookup_isSome]
    value := fun name => by
      rw [serves.value, Variables.value_eq, binds]
      cases bound.lookup name <;> rfl
    unbind := fun name => (serves.unbind name).trans (binds name)
    size := serves.size.trans binds.size_eq
    isEmpty := by rw [serves.isEmpty, binds.isEmpty_iff]
    boundNames := fun name => by rw [names, binds.mem_names_iff]
    once := names ▸ table.distinct.sublist Variables.names_sublist
    ordered := by
      have slots : columns.names = table.slotNames := h.names
      rw [names]
      exact (slots ▸ h.names_ordered).sublist Variables.names_sublist }

/-- What one call preserves. -/
theorem Holds.call (h : columns.Holds table.entries) (call : Variables.Call σ) :
    (columns.call call).Holds (table.call call).entries := by
  cases call with
  | bind name binding => exact h.bind name binding
  | unbind name => exact (h.unbind name).2
  | slot name => exact (h.slot name).2
  | releaseUnbound => exact h.releaseUnbound

/-- What a run preserves. -/
theorem Holds.run (h : columns.Holds table.entries) (calls : List (Variables.Call σ)) :
    (calls.foldl Columns.call columns).Holds (calls.foldl Variables.call table).entries := by
  induction calls generalizing columns table with
  | nil => exact h
  | cons first calls ih => exact ih (h.call first)

/-- **A finite map.** After any calls the columns say of every name what was bound to it last, list
the bound names once each in the order of their slots, and keep their parts inverse to each other;
and all that is asked of them is answered as by the table that the calls make. -/
theorem run_represents (calls : List (Variables.Call σ)) :
    let columns := calls.foldl Columns.call empty
    columns.Represents (calls.foldl Bound.call ∅) ∧ columns.Indexed ∧
      columns.Serves (calls.foldl Variables.call .empty) := by
  have holds : (empty : Columns σ).Holds Variables.empty.entries := .empty
  have binds : (Variables.empty : Variables σ).Binds ∅ := fun name => rfl
  exact ⟨(holds.run calls).represents (binds.run calls), (holds.run calls).indexed,
    (holds.run calls).serves⟩

end Columns

end Formulary
