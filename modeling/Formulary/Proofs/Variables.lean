import Formulary.Variables

/-!
# Formulary.Proofs.Variables

A table of variables by its names.

What a table says of a name is its binding (`Variables.binding?`), and every
operation is described by what it does to the bindings of all names. Where a
name is found is its place among the names of the slots
(`Variables.slotNames`). Reserving and binding only add names at the end and
unbinding changes none, so a slot that was handed out stays the slot of its name
(`Variables.read_slotOf`).
-/

namespace Formulary

variable {σ : Type}

/-- What reading a variable gives when this is bound to it. -/
def Binding.readAs (name : String) : Option (Binding σ) → Eval σ Float
  | some binding => binding.read
  | none => throw (.unbound name)

namespace Variables

variable {table : Variables σ} {name other : String}

/-! ## The names of the slots -/

/-- The names that have slots, in the order of the slots. -/
def slotNames (table : Variables σ) : List String := table.entries.map Entry.name

/-- The slot of a name in a table whose slots have these names. -/
def slotOf (names : List String) (name : String) : Slot := ⟨names.idxOf name⟩

/-- A name that has a slot is given no other. -/
theorem reserve_of_mem (taken : name ∈ table.slotNames) : table.reserve name = table :=
  dif_pos taken

/-- A new name is given the slot behind all others, with nothing in it. -/
theorem entries_reserve_of_not_mem (absent : name ∉ table.slotNames) :
    (table.reserve name).entries = table.entries ++ [⟨name, none⟩] :=
  congrArg Variables.entries (dif_neg absent)

/-- The names of the slots after a name was reserved. -/
theorem slotNames_reserve : (table.reserve name).slotNames =
    if name ∈ table.slotNames then table.slotNames else table.slotNames ++ [name] := by
  unfold reserve slotNames
  split <;> simp_all

theorem slotNames_assign {binding : Option (Binding σ)} :
    (table.assign name binding).slotNames = table.slotNames := by
  unfold assign slotNames
  rw [List.map_map]
  apply List.map_congr_left
  intro entry _
  by_cases same : entry.name = name <;> simp [same]

theorem slotNames_bind {binding : Binding σ} :
    (table.bind name binding).slotNames = (table.reserve name).slotNames :=
  slotNames_assign

theorem slotNames_unbind : (table.unbind name).2.slotNames = table.slotNames :=
  slotNames_assign

theorem mem_slotNames_reserve : name ∈ (table.reserve name).slotNames := by
  rw [slotNames_reserve]
  by_cases taken : name ∈ table.slotNames <;> simp [taken]

/-- Slots that there are stay where they are when a name is reserved. -/
theorem slotNames_prefix_reserve : table.slotNames <+: (table.reserve name).slotNames := by
  rw [slotNames_reserve]
  by_cases taken : name ∈ table.slotNames <;> simp [taken]

/-! ## Bindings by name -/

theorem find?_entries_eq_none (absent : name ∉ table.slotNames) :
    table.entries.find? (·.name == name) = none := by
  rw [List.find?_eq_none]
  intro entry member same
  exact absent (eq_of_beq same ▸ List.mem_map_of_mem member)

/-- Nothing is bound to a name without a slot. -/
theorem binding?_eq_none (absent : name ∉ table.slotNames) :
    table.binding? name = none := by
  rw [binding?, find?_entries_eq_none absent]
  rfl

/-- A new slot is empty. -/
theorem binding?_reserve : (table.reserve other).binding? name = table.binding? name := by
  unfold reserve
  split
  · rfl
  · next absent =>
    simp only [binding?, List.find?_append]
    by_cases same : other = name
    · subst same
      rw [find?_entries_eq_none absent]
      simp
    · simp [same]

theorem exists_entry_of_mem (taken : name ∈ table.slotNames) :
    ∃ entry, table.entries.find? (·.name == name) = some entry := by
  obtain ⟨entry, member, same⟩ := List.mem_map.1 taken
  exact Option.isSome_iff_exists.1 (List.find?_isSome.2 ⟨entry, member, by simpa using same⟩)

/-- Assigning to a name changes what is found under that name only. -/
theorem find?_entries_assign {binding : Option (Binding σ)} :
    (table.assign other binding).entries.find? (·.name == name) =
      (table.entries.find? (·.name == name)).map fun entry =>
        if entry.name = other then { entry with binding } else entry := by
  unfold assign
  rw [List.find?_map]
  congr 2
  funext entry
  by_cases same : entry.name = other <;> simp [same]

/-- What is bound after an assignment. A name without a slot is not assigned to. -/
theorem binding?_assign {binding : Option (Binding σ)} :
    (table.assign other binding).binding? name =
      if name = other ∧ name ∈ table.slotNames then binding else table.binding? name := by
  by_cases taken : name ∈ table.slotNames
  · obtain ⟨found, hfound⟩ := exists_entry_of_mem taken
    have hname : found.name = name := by simpa using List.find?_some hfound
    simp only [binding?, find?_entries_assign, hfound, taken, and_true]
    by_cases same : name = other <;> simp [hname, same]
  · simp only [binding?, find?_entries_assign, find?_entries_eq_none taken, taken, and_false]
    rfl

/-- After binding a name it has the new binding, and all others have theirs. -/
theorem binding?_bind {binding : Binding σ} :
    (table.bind other binding).binding? name =
      if name = other then some binding else table.binding? name := by
  rw [bind, binding?_assign, binding?_reserve]
  by_cases same : name = other
  · subst same
    simp [mem_slotNames_reserve]
  · simp [same]

/-- After unbinding a name nothing is bound to it, and all others have their bindings. -/
theorem binding?_unbind :
    (table.unbind other).2.binding? name =
      if name = other then none else table.binding? name := by
  rw [unbind, binding?_assign]
  by_cases same : name = other
  · by_cases taken : name ∈ table.slotNames
    · simp [same, same ▸ taken]
    · simp [same, binding?_eq_none (same ▸ taken)]
  · simp [same]

/-- Empty slots have no bindings to lose. -/
theorem binding?_releaseUnbound : table.releaseUnbound.binding? name = table.binding? name := by
  obtain ⟨entries, distinct⟩ := table
  simp only [binding?, releaseUnbound]
  induction entries with
  | nil => rfl
  | cons entry entries ih =>
    rw [List.map_cons, List.nodup_cons] at distinct
    have ih := ih distinct.2
    cases hbinding : entry.binding with
    | some binding =>
      rw [List.filter_cons_of_pos (by simp [hbinding]), List.find?_cons, List.find?_cons]
      split
      · rfl
      · exact ih
    | none =>
      rw [List.filter_cons_of_neg (by simp [hbinding]), List.find?_cons, ih]
      by_cases same : entry.name = name
      · have absent : entries.find? (·.name == name) = none := by
          rw [List.find?_eq_none]
          intro other member hother
          exact distinct.1 (same ▸ eq_of_beq hother ▸ List.mem_map_of_mem member)
        simp [same, absent, hbinding]
      · rw [beq_false_of_ne same]

/-! ## Reserving many names -/

/-- Give every name a slot, in order. -/
def reserveAll (table : Variables σ) (names : List String) : Variables σ :=
  names.foldl reserve table

theorem reserveAll_append (names others : List String) :
    table.reserveAll (names ++ others) = (table.reserveAll names).reserveAll others :=
  List.foldl_append

/-- Slots that there are stay where they are when several names are reserved. -/
theorem slotNames_prefix_reserveAll (names : List String) :
    table.slotNames <+: (table.reserveAll names).slotNames := by
  induction names generalizing table with
  | nil => exact List.prefix_rfl
  | cons name names ih => exact slotNames_prefix_reserve.trans ih

theorem mem_slotNames_reserveAll {names : List String} (member : name ∈ names) :
    name ∈ (table.reserveAll names).slotNames := by
  induction names generalizing table with
  | nil => exact absurd member List.not_mem_nil
  | cons first names ih =>
    rcases List.mem_cons.1 member with rfl | member
    · exact (slotNames_prefix_reserveAll names).mem mem_slotNames_reserve
    · exact ih member

/-- Reserving names binds nothing. -/
theorem binding?_reserveAll (names : List String) :
    (table.reserveAll names).binding? name = table.binding? name := by
  induction names generalizing table with
  | nil => rfl
  | cons first names ih => exact ih.trans binding?_reserve

/-! ## Slots -/

/-- A name is looked up in the slot where it stands among the names. -/
theorem lookup?_of_mem (taken : name ∈ table.slotNames) :
    table.lookup? name = some (slotOf table.slotNames name) := by
  have hindex : table.entries.findIdx? (·.name == name) = table.slotNames.findIdx? (· == name) := by
    rw [slotNames, List.findIdx?_map]
    rfl
  rw [lookup?, hindex, List.findIdx?_eq_some_of_exists ⟨name, taken, by simp⟩]
  rfl

/-- A name that is not among the names is not found. -/
theorem lookup?_eq_none (absent : name ∉ table.slotNames) : table.lookup? name = none := by
  rw [lookup?, Option.map_eq_none_iff, List.findIdx?_eq_none_iff]
  intro entry member
  have taken : entry.name ∈ table.slotNames := List.mem_map_of_mem member
  by_cases same : entry.name = name
  · exact absurd (same ▸ taken) absent
  · simpa using same

/-- The slot that is handed out for a name is its place among the names. -/
theorem slot_fst : (table.slot name).1 = slotOf (table.reserve name).slotNames name := by
  simp only [slot, lookup?_of_mem mem_slotNames_reserve]
  rfl

/-- Names that are added behind others do not move their slots. -/
theorem slotOf_extend {names others : List String} (extended : names <+: others)
    (member : name ∈ names) : slotOf others name = slotOf names name := by
  obtain ⟨rest, rfl⟩ := extended
  rw [slotOf, List.idxOf_append, if_pos member]
  rfl

/-- A slot holds the entry of its name, in every table that has come to hold more names. -/
theorem getElem?_slotOf {names : List String} (extended : names <+: table.slotNames)
    (member : name ∈ names) :
    table.entries[(slotOf names name).index]? = table.entries.find? (·.name == name) := by
  have hindex : (slotOf names name).index = table.entries.findIdx (·.name == name) := by
    rw [← slotOf_extend extended member, slotOf, slotNames, List.idxOf, List.findIdx_map]
    rfl
  rw [hindex, List.find?_eq_getElem?_findIdx]

/-- The value in the slot of a variable is that of the variable. -/
theorem read_slotOf {names : List String} (extended : names <+: table.slotNames)
    (member : name ∈ names) :
    table.read (slotOf names name) = Binding.readAs name (table.binding? name) := by
  obtain ⟨found, hfound⟩ := exists_entry_of_mem (extended.mem member)
  have hname : found.name = name := by simpa using List.find?_some hfound
  obtain ⟨_, binding⟩ := found
  cases hname
  rw [read, getElem?_slotOf extended member, binding?, hfound]
  cases binding <;> rfl

/-- A variable is read as what is bound to it. -/
theorem value_eq (name : String) :
    table.value name = Binding.readAs name (table.binding? name) := by
  by_cases taken : name ∈ table.slotNames
  · rw [value, lookup?_of_mem taken]
    exact read_slotOf List.prefix_rfl taken
  · rw [value, lookup?_eq_none taken, binding?_eq_none taken]
    rfl

end Variables

end Formulary
