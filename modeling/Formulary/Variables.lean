import Formulary.Eval

/-!
# Formulary.Variables

The variables of a formula: names, slots and bindings.

A table gives every name that it has met a *slot*, its position, and no two
slots the same name. A slot may be empty. Binding, unbinding and reserving
leave all slots where they are, so an evaluator may hold on to them;
`releaseUnbound` drops the empty ones and moves the others together.
-/

namespace Formulary

variable {σ : Type}

/-! ## Bindings -/

/-- What is bound to a variable. -/
inductive Binding (σ : Type) where
  /-- A fixed value. -/
  | static (value : Float)
  /-- A supplier, asked at every read. -/
  | dynamic (supplier : Supplier σ)

/-- The value of a binding now. -/
def Binding.read : Binding σ → Eval σ Float
  | static value => pure value
  | dynamic supplier => supplier.read

/-! ## Tables -/

/-- The position of a variable in a table. -/
structure Slot where
  index : Nat
deriving DecidableEq, Repr

/-- A name and what is bound to it, if anything. -/
structure Entry (σ : Type) where
  name : String
  binding : Option (Binding σ)

/-- A table of variables. -/
structure Variables (σ : Type) where
  /-- One entry for each slot, in order. -/
  entries : List (Entry σ)
  /-- No name has two slots. -/
  distinct : (entries.map Entry.name).Nodup

namespace Variables

/-- The table that has met no name. -/
def empty : Variables σ := ⟨[], by simp⟩

instance : EmptyCollection (Variables σ) := ⟨empty⟩

instance : Inhabited (Variables σ) := ⟨empty⟩

/-- The number of slots, empty or not. -/
def slotCount (table : Variables σ) : Nat := table.entries.length

/-- The slot of a name, if it has one. -/
def lookup? (table : Variables σ) (name : String) : Option Slot :=
  (table.entries.findIdx? (·.name == name)).map Slot.mk

/-- The binding of a name, if it has one. -/
def binding? (table : Variables σ) (name : String) : Option (Binding σ) :=
  (table.entries.find? (·.name == name)).bind Entry.binding

/-- Something is bound to the name. -/
def contains (table : Variables σ) (name : String) : Bool :=
  (table.binding? name).isSome

/-- The names that something is bound to, in the order of their slots. -/
def names (table : Variables σ) : List String :=
  (table.entries.filter (·.binding.isSome)).map Entry.name

/-- The number of names that something is bound to. -/
def size (table : Variables σ) : Nat := table.entries.countP (·.binding.isSome)

/-- Nothing is bound to any name. -/
def isEmpty (table : Variables σ) : Bool := table.size == 0

/-! ## Reading -/

/-- The value in a slot. -/
def read (table : Variables σ) (slot : Slot) : Eval σ Float :=
  match table.entries[slot.index]? with
  | some ⟨_, some binding⟩ => binding.read
  | some ⟨name, none⟩ => throw (.unbound name)
  | none => throw (.unbound "")

/-- The value of a variable. -/
def value (table : Variables σ) (name : String) : Eval σ Float :=
  match table.lookup? name with
  | some slot => table.read slot
  | none => throw (.unbound name)

/-! ## Writing -/

/-- Give a name a slot, an empty one behind all others if it has none. -/
def reserve (table : Variables σ) (name : String) : Variables σ :=
  if taken : name ∈ table.entries.map Entry.name then table
  else {
    entries := table.entries ++ [⟨name, none⟩]
    distinct := by
      rw [List.map_append, List.nodup_append]
      refine ⟨table.distinct, by simp, ?_⟩
      intro old member new single same
      have single : new = name := List.mem_singleton.1 single
      exact taken (single ▸ same ▸ member) }

/-- The slot of a name, reserved if need be. -/
def slot (table : Variables σ) (name : String) : Slot × Variables σ :=
  let table := table.reserve name
  ((table.lookup? name).getD ⟨table.slotCount⟩, table)

/-- Change what is bound to a name that has a slot. -/
def assign (table : Variables σ) (name : String) (binding : Option (Binding σ)) :
    Variables σ where
  entries := table.entries.map fun entry =>
    if entry.name = name then { entry with binding } else entry
  distinct := by
    have same : ∀ entry : Entry σ,
        (if entry.name = name then { entry with binding } else entry).name = entry.name := by
      intro entry
      split <;> rfl
    simpa [List.map_map, Function.comp_def, same] using table.distinct

/-- Bind a name, in place of what was bound to it before. -/
def bind (table : Variables σ) (name : String) (binding : Binding σ) : Variables σ :=
  (table.reserve name).assign name (some binding)

/-- Remove what is bound to a name and return it. The slot stays. -/
def unbind (table : Variables σ) (name : String) : Option (Binding σ) × Variables σ :=
  (table.binding? name, table.assign name none)

/-- Drop the empty slots. The others keep their order but not their places. -/
def releaseUnbound (table : Variables σ) : Variables σ where
  entries := table.entries.filter (·.binding.isSome)
  distinct := table.distinct.sublist (List.filter_sublist.map Entry.name)

end Variables

end Formulary
