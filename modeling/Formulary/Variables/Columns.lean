import Formulary.Variables
import Mathlib.Data.Finmap

/-!
# Formulary.Variables.Columns

A table of variables as columns that are changed in place.

The names of the slots and what is bound to them stand in two lists, and an index leads
from a name to its slot. Nothing but the operations keeps the three together: a new name
goes to the end of both lists and into the index, binding and unbinding overwrite one
place of one list, and `Columns.releaseUnbound` starts all three anew.
-/

namespace Formulary

/-- A table of variables: the lists go by the slots, the index by the names. -/
structure Columns (σ : Type) where
  names : List String
  bindings : List (Option (Binding σ))
  index : Finmap fun _ : String => Slot

namespace Columns

variable {σ : Type}

/-- The table that has met no name. -/
def empty : Columns σ := ⟨[], [], ∅⟩

/-! ## Looking up -/

/-- The number of slots, empty or not. -/
def slotCount (columns : Columns σ) : Nat := columns.bindings.length

/-- The slot of a name, if it has one. -/
def lookup? (columns : Columns σ) (name : String) : Option Slot := columns.index.lookup name

/-- What is bound in a slot. There is nothing in a slot that the table does not have. -/
def held? (columns : Columns σ) (slot : Slot) : Option (Binding σ) :=
  columns.bindings[slot.index]?.join

/-- Something is bound to the name. -/
def contains (columns : Columns σ) (name : String) : Bool :=
  match columns.lookup? name with
  | some slot => (columns.held? slot).isSome
  | none => false

/-- The names that something is bound to, in the order of their slots. -/
def boundNames (columns : Columns σ) : List String :=
  ((columns.names.zip columns.bindings).filter (·.2.isSome)).map Prod.fst

/-- The number of names that something is bound to. -/
def size (columns : Columns σ) : Nat := columns.bindings.countP Option.isSome

/-- Nothing is bound to any name. -/
def isEmpty (columns : Columns σ) : Bool := columns.size == 0

/-! ## Reading -/

/-- The value in a slot. The error has the name of the slot, if there is such a slot. -/
def read (columns : Columns σ) (slot : Slot) : Eval σ Float :=
  match columns.held? slot with
  | some binding => binding.read
  | none => throw (.unbound (columns.names[slot.index]?.getD ""))

/-- The value of a variable. -/
def value (columns : Columns σ) (name : String) : Eval σ Float :=
  match columns.lookup? name with
  | some slot => columns.read slot
  | none => throw (.unbound name)

/-! ## Writing -/

/-- Put a name and what is bound to it behind all others. -/
def push (columns : Columns σ) (name : String) (binding : Option (Binding σ)) : Columns σ where
  names := columns.names ++ [name]
  bindings := columns.bindings ++ [binding]
  index := columns.index.insert name ⟨columns.slotCount⟩

/-- Overwrite what is bound in a slot. -/
def put (columns : Columns σ) (slot : Slot) (binding : Option (Binding σ)) : Columns σ :=
  { columns with bindings := columns.bindings.set slot.index binding }

/-- The slot of a name, an empty one behind all others if it has none. -/
def slot (columns : Columns σ) (name : String) : Slot × Columns σ :=
  match columns.lookup? name with
  | some slot => (slot, columns)
  | none => (⟨columns.slotCount⟩, columns.push name none)

/-- Bind a name, in place of what was bound to it before. -/
def bind (columns : Columns σ) (name : String) (binding : Binding σ) : Columns σ :=
  let (slot, columns) := columns.slot name
  columns.put slot (some binding)

/-- Remove what is bound to a name and return it. The slot stays. -/
def unbind (columns : Columns σ) (name : String) : Option (Binding σ) × Columns σ :=
  match columns.lookup? name with
  | some slot => (columns.held? slot, columns.put slot none)
  | none => (none, columns)

/-- Take over a name with what is bound to it, if something is. -/
def keep (columns : Columns σ) : String × Option (Binding σ) → Columns σ
  | (name, some binding) => columns.push name (some binding)
  | (_, none) => columns

/-- Drop the empty slots. The others keep their order but not their places. -/
def releaseUnbound (columns : Columns σ) : Columns σ :=
  (columns.names.zip columns.bindings).foldl keep empty

end Columns

end Formulary
