import Formulary.Builtin
import Formulary.Text.Bytes
import Mathlib.Data.Finmap
import Mathlib.Data.Finset.Lattice.Fold
import Mathlib.Order.Lattice.Nat

/-!
# Formulary.Registry.Store

A registry as a table that is changed in place.

A `Store` has the operators under their keys and beside them what the lexer asks for: the
words, the punctuation, and how long the longest punctuation is. These are computed from
the operators after every change (`Store.rebuild`), and a change that is refused leaves
all of it alone. The table and the sets have no order.
-/

namespace Formulary

/-- The operators under their keys, and their symbols. -/
structure Store (σ : Type) where
  operators : Finmap fun _ : String × Arity => Operator σ
  /-- The symbols that are words. -/
  words : Finset String
  /-- The other symbols. -/
  punctuation : Finset String
  /-- The number of bytes of the longest punctuation. -/
  longest : Nat

namespace Store

variable {σ : Type}

/-! ## Looking up -/

/-- The operator under a key. -/
def get? (store : Store σ) (key : String × Arity) : Option (Operator σ) :=
  store.operators.lookup key

/-- The operator with this symbol, a word in any letter case, and this arity. -/
def resolve? (store : Store σ) (symbol : String) (arity : Arity) : Option (Operator σ) :=
  store.get? (Symbol.normalize symbol, arity)

/-- The word, in any letter case, is an operator and not a name. -/
def isOperatorWord (store : Store σ) (word : String) : Bool :=
  Symbol.normalize word ∈ store.words

/-- The longest punctuation at the front of a text of so many bytes at most. -/
def matchUpTo? (store : Store σ) (text : List Char) : Nat → Option String
  | 0 => none
  | count + 1 =>
    match Text.slice? text 0 (count + 1) with
    | some front =>
      if String.ofList front ∈ store.punctuation then some (String.ofList front)
      else store.matchUpTo? text count
    | none => store.matchUpTo? text count

/-- The longest punctuation at the front of a text. -/
def matchPunctuation? (store : Store σ) (text : List Char) : Option String :=
  store.matchUpTo? text (min store.longest (Text.byteLength text))

/-! ## Changing -/

/-- The store without any operator. -/
def empty : Store σ := ⟨∅, ∅, ∅, 0⟩

/-- Put an operator under its key. -/
def insert (store : Store σ) (operator : Operator σ) : Store σ :=
  { store with operators := store.operators.insert operator.key operator }

/-- Take out what is under a key. -/
def erase (store : Store σ) (key : String × Arity) : Store σ :=
  { store with operators := store.operators.erase key }

/-- The symbols by which the operators are written, functions apart. -/
def symbols (store : Store σ) : Finset String :=
  (store.operators.entries.bind fun entry => entry.2.symbols).toFinset

/-- Compute the words and the punctuation from the operators. -/
def rebuild (store : Store σ) : Store σ :=
  let punctuation := store.symbols.filter fun symbol => Symbol.isWord symbol = false
  { store with
    words := store.symbols.filter fun symbol => Symbol.isWord symbol = true
    punctuation
    longest := punctuation.sup fun symbol => Text.byteLength symbol.toList }

/-- Add an operator, whose key must be free, and say why it was not added. -/
def register (store : Store σ) (operator : Operator σ) :
    Except RegistrationError Unit × Store σ :=
  match operator.invalidName? with
  | some name => (.error (.invalidName name), store)
  | none =>
    if operator.key ∈ store.operators then
      (.error (.duplicate operator.symbol operator.arity), store)
    else (.ok (), (store.insert operator).rebuild)

/-- Remove the operator with this symbol, a word in any letter case, and this arity, and hand it
out. -/
def unregister (store : Store σ) (symbol : String) (arity : Arity) :
    Option (Operator σ) × Store σ :=
  match store.get? (Symbol.normalize symbol, arity) with
  | some operator => (some operator, (store.erase (Symbol.normalize symbol, arity)).rebuild)
  | none => (none, store)

/-- The store of the built-in operators and functions. -/
def builtin [RandomSource σ] : Store σ := (Builtin.all.foldl insert empty).rebuild

end Store

end Formulary
