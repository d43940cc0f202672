import Formulary.Operator

/-!
# Formulary.Registry

The operators a formula may use.

A `Registry` is a list of operators of which no two have the same key, a
symbol together with an arity, and all are valid; both are part of the type.
The order of the list is the order of registration and has no effect. What the
lexer needs to know of a registry is its `Lexicon`: the words and the
punctuation that are operators.
-/

namespace Formulary

/-! ## The symbols of a registry -/

/-- The symbols that are lexed as operators. -/
structure Lexicon where
  words : List String
  punctuation : List String
deriving DecidableEq, Repr

namespace Lexicon

/-- Sort symbols into words and punctuation. -/
def ofSymbols (symbols : List String) : Lexicon where
  words := symbols.filter Symbol.isWord
  punctuation := symbols.filter fun symbol => !Symbol.isWord symbol

/-- The word, in any letter case, is an operator and not a name. -/
def isOperatorWord (lexicon : Lexicon) (word : String) : Bool :=
  lexicon.words.contains (Symbol.normalize word)

/-- The longer of two symbols, the first of them if they are equally long. -/
def longer (a b : String) : String :=
  if a.toList.length < b.toList.length then b else a

/-- The longest punctuation at the front of a text. -/
def matchPunctuation? (lexicon : Lexicon) (text : List Char) : Option String :=
  let candidates := lexicon.punctuation.filter fun symbol =>
    !symbol.toList.isEmpty && symbol.toList.isPrefixOf text
  match candidates with
  | [] => none
  | symbol :: rest => some (rest.foldl longer symbol)

end Lexicon

/-! ## Registries -/

/-- Why an operator was not registered. -/
inductive RegistrationError
  /-- There is an operator with this symbol and arity already. -/
  | duplicate (symbol : String) (arity : Arity)
  /-- The name could not be lexed as an operator. -/
  | invalidName (name : String)
deriving DecidableEq, Repr

/-- The wording of the error. -/
def RegistrationError.message : RegistrationError → String
  | .duplicate symbol arity => s!"Operator '{symbol}' is already registered as {arity.name}"
  | .invalidName name => s!"Invalid operator symbol: '{name}'"

/-- A set of operators. -/
structure Registry (σ : Type) where
  operators : List (Operator σ)
  /-- Every symbol and separator can be lexed. -/
  valid : ∀ operator ∈ operators, operator.invalidName? = none
  /-- One operator at most for a symbol and an arity. -/
  distinct : (operators.map Operator.key).Nodup

namespace Registry

variable {σ : Type}

/-- The registry without any operator. -/
def empty : Registry σ := ⟨[], by simp, by simp⟩

instance : EmptyCollection (Registry σ) := ⟨empty⟩

instance : Inhabited (Registry σ) := ⟨empty⟩

/-- The number of operators. -/
def size (registry : Registry σ) : Nat := registry.operators.length

/-- The registry has no operator. -/
def isEmpty (registry : Registry σ) : Bool := registry.operators.isEmpty

/-- The symbols and arities in use. -/
def keys (registry : Registry σ) : List (String × Arity) := registry.operators.map Operator.key

/-- The operator with this symbol, a word in any letter case, and this arity. -/
def resolve? (registry : Registry σ) (symbol : String) (arity : Arity) : Option (Operator σ) :=
  registry.operators.find? (·.key == (Symbol.normalize symbol, arity))

/-- The function of this name, in any letter case. -/
def function? (registry : Registry σ) (name : String) : Option (Operator σ) :=
  registry.resolve? name .function

/-- Add an operator. It must be valid, and its key must be free: no operator is ever replaced. -/
def register (registry : Registry σ) (operator : Operator σ) :
    Except RegistrationError (Registry σ) :=
  match valid : operator.invalidName? with
  | some name => .error (.invalidName name)
  | none =>
    if taken : operator.key ∈ registry.keys then
      .error (.duplicate operator.symbol operator.arity)
    else
      .ok {
        operators := registry.operators ++ [operator]
        valid := by
          intro other member
          rcases List.mem_append.1 member with member | member
          · exact registry.valid other member
          · rw [List.mem_singleton.1 member]; exact valid
        distinct := by
          rw [List.map_append, List.nodup_append]
          refine ⟨registry.distinct, by simp, ?_⟩
          intro key member other single same
          rw [List.map_singleton, List.mem_singleton] at single
          exact taken (single ▸ same ▸ member) }

/-- Remove the operator with this symbol, a word in any letter case, and this arity. -/
def unregister (registry : Registry σ) (symbol : String) (arity : Arity) : Registry σ where
  operators := registry.operators.filter (·.key != (Symbol.normalize symbol, arity))
  valid operator member := registry.valid operator (List.mem_filter.1 member).1
  distinct := registry.distinct.sublist (List.filter_sublist.map Operator.key)

/-- Add operators one after the other, up to the first that is refused. -/
def registerAll (registry : Registry σ) (operators : List (Operator σ)) :
    Except RegistrationError (Registry σ) :=
  operators.foldlM register registry

/-- The symbols by which the operators are written, functions apart. -/
def lexicon (registry : Registry σ) : Lexicon :=
  Lexicon.ofSymbols (registry.operators.flatMap Operator.symbols)

end Registry

end Formulary
