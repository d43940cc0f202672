import Formulary.Proofs.Agreement
import Formulary.Registry.Store

/-!
# Formulary.Proofs.Store

What is stored beside the operators is always what follows from them.

After any calls a store has each operator under its own key, and the words, the
punctuation and the length of the longest punctuation are those of the operators that are
there (`Store.Derived`). So the operators determine the store (`Store.Derived.eq_of_get?`):
a registration that is taken back leaves nothing, and the order of the calls has no effect.

A store has the same operators as the registry that the same calls lead to
(`Store.Holds.run`), and it finds the same symbols at the front of a text: the search
through the fronts of a text, the longest first, finds what the lexicon finds
(`Store.matchPunctuation?_eq`). `Store.run_invariant` collects what holds after any calls.
-/

namespace Formulary

variable {σ : Type}

/-! ## The longest punctuation -/

namespace Text

/-- The characters before a column have as many bytes as the offset says. -/
theorem byteLength_take_of_column? {text : List Char} {offset column : Nat}
    (h : column? text offset = some column) : byteLength (text.take column) = offset := by
  induction text generalizing offset column with
  | nil =>
    cases offset with
    | zero => simp
    | succ offset => simp [column?] at h
  | cons c rest ih =>
    cases offset with
    | zero =>
      cases h
      rfl
    | succ offset =>
      simp only [column?] at h
      split at h
      · next fits =>
        obtain ⟨column, found, rfl⟩ := Option.map_eq_some_iff.1 h
        rw [List.take_succ_cons, byteLength_cons, ih found]
        omega
      · contradiction

/-- What is cut off a text up to an offset is the front of so many bytes. -/
theorem slice?_zero_eq_some_iff {text front : List Char} {count : Nat} :
    slice? text 0 count = some front ↔ front <+: text ∧ byteLength front = count := by
  have start : column? text 0 = some 0 := by cases text <;> rfl
  have cut : slice? text 0 count = (column? text count).map fun column => text.take column := by
    unfold slice?
    rw [start]
    cases column? text count <;> rfl
  rw [cut]
  constructor
  · intro h
    obtain ⟨column, found, rfl⟩ := Option.map_eq_some_iff.1 h
    exact ⟨List.take_prefix _ _, byteLength_take_of_column? found⟩
  · rintro ⟨⟨rest, rfl⟩, rfl⟩
    rw [column?_append, Option.map_some, List.take_left]

/-- Two fronts of a text are the same if the one has no more characters than the other, and the
other no more bytes. -/
theorem eq_of_prefix_of_byteLength_le {text front other : List Char} (h : front <+: text)
    (h' : other <+: text) (length : front.length ≤ other.length)
    (bytes : byteLength other ≤ byteLength front) : front = other := by
  obtain ⟨rest, rfl⟩ := List.prefix_of_prefix_length_le h h' length
  have empty : rest = [] := by
    by_contra nonempty
    have := byteLength_pos nonempty
    rw [byteLength_append] at bytes
    omega
  rw [empty, List.append_nil]

end Text

namespace Store

variable {store : Store σ} {text : List Char} {symbol other : String} {count : Nat}

/-- The punctuation at the front of the text that takes so many bytes at most. -/
structure Fits (store : Store σ) (text : List Char) (count : Nat) (symbol : String) : Prop where
  member : symbol ∈ store.punctuation
  front : symbol.toList <+: text
  nonempty : 0 < Text.byteLength symbol.toList
  bytes : Text.byteLength symbol.toList ≤ count

/-- With one byte more only the front of that length is new. -/
theorem Fits.of_succ (h : store.Fits text (count + 1) symbol)
    (absent : ∀ front, Text.slice? text 0 (count + 1) = some front →
      String.ofList front ∉ store.punctuation) : store.Fits text count symbol := by
  refine ⟨h.member, h.front, h.nonempty, ?_⟩
  by_contra longer
  have bytes : Text.byteLength symbol.toList = count + 1 := by
    have := h.bytes
    omega
  refine absent _ (Text.slice?_zero_eq_some_iff.2 ⟨h.front, bytes⟩) ?_
  rw [String.ofList_toList]
  exact h.member

/-- The search goes down from the longest front, so what it finds is the longest that fits. -/
theorem fits_of_matchUpTo? (h : store.matchUpTo? text count = some symbol) :
    store.Fits text count symbol ∧ ∀ other, store.Fits text count other →
      Text.byteLength other.toList ≤ Text.byteLength symbol.toList := by
  induction count with
  | zero => contradiction
  | succ count ih =>
    have smaller (h : store.matchUpTo? text count = some symbol)
        (absent : ∀ front, Text.slice? text 0 (count + 1) = some front →
          String.ofList front ∉ store.punctuation) :
        store.Fits text (count + 1) symbol ∧ ∀ other, store.Fits text (count + 1) other →
          Text.byteLength other.toList ≤ Text.byteLength symbol.toList := by
      obtain ⟨fits, longest⟩ := ih h
      refine ⟨⟨fits.member, fits.front, fits.nonempty, fits.bytes.trans (Nat.le_succ _)⟩, ?_⟩
      exact fun other fits' => longest other (fits'.of_succ absent)
    unfold matchUpTo? at h
    split at h
    · next front cut =>
      split at h
      · next member =>
        cases h
        obtain ⟨front, bytes⟩ := Text.slice?_zero_eq_some_iff.1 cut
        refine ⟨⟨member, by simpa using front, ?_, ?_⟩, fun other fits => ?_⟩
        · simp [bytes]
        · simp [bytes]
        · simpa [bytes] using fits.bytes
      · next absent =>
        refine smaller h fun other cut' => ?_
        rwa [Option.some.inj (cut.symm.trans cut')] at absent
    · next cut => exact smaller h fun other cut' => by simp [cut] at cut'

/-- The search goes through all lengths, so it finds something if anything fits. -/
theorem not_fits_of_matchUpTo? (h : store.matchUpTo? text count = none) :
    ¬ store.Fits text count symbol := by
  induction count with
  | zero =>
    intro fits
    have := fits.nonempty
    have := fits.bytes
    omega
  | succ count ih =>
    unfold matchUpTo? at h
    split at h
    · next front cut =>
      split at h
      · contradiction
      · next absent =>
        refine fun fits => ih h (fits.of_succ fun other cut' => ?_)
        rwa [Option.some.inj (cut.symm.trans cut')] at absent
    · next cut => exact fun fits => ih h (fits.of_succ fun other cut' => by simp [cut] at cut')

/-- The punctuation that a store finds is the one that a lexicon finds. -/
theorem matchPunctuation?_eq {lexicon : Lexicon}
    (same : ∀ symbol, symbol ∈ store.punctuation ↔ symbol ∈ lexicon.punctuation)
    (longest : ∀ symbol ∈ store.punctuation, Text.byteLength symbol.toList ≤ store.longest) :
    store.matchPunctuation? text = lexicon.matchPunctuation? text := by
  have fits {symbol : String} (member : symbol ∈ lexicon.punctuation)
      (nonempty : symbol.toList ≠ []) (front : symbol.toList <+: text) :
      store.Fits text (min store.longest (Text.byteLength text)) symbol := by
    refine ⟨(same symbol).2 member, front, Text.byteLength_pos nonempty,
      Nat.le_min.2 ⟨longest symbol ((same symbol).2 member), ?_⟩⟩
    obtain ⟨rest, rfl⟩ := front
    rw [Text.byteLength_append]
    exact Nat.le_add_right _ _
  have nonempty {symbol : String} (h : 0 < Text.byteLength symbol.toList) : symbol.toList ≠ [] := by
    intro empty
    simp [empty] at h
  unfold matchPunctuation?
  cases found : store.matchUpTo? text (min store.longest (Text.byteLength text)) with
  | none =>
    cases hmatch : lexicon.matchPunctuation? text with
    | none => rfl
    | some other =>
      obtain ⟨member, hnonempty, front⟩ := Lexicon.matchPunctuation?_mem hmatch
      exact absurd (fits member hnonempty front) (not_fits_of_matchUpTo? found)
  | some symbol =>
    obtain ⟨found, most⟩ := fits_of_matchUpTo? found
    have member := (same symbol).1 found.member
    cases hmatch : lexicon.matchPunctuation? text with
    | none =>
      exact absurd found.front
        (Lexicon.not_front_of_matchPunctuation?_eq_none hmatch member (nonempty found.nonempty))
    | some other =>
      obtain ⟨member', hnonempty, front⟩ := Lexicon.matchPunctuation?_mem hmatch
      rw [Option.some.injEq, ← String.toList_inj]
      exact Text.eq_of_prefix_of_byteLength_le found.front front
        (Lexicon.length_le_matchPunctuation? hmatch member found.front)
        (most other (fits member' hnonempty front))

/-! ## What is derived from the operators -/

/-- The symbol is the one of a stored operator that is no function, or its separator. -/
def HasSymbol (store : Store σ) (symbol : String) : Prop :=
  ∃ key operator, store.get? key = some operator ∧ operator.arity ≠ .function ∧
    (symbol = operator.symbol ∨ operator.separator? = some symbol)

/-- The operators are stored under their keys, and the rest is derived from them. -/
structure Derived (store : Store σ) : Prop where
  keys : ∀ key operator, store.get? key = some operator →
    key = (Symbol.normalize operator.symbol, operator.implementation.arity)
  words : ∀ symbol, symbol ∈ store.words ↔
    store.HasSymbol symbol ∧ Symbol.isWord symbol = true
  punctuation : ∀ symbol, symbol ∈ store.punctuation ↔
    store.HasSymbol symbol ∧ Symbol.isWord symbol = false
  longest : store.longest = store.punctuation.sup fun symbol => Text.byteLength symbol.toList

theorem mem_symbols_iff : symbol ∈ store.symbols ↔ store.HasSymbol symbol := by
  simp only [symbols, Multiset.mem_toFinset, Multiset.mem_bind, HasSymbol, get?]
  constructor
  · rintro ⟨⟨key, operator⟩, member, spelled⟩
    exact ⟨key, operator, Finmap.mem_lookup_iff.2 member,
      Registry.mem_symbols_iff.1 (Multiset.mem_coe.1 spelled)⟩
  · rintro ⟨key, operator, found, spelled⟩
    exact ⟨⟨key, operator⟩, Finmap.mem_lookup_iff.1 found,
      Multiset.mem_coe.2 (Registry.mem_symbols_iff.2 spelled)⟩

@[simp] theorem get?_rebuild (store : Store σ) (key : String × Arity) :
    store.rebuild.get? key = store.get? key := rfl

/-- What is derived from the operators is right after it was computed. -/
theorem derived_rebuild (keys : ∀ key operator, store.get? key = some operator →
    key = operator.key) : store.rebuild.Derived where
  keys key operator found := by
    rw [keys key operator found, operator.symbol_normal]
    rfl
  words symbol := by
    rw [← mem_symbols_iff]
    exact Finset.mem_filter
  punctuation symbol := by
    rw [← mem_symbols_iff]
    exact Finset.mem_filter
  longest := rfl

/-- **The operators determine the store**: nothing else is remembered, in particular not the
order in which they came. -/
theorem Derived.eq_of_get? {store other : Store σ} (h : store.Derived) (h' : other.Derived)
    (same : ∀ key, store.get? key = other.get? key) : store = other := by
  have symbols (symbol : String) : store.HasSymbol symbol ↔ other.HasSymbol symbol := by
    simp only [HasSymbol, same]
  have operators : store.operators = other.operators := Finmap.ext_lookup same
  have words : store.words = other.words :=
    Finset.ext fun symbol => by rw [h.words, h'.words, symbols]
  have punctuation : store.punctuation = other.punctuation :=
    Finset.ext fun symbol => by rw [h.punctuation, h'.punctuation, symbols]
  have longest : store.longest = other.longest := by rw [h.longest, h'.longest, punctuation]
  cases store
  cases other
  simp_all

/-- An operator is stored under its own key only. -/
theorem Derived.key_eq {operator : Operator σ} {key : String × Arity} (h : store.Derived)
    (found : store.get? key = some operator) : key = operator.key := by
  rw [h.keys key operator found, operator.symbol_normal]
  rfl

/-! ## One change -/

variable {operator : Operator σ} {arity : Arity}

/-- An operator that is stored is found under its key, and nothing else changes. -/
theorem get?_insert (store : Store σ) (operator : Operator σ) (key : String × Arity) :
    (store.insert operator).get? key =
      if key = operator.key then some operator else store.get? key := by
  unfold get? insert
  split
  · next same => rw [same, Finmap.lookup_insert]
  · next apart => exact Finmap.lookup_insert_of_ne _ apart

/-- What is erased is not found, and nothing else changes. -/
theorem get?_erase (store : Store σ) (gone key : String × Arity) :
    (store.erase gone).get? key = if key = gone then none else store.get? key := by
  unfold get? erase
  split
  · next same => rw [same, Finmap.lookup_erase]
  · next apart => exact Finmap.lookup_erase_ne apart

/-- An operator with a name that is none is refused. -/
theorem register_of_invalid {name : String} (h : operator.invalidName? = some name) :
    store.register operator = (.error (.invalidName name), store) := by
  unfold register
  rw [h]

/-- An operator whose key is taken is refused. -/
theorem register_of_taken (valid : operator.invalidName? = none)
    (taken : (store.get? operator.key).isSome = true) :
    store.register operator = (.error (.duplicate operator.symbol operator.arity), store) := by
  unfold register
  rw [valid]
  exact if_pos (Finmap.lookup_isSome.1 taken)

/-- A valid operator with a free key is stored, and the symbols are gathered anew. -/
theorem register_of_free (valid : operator.invalidName? = none)
    (free : store.get? operator.key = none) :
    store.register operator = (.ok (), (store.insert operator).rebuild) := by
  unfold register
  rw [valid]
  exact if_neg (Finmap.lookup_eq_none.1 free)

/-- An operator that is found is handed out and erased, and the symbols are gathered anew. -/
theorem unregister_of_some (h : store.resolve? symbol arity = some operator) :
    store.unregister symbol arity =
      (some operator, (store.erase (Symbol.normalize symbol, arity)).rebuild) := by
  unfold unregister
  rw [resolve?] at h
  rw [h]

/-- Removing an operator that is not there changes nothing. -/
theorem unregister_of_none (h : store.resolve? symbol arity = none) :
    store.unregister symbol arity = (none, store) := by
  unfold unregister
  rw [resolve?] at h
  rw [h]

/-- Removing takes away what is under one key. -/
theorem get?_unregister (store : Store σ) (symbol : String) (arity : Arity)
    (key : String × Arity) : (store.unregister symbol arity).2.get? key =
      if key = (Symbol.normalize symbol, arity) then none else store.get? key := by
  cases h : store.resolve? symbol arity with
  | none =>
    rw [unregister_of_none h]
    split
    · next same => rw [same, ← h, resolve?]
    · rfl
  | some operator => rw [unregister_of_some h, get?_rebuild, get?_erase]

theorem fst_unregister (store : Store σ) (symbol : String) (arity : Arity) :
    (store.unregister symbol arity).1 = store.resolve? symbol arity := by
  cases h : store.resolve? symbol arity with
  | none => rw [unregister_of_none h]
  | some operator => rw [unregister_of_some h]

/-- Storing an operator and gathering the symbols keeps the parts in step. -/
theorem Derived.insert (h : store.Derived) (operator : Operator σ) :
    (store.insert operator).rebuild.Derived := by
  refine derived_rebuild fun key other found => ?_
  rw [get?_insert] at found
  split at found
  · next same =>
    cases found
    exact same
  · exact h.key_eq found

/-- Registering keeps the parts in step, also when it fails. -/
theorem Derived.register (h : store.Derived) (operator : Operator σ) :
    (store.register operator).2.Derived := by
  cases valid : operator.invalidName? with
  | some name => rwa [register_of_invalid valid]
  | none =>
    cases found : store.get? operator.key with
    | some other => rwa [register_of_taken valid (by rw [found]; rfl)]
    | none =>
      rw [register_of_free valid found]
      exact h.insert operator

/-- Removing keeps the parts in step. -/
theorem Derived.unregister (h : store.Derived) (symbol : String) (arity : Arity) :
    (store.unregister symbol arity).2.Derived := by
  cases found : store.resolve? symbol arity with
  | none => rwa [unregister_of_none found]
  | some operator =>
    rw [unregister_of_some found]
    refine derived_rebuild fun key other kept => ?_
    rw [get?_erase] at kept
    split at kept
    · contradiction
    · exact h.key_eq kept

/-- What was just added is removed again by its symbol in any letter case, and nothing is left
of it. -/
theorem Derived.unregister_register (h : store.Derived) (valid : operator.invalidName? = none)
    (free : store.get? operator.key = none)
    (same : Symbol.upper symbol = Symbol.upper operator.symbol) :
    (store.register operator).2.unregister symbol operator.arity = (some operator, store) := by
  have named := (Operator.invalidName?_eq_none_iff.1 valid).2.1
  have key : (Symbol.normalize symbol, operator.arity) = operator.key := by
    rw [Symbol.normalize_eq_of_upper_eq named operator.symbol_normal same]
    rfl
  have added := h.register operator
  rw [register_of_free valid free] at added ⊢
  have found : (store.insert operator).rebuild.resolve? symbol operator.arity = some operator := by
    rw [resolve?, key, get?_rebuild, get?_insert, if_pos rfl]
  have removed := added.unregister symbol operator.arity
  have left := get?_unregister (store.insert operator).rebuild symbol operator.arity
  rw [unregister_of_some found] at removed left ⊢
  refine Prod.ext rfl (removed.eq_of_get? h fun other => ?_)
  rw [left, key, get?_rebuild, get?_insert]
  split
  · next same => rw [same, free]
  · rfl

/-! ## Stores and registries -/

/-- The store has the operators of the registry. -/
structure Holds (store : Store σ) (registry : Registry σ) : Prop where
  get? : ∀ symbol arity, store.get? (symbol, arity) =
    registry.operators.find? (·.key == (symbol, arity))
  derived : store.Derived

namespace Holds

variable {registry extended : Registry σ}

/-- A store finds the operators of its registry. -/
theorem resolve?_eq (h : store.Holds registry) (symbol : String) (arity : Arity) :
    store.resolve? symbol arity = registry.resolve? symbol arity :=
  h.get? _ _

/-- What is stored under the key of an operator is what the registry finds for it. -/
theorem get?_key (h : store.Holds registry) (operator : Operator σ) :
    store.get? operator.key = registry.resolve? operator.symbol operator.arity := by
  rw [← h.resolve?_eq, resolve?, operator.symbol_normal]
  rfl

/-- A key is free in the store exactly if it is free in the registry. -/
theorem get?_key_eq_none_iff (h : store.Holds registry) :
    store.get? operator.key = none ↔ operator.key ∉ registry.keys := by
  rw [h.get?_key, Registry.resolve?_eq_none_iff, operator.symbol_normal]
  rfl

theorem hasSymbol_iff (h : store.Holds registry) :
    store.HasSymbol symbol ↔ registry.HasSymbol symbol := by
  constructor
  · rintro ⟨⟨name, arity⟩, operator, found, spelled⟩
    rw [h.get?] at found
    exact ⟨operator, List.mem_of_find?_eq_some found, spelled⟩
  · rintro ⟨operator, member, spelled⟩
    have found := (h.get?_key operator).trans (Registry.resolve?_of_mem member)
    exact ⟨operator.key, operator, found, spelled⟩

/-- Store and registry have the same words. -/
theorem isOperatorWord_eq (h : store.Holds registry) (word : String) :
    store.isOperatorWord word = registry.lexicon.isOperatorWord word := by
  rw [Store.isOperatorWord, Lexicon.isOperatorWord, Bool.eq_iff_iff, decide_eq_true_iff,
    List.contains_iff_mem, h.derived.words, h.hasSymbol_iff, Registry.mem_words_iff]

/-- Store and registry find the same punctuation at the front of a text. -/
theorem matchPunctuation?_eq (h : store.Holds registry) (text : List Char) :
    store.matchPunctuation? text = registry.lexicon.matchPunctuation? text := by
  refine Store.matchPunctuation?_eq (fun symbol => ?_) fun symbol member => ?_
  · rw [h.derived.punctuation, h.hasSymbol_iff, Registry.mem_punctuation_iff]
  · rw [h.derived.longest]
    exact Finset.le_sup (f := fun symbol : String => Text.byteLength symbol.toList) member

/-- A store registers what the registry does, and refuses what it refuses with the same error
and without a change. -/
theorem register (h : store.Holds registry) (operator : Operator σ) :
    (∃ extended, registry.register operator = .ok extended ∧
      (store.register operator).1 = .ok () ∧ (store.register operator).2.Holds extended) ∨
    ∃ error, registry.register operator = .error error ∧
      store.register operator = (.error error, store) := by
  cases valid : operator.invalidName? with
  | some name => exact .inr ⟨_, Registry.register_of_invalid valid, register_of_invalid valid⟩
  | none =>
    cases found : store.get? operator.key with
    | some other =>
      refine .inr ⟨_, Registry.register_of_taken valid ?_,
        register_of_taken valid (by rw [found]; rfl)⟩
      by_contra free
      rw [h.get?_key_eq_none_iff.2 free] at found
      contradiction
    | none =>
      obtain ⟨extended, registered, operators⟩ :=
        Registry.exists_register valid (h.get?_key_eq_none_iff.1 found)
      have derived := h.derived.register operator
      rw [register_of_free valid found] at derived ⊢
      refine .inl ⟨extended, registered, rfl, fun symbol arity => ?_, derived⟩
      rw [get?_rebuild, get?_insert, operators, List.find?_append, ← h.get?]
      split
      · next same => rw [same, found]; simp
      · next apart => simp [Ne.symm apart]

/-- A store removes what the registry does. -/
theorem unregister (h : store.Holds registry) (symbol : String) (arity : Arity) :
    (store.unregister symbol arity).1 = registry.resolve? symbol arity ∧
      (store.unregister symbol arity).2.Holds (registry.unregister symbol arity) := by
  refine ⟨?_, fun name arity' => ?_, h.derived.unregister symbol arity⟩
  · rw [fst_unregister, h.resolve?_eq]
  · rw [get?_unregister, Registry.unregister, List.find?_filter]
    split
    · next same =>
      refine (List.find?_eq_none.2 fun operator _ => ?_).symm
      simp [same]
    · next apart =>
      rw [h.get?]
      refine congrArg (List.find? · registry.operators) (funext fun operator => ?_)
      rw [Bool.eq_iff_iff]
      simp only [beq_iff_eq, bne_iff_ne, decide_eq_true_eq]
      exact ⟨fun key => ⟨key ▸ apart, key⟩, And.right⟩

end Holds

/-! ## Runs -/

theorem holds_empty : (empty : Store σ).Holds Registry.empty where
  get? symbol arity := rfl
  derived := by
    have rebuilt : (empty : Store σ).rebuild = empty := rfl
    rw [← rebuilt]
    exact derived_rebuild fun key operator found => nomatch found

/-- Operators that are put in one after the other are found as in their list. -/
theorem get?_foldl_insert {operators : List (Operator σ)}
    (distinct : (operators.map Operator.key).Nodup) (store : Store σ) (key : String × Arity) :
    (operators.foldl insert store).get? key =
      (operators.find? (·.key == key)).or (store.get? key) := by
  induction operators generalizing store with
  | nil => rfl
  | cons operator operators ih =>
    rw [List.map_cons, List.nodup_cons] at distinct
    rw [List.foldl_cons, ih distinct.2, get?_insert, List.find?_cons]
    split
    · next same =>
      have none : operators.find? (·.key == key) = none := by
        refine List.find?_eq_none.2 fun other member key' => distinct.1 ?_
        rw [← same, ← beq_iff_eq.1 key']
        exact List.mem_map_of_mem member
      rw [none, same, beq_self_eq_true]
      rfl
    · next apart => rw [beq_false_of_ne (Ne.symm apart)]

/-- The operators of a registry, put in one after the other, make a store that holds it. -/
theorem holds_foldl_insert (registry : Registry σ) :
    (registry.operators.foldl insert empty).rebuild.Holds registry := by
  have nothing (key : String × Arity) : (empty : Store σ).get? key = none := rfl
  have kept (key : String × Arity) : (registry.operators.foldl insert empty).get? key =
      registry.operators.find? (·.key == key) := by
    rw [get?_foldl_insert registry.distinct, nothing, Option.or_none]
  refine ⟨fun symbol arity => kept _, derived_rebuild fun key operator found => ?_⟩
  rw [kept] at found
  have same : operator.key = key := by simpa using List.find?_some found
  exact same.symm

theorem holds_builtin [RandomSource σ] : (builtin : Store σ).Holds Registry.builtin :=
  holds_foldl_insert Registry.builtin

end Store

/-! ## Runs -/

/-- A registry as it is made. -/
inductive Registry.Origin
  | empty
  | builtin

/-- A call that changes a registry. -/
inductive Registry.Call (σ : Type) where
  | register (operator : Operator σ)
  | unregister (symbol : String) (arity : Arity)

namespace Registry

def Origin.registry [RandomSource σ] : Origin → Registry σ
  | .empty => .empty
  | .builtin => .builtin

def Origin.store [RandomSource σ] : Origin → Store σ
  | .empty => .empty
  | .builtin => .builtin

/-- What a call leaves of a registry, be it successful or not. -/
def call (registry : Registry σ) : Call σ → Registry σ
  | .register operator =>
    match registry.register operator with
    | .ok extended => extended
    | .error _ => registry
  | .unregister symbol arity => registry.unregister symbol arity

/-- The registry after the calls, one after the other. -/
def run (registry : Registry σ) (calls : List (Call σ)) : Registry σ := calls.foldl call registry

/-- Nothing that is done with a formula tells the registries apart. -/
structure Interchangeable (registry other : Registry σ) : Prop where
  resolves : ∀ symbol arity, registry.resolve? symbol arity = other.resolve? symbol arity
  lexes : ∀ text, registry.lexicon.tokens text = other.lexicon.tokens text
  reads : ∀ maxDepth text,
    Grammar.parse ⟨registry, maxDepth⟩ text = Grammar.parse ⟨other, maxDepth⟩ text
  compiles : ∀ (expr : Expr) folding table,
    expr.compile registry folding table = expr.compile other folding table

/-- Registries that find the same operators are interchangeable. -/
theorem Interchangeable.of_resolve? {registry other : Registry σ}
    (same : ∀ symbol arity, registry.resolve? symbol arity = other.resolve? symbol arity) :
    registry.Interchangeable other := by
  have symbols {registry other : Registry σ} {symbol : String}
      (same : ∀ symbol arity, registry.resolve? symbol arity = other.resolve? symbol arity)
      (h : registry.HasSymbol symbol) : other.HasSymbol symbol := by
    obtain ⟨operator, member, spelled⟩ := h
    have found := resolve?_of_mem member
    rw [same] at found
    exact ⟨operator, (resolve?_eq_some_iff.1 found).1, spelled⟩
  have lexes (text : String) : registry.lexicon.tokens text = other.lexicon.tokens text :=
    tokens_eq_of_hasSymbol (symbols same) fun spanned member symbol token =>
      symbols (fun symbol arity => (same symbol arity).symm)
        (hasSymbol_and_normalize_of_mem member token).1
  refine ⟨same, lexes, fun maxDepth text => ?_, fun expr folding table => ?_⟩
  · exact Grammar.parse_eq_of_resolve? (lexes text) (fun _ _ symbol _ arity _ => same symbol arity)
      fun name _ _ _ => same name .function
  · exact Expr.compile_congr fun _ _ symbol arity _ => same symbol arity

end Registry

namespace Store

variable {store : Store σ} {registry : Registry σ}

/-- What a call leaves of a store, be it successful or not. -/
def call (store : Store σ) : Registry.Call σ → Store σ
  | .register operator => (store.register operator).2
  | .unregister symbol arity => (store.unregister symbol arity).2

/-- The store after the calls, one after the other. -/
def run (store : Store σ) (calls : List (Registry.Call σ)) : Store σ := calls.foldl call store

/-- From both origins a store starts in step with its registry. -/
theorem holds_origin [RandomSource σ] (origin : Registry.Origin) :
    (origin.store : Store σ).Holds origin.registry := by
  cases origin with
  | empty => exact holds_empty
  | builtin => exact holds_builtin

/-- What a call preserves. -/
theorem Holds.call (h : store.Holds registry) (call : Registry.Call σ) :
    (store.call call).Holds (registry.call call) := by
  cases call with
  | register operator =>
    simp only [Store.call, Registry.call]
    rcases h.register operator with ⟨extended, registered, -, holds⟩ | ⟨error, refused, same⟩
    · rw [registered]
      exact holds
    · rw [refused, same]
      exact h
  | unregister symbol arity => exact (h.unregister symbol arity).2

/-- What a run preserves. -/
theorem Holds.run (h : store.Holds registry) (calls : List (Registry.Call σ)) :
    (store.run calls).Holds (registry.run calls) := by
  induction calls generalizing store registry with
  | nil => exact h
  | cons first calls ih => exact ih (h.call first)

/-- What a store finds is what the registry has. -/
structure Serves (store : Store σ) (registry : Registry σ) : Prop where
  resolves : ∀ symbol arity, store.resolve? symbol arity = registry.resolve? symbol arity
  isOperatorWord : ∀ word, store.isOperatorWord word = registry.lexicon.isOperatorWord word
  matchPunctuation : ∀ text,
    store.matchPunctuation? text = registry.lexicon.matchPunctuation? text

/-- What registering the operator does: it is refused, without a change, if it is invalid or its
key is taken. Else it is found under its key, and removing it by its symbol, in any letter case,
hands it out and gives back the store as it was. -/
structure Registers (store : Store σ) (operator : Operator σ) : Prop where
  invalid : ∀ name, operator.invalidName? = some name →
    store.register operator = (.error (.invalidName name), store)
  taken : operator.invalidName? = none → (store.get? operator.key).isSome = true →
    store.register operator = (.error (.duplicate operator.symbol operator.arity), store)
  free : operator.invalidName? = none → store.get? operator.key = none →
    ∃ after, store.register operator = (.ok (), after) ∧
      (∀ key, after.get? key = if key = operator.key then some operator else store.get? key) ∧
      ∀ symbol, Symbol.upper symbol = Symbol.upper operator.symbol →
        after.unregister symbol operator.arity = (some operator, store)

/-- What removing an operator does: what was found is handed out and nothing else is taken away,
and a symbol remains as long as another operator has it. -/
structure Unregisters (store : Store σ) (symbol : String) (arity : Arity) : Prop where
  result : (store.unregister symbol arity).1 = store.resolve? symbol arity
  others : ∀ key, (store.unregister symbol arity).2.get? key =
    if key = (Symbol.normalize symbol, arity) then none else store.get? key
  derived : (store.unregister symbol arity).2.Derived
  shared : ∀ used, (store.unregister symbol arity).2.HasSymbol used ↔
    ∃ key operator, key ≠ (Symbol.normalize symbol, arity) ∧ store.get? key = some operator ∧
      operator.arity ≠ .function ∧ (used = operator.symbol ∨ operator.separator? = some used)

/-- A store whose parts are in step registers as it should. -/
theorem Derived.registers (h : store.Derived) (operator : Operator σ) :
    store.Registers operator where
  invalid name := register_of_invalid
  taken := register_of_taken
  free valid free := by
    have registered := register_of_free valid free
    refine ⟨_, registered, fun key => ?_, fun symbol same => ?_⟩
    · rw [get?_rebuild, get?_insert]
    · have removed := h.unregister_register valid free same
      rwa [registered] at removed

/-- A store whose parts are in step removes as it should. -/
theorem Derived.unregisters (h : store.Derived) (symbol : String) (arity : Arity) :
    store.Unregisters symbol arity where
  result := fst_unregister store symbol arity
  others := get?_unregister store symbol arity
  derived := h.unregister symbol arity
  shared used := by
    simp only [HasSymbol, get?_unregister]
    constructor
    · rintro ⟨key, operator, found, spelled⟩
      split at found
      · contradiction
      · next apart => exact ⟨key, operator, apart, found, spelled⟩
    · rintro ⟨key, operator, apart, found, spelled⟩
      exact ⟨key, operator, by rwa [if_neg apart], spelled⟩

/-- **After any calls** the operators are under their keys and the symbols are theirs, look-ups
are those of a registry, registering has its two ways to fail, and removing takes nothing else
away. Calls that lead to the same operators lead to equal stores and to interchangeable
registries. -/
theorem run_invariant [RandomSource σ] (origin : Registry.Origin)
    (calls : List (Registry.Call σ)) :
    (origin.store.run calls).Derived ∧
    (origin.store.run calls).Serves (origin.registry.run calls) ∧
    (∀ operator, (origin.store.run calls).Registers operator) ∧
    (∀ symbol arity, (origin.store.run calls).Unregisters symbol arity) ∧
    ∀ (other : Registry.Origin) (others : List (Registry.Call σ)),
      (∀ key, (origin.store.run calls).get? key = (other.store.run others).get? key) →
      origin.store.run calls = other.store.run others ∧
        (origin.registry.run calls).Interchangeable (other.registry.run others) := by
  have holds := (holds_origin (σ := σ) origin).run calls
  refine ⟨holds.derived, ⟨holds.resolve?_eq, holds.isOperatorWord_eq, holds.matchPunctuation?_eq⟩,
    holds.derived.registers, holds.derived.unregisters, fun other others same => ?_⟩
  have holds' := (holds_origin (σ := σ) other).run others
  refine ⟨holds.derived.eq_of_get? holds'.derived same, .of_resolve? fun symbol arity => ?_⟩
  rw [← holds.resolve?_eq, ← holds'.resolve?_eq]
  exact same _

end Store

end Formulary
