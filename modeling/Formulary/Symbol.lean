import Formulary.Text.Alphanumeric
import Formulary.Text.Blank

/-!
# Formulary.Symbol

The spelling of operators. A symbol is either a *word*, such as `AND`, or
*punctuation*, such as `<=`. Words are read in any letter case and kept in upper
case, which `normalize` produces; `normalize_normalize` says that it leaves
nothing to do. Punctuation is kept as written.
-/

namespace Formulary.Symbol

/-! ## Words -/

/-- A letter or an underscore (ASCII). -/
def isWordStart (c : Char) : Bool := c.isAlpha || c == '_'

/-- A letter, a digit or an underscore (ASCII). -/
def isWordPart (c : Char) : Bool := c.isAlphanum || c == '_'

/-- What may start a word may go on with it. -/
theorem isWordPart_of_isWordStart {c : Char} (h : isWordStart c = true) :
    isWordPart c = true := by
  simp only [isWordStart, isWordPart, Char.isAlphanum, Bool.or_eq_true] at *
  exact h.elim (fun alpha => .inl (.inl alpha)) .inr

/-- The characters of a word. -/
def isWordChars : List Char → Bool
  | [] => false
  | c :: rest => isWordStart c && rest.all isWordPart

/-- A word: a letter or underscore, then letters, digits and underscores. -/
def isWord (symbol : String) : Bool := isWordChars symbol.toList

/-- Upper case, letter by letter (ASCII). -/
def upper (symbol : String) : String := String.ofList (symbol.toList.map Char.toUpper)

/-- The form in which a symbol is kept: words in upper case, punctuation as written. -/
def normalize (symbol : String) : String := if isWord symbol then upper symbol else symbol

/-! ## Punctuation -/

/-- A character that punctuation may contain: neither blank nor letter nor number, and none of
those with a meaning of their own. -/
def isPunctuationChar (c : Char) : Bool :=
  !Text.isBlank c && !Text.isAlphanumeric c && !(['_', '.', '(', ')', ','].contains c)

/-- Punctuation: at least one character, each of them one that punctuation may contain. -/
def isPunctuation (symbol : String) : Bool :=
  !symbol.toList.isEmpty && symbol.toList.all isPunctuationChar

/-- What an operator may be called. -/
def isSymbol (symbol : String) : Bool := isWord symbol || isPunctuation symbol

/-! ## Upper case is stable -/

/-- The ASCII letters by their code points. -/
theorem isAlpha_iff (c : Char) :
    c.isAlpha = true ↔ 65 ≤ c.toNat ∧ c.toNat ≤ 90 ∨ 97 ≤ c.toNat ∧ c.toNat ≤ 122 := by
  delta Char.isAlpha Char.isUpper Char.isLower
  simp [UInt32.le_iff_toNat_le]

/-- Upper case takes the letters from `a` to `z` down by 32 code points, and changes nothing
else. -/
theorem toUpper_cases (c : Char) :
    ¬(97 ≤ c.toNat ∧ c.toNat ≤ 122) ∧ c.toUpper = c ∨
      (97 ≤ c.toNat ∧ c.toNat ≤ 122) ∧ c.toUpper.toNat + 32 = c.toNat := by
  have lower_iff : 'a'.val ≤ c.val ∧ c.val ≤ 'z'.val ↔ 97 ≤ c.toNat ∧ c.toNat ≤ 122 := by
    rw [UInt32.le_iff_toNat_le, UInt32.le_iff_toNat_le]
    rfl
  by_cases lower : 'a'.val ≤ c.val ∧ c.val ≤ 'z'.val
  · have bounds := lower_iff.1 lower
    have moved : c.toUpper.val = c.val + ('A'.val - 'a'.val) := by
      unfold Char.toUpper
      rw [dif_pos lower]
    have distance : ('A'.val - 'a'.val).toNat = 4294967264 := by decide
    refine .inr ⟨bounds, ?_⟩
    show c.toUpper.val.toNat + 32 = c.val.toNat
    rw [moved, UInt32.toNat_add, distance]
    have least : 97 ≤ c.val.toNat := bounds.1
    have most : c.val.toNat ≤ 122 := bounds.2
    omega
  · refine .inl ⟨fun bounds => lower (lower_iff.2 bounds), ?_⟩
    unfold Char.toUpper
    rw [dif_neg lower]

/-- Upper case changes letters only, and takes them to letters. -/
theorem toUpper_eq_or_isAlpha (c : Char) :
    c.toUpper = c ∨ c.isAlpha = true ∧ c.toUpper.isAlpha = true := by
  rw [isAlpha_iff, isAlpha_iff]
  rcases toUpper_cases c with ⟨-, same⟩ | ⟨lower, moved⟩
  · exact .inl same
  · exact .inr (by omega)

/-- A character starts words in both cases or in none. -/
theorem isWordStart_toUpper (c : Char) : isWordStart c.toUpper = isWordStart c := by
  rcases toUpper_eq_or_isAlpha c with same | ⟨letter, upper⟩
  · rw [same]
  · simp only [isWordStart, letter, upper, Bool.true_or]

/-- A character is part of words in both cases or in none. -/
theorem isWordPart_toUpper (c : Char) : isWordPart c.toUpper = isWordPart c := by
  rcases toUpper_eq_or_isAlpha c with same | ⟨letter, upper⟩
  · rw [same]
  · simp only [isWordPart, Char.isAlphanum, letter, upper, Bool.true_or]

/-- The letters of a symbol in upper case. -/
@[simp] theorem toList_upper (symbol : String) :
    (upper symbol).toList = symbol.toList.map Char.toUpper := by
  simp [upper]

/-- Upper case keeps words words, and makes none. -/
theorem isWordChars_map_toUpper (chars : List Char) :
    isWordChars (chars.map Char.toUpper) = isWordChars chars := by
  cases chars with
  | nil => rfl
  | cons c rest =>
    simp [isWordChars, isWordStart_toUpper, List.all_map, Function.comp_def, isWordPart_toUpper]

/-- A symbol is a word in both cases or in none. -/
@[simp] theorem isWord_upper (symbol : String) : isWord (upper symbol) = isWord symbol := by
  simp [isWord, isWordChars_map_toUpper]

/-- What is in upper case stays as it is. -/
@[simp] theorem upper_upper (symbol : String) : upper (upper symbol) = upper symbol := by
  apply String.toList_inj.1
  rw [toList_upper, toList_upper, List.map_map]
  refine List.map_congr_left fun c _ => ?_
  rcases toUpper_cases c with ⟨-, same⟩ | ⟨lower, moved⟩
  · exact congrArg Char.toUpper same
  · rcases toUpper_cases c.toUpper with ⟨-, same⟩ | ⟨lower', -⟩
    · exact same
    · omega

/-- Normalizing twice is normalizing once. -/
@[simp] theorem normalize_normalize (symbol : String) :
    normalize (normalize symbol) = normalize symbol := by
  by_cases h : isWord symbol = true <;> simp [normalize, h]

end Formulary.Symbol
