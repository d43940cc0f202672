/-!
# Formulary.CommandLine.Count

Counts as the command line reads them: decimal numerals of 64 bits.
-/

namespace Formulary.CommandLine

/-- Why a text is not a count. -/
inductive CountError
  | empty
  | invalidDigit
  | tooLarge
deriving DecidableEq, Repr

def CountError.message : CountError → String
  | .empty => "cannot parse integer from empty string"
  | .invalidDigit => "invalid digit found in string"
  | .tooLarge => "number too large to fit in target type"

/-- The greatest count. -/
def maxCount : Nat := 0xFFFFFFFFFFFFFFFF

/-- Append a digit to a count. -/
def appendDigit (count : Nat) (c : Char) : Except CountError Nat :=
  if c.isDigit then
    let count := 10 * count + (c.toNat - '0'.toNat)
    if maxCount < count then .error .tooLarge else .ok count
  else .error .invalidDigit

/-- Read a count: digits, with or without a plus sign. -/
def readCount (text : List Char) : Except CountError Nat :=
  match text with
  | [] => .error .empty
  | ['+'] => .error .invalidDigit
  | '+' :: digits => digits.foldlM appendDigit 0
  | digits => digits.foldlM appendDigit 0

end Formulary.CommandLine
