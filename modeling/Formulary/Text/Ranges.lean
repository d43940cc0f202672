/-!
# Formulary.Text.Ranges

Sets of code points given by the intervals of a Unicode property.
-/

namespace Formulary.Text

/-- A set of code points, as closed intervals `(first, last)`. -/
abbrev Ranges := Array (Nat × Nat)

/-- The code point lies in one of the intervals. -/
def Ranges.contains (ranges : Ranges) (point : Nat) : Bool :=
  ranges.any fun (first, last) => first ≤ point && point ≤ last

end Formulary.Text
