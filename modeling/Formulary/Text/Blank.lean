/-!
# Formulary.Text.Blank

White space of all scripts: the characters with the Unicode property
`White_Space`. It separates tokens and means nothing else.
-/

namespace Formulary.Text

/-- White space: the controls from tab to carriage return, and the spaces and separators. -/
def isBlank (c : Char) : Bool :=
  let point := c.toNat
  (9 ≤ point && point ≤ 13) || point == 0x20 || point == 0x85 || point == 0xA0
    || point == 0x1680 || (0x2000 ≤ point && point ≤ 0x200A) || point == 0x2028
    || point == 0x2029 || point == 0x202F || point == 0x205F || point == 0x3000

/-- The text without the white space at its ends. -/
def trim (text : List Char) : List Char :=
  ((text.dropWhile isBlank).reverse.dropWhile isBlank).reverse

end Formulary.Text
