import Formulary.Text.Printable

/-!
# Formulary.Text.Quoted

Texts in double quotes, as inspected values show them: quotes, backslashes and
line breaks by a letter after a backslash, all else that is not printable by
the number of its code point.
-/

namespace Formulary.Text

/-- A number in hexadecimal, without zeros in front. -/
def hexadecimal (n : Nat) : List Char := Nat.toDigits 16 n

/-- One character inside a quoted text. -/
def escape (c : Char) : List Char :=
  match c with
  | '"' => ['\\', '"']
  | '\\' => ['\\', '\\']
  | '\n' => ['\\', 'n']
  | '\r' => ['\\', 'r']
  | '\t' => ['\\', 't']
  | '\x00' => ['\\', '0']
  | c =>
    if isPrintable c then [c]
    else ['\\', 'u', '\x7b'] ++ hexadecimal c.toNat ++ ['\x7d']

/-- The text in double quotes. -/
def quoted (text : String) : String :=
  String.ofList ('"' :: (text.toList.flatMap escape ++ ['"']))

end Formulary.Text
