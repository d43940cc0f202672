import Formulary.Decimal

/-!
# Formulary.Decimal.Numeral

Unsigned numerals: `12`, `1.`, `.5`, `2.50`, `1e3`, `.5E-2`.

`Numeral.scan` takes the longest numeral off the front of a text. A letter `e`
belongs to it only if an exponent with digits follows, so `2e` is the numeral
`2` before a name. `Numeral.text` writes the characters back.
-/

namespace Formulary

/-- The exponent part of a numeral as written. -/
structure Exponent where
  /-- The letter, `e` or `E`. -/
  mark : Char
  /-- The sign, if one is written. -/
  sign : Option Char
  digits : List Char
deriving DecidableEq, Repr

/-- A numeral as written. -/
structure Numeral where
  /-- The digits before the point. -/
  whole : List Char
  /-- The digits after the point, if there is a point. -/
  fraction : Option (List Char)
  exponent : Option Exponent
deriving DecidableEq, Repr

/-- The number that a run of decimal digits denotes. -/
def ofDigits (digits : List Char) : Nat :=
  digits.foldl (fun n c => 10 * n + (c.toNat - '0'.toNat)) 0

namespace Exponent

/-- The characters of the exponent part. -/
def text (e : Exponent) : List Char := e.mark :: (e.sign.toList ++ e.digits)

/-- The exponent as a number. -/
def value (e : Exponent) : Int :=
  if e.sign = some '-' then -(ofDigits e.digits : Int) else ofDigits e.digits

/-- Take an exponent part off the front of a text, if a whole one stands there. -/
def scan (text : List Char) : Option Exponent × List Char :=
  match text with
  | mark :: rest =>
    if mark = 'e' ∨ mark = 'E' then
      let (sign, rest) : Option Char × List Char :=
        match rest with
        | '+' :: rest => (some '+', rest)
        | '-' :: rest => (some '-', rest)
        | rest => (none, rest)
      match rest.takeWhile Char.isDigit with
      | [] => (none, text)
      | digits => (some ⟨mark, sign, digits⟩, rest.dropWhile Char.isDigit)
    else (none, text)
  | [] => (none, text)

end Exponent

namespace Numeral

/-- The characters of the numeral. -/
def text (n : Numeral) : List Char :=
  n.whole ++ (n.fraction.map ('.' :: ·)).getD [] ++ (n.exponent.map Exponent.text).getD []

/-- A numeral starts with a digit, or with a point before a digit. -/
def starts : List Char → Bool
  | '.' :: c :: _ => c.isDigit
  | c :: _ => c.isDigit
  | [] => false

/-- Take the point and the digits after it off the front of a text. -/
def scanFraction : List Char → Option (List Char) × List Char
  | '.' :: rest => (some (rest.takeWhile Char.isDigit), rest.dropWhile Char.isDigit)
  | text => (none, text)

/-- Take the longest numeral off the front of a text. -/
def scan (text : List Char) : Numeral × List Char :=
  let (fraction, rest) := scanFraction (text.dropWhile Char.isDigit)
  let (exponent, rest) := Exponent.scan rest
  (⟨text.takeWhile Char.isDigit, fraction, exponent⟩, rest)

/-- All digits of the numeral but those of its exponent. -/
def digits (n : Numeral) : List Char := n.whole ++ n.fraction.getD []

/-- The decimal that the numeral denotes. -/
def toDecimal (n : Numeral) : Decimal where
  digits := ofDigits n.digits
  exponent := (n.exponent.map Exponent.value).getD 0 - (n.fraction.getD []).length

/-- The double nearest to the numeral. -/
def toFloat (n : Numeral) : Float := n.toDecimal.toFloat

/-- A text that starts like a numeral gives a numeral with characters. -/
theorem text_ne_nil {text : List Char} (h : starts text = true) :
    (scan text).1.text ≠ [] := by
  unfold starts at h
  split at h
  · simp [scan, Numeral.text, scanFraction]
  · rename_i c rest _
    simp [scan, Numeral.text, h]
  · simp at h

end Numeral

/-! ## Signed numbers -/

/-- Why a text is not a number. -/
inductive NumberError
  | empty
  | malformed
deriving DecidableEq, Repr

/-- The wording of the error. -/
def NumberError.message : NumberError → String
  | .empty => "cannot parse float from empty string"
  | .malformed => "invalid float literal"

/-- Read a number without a sign: a numeral, `inf`, `infinity` or `nan`, in any letter case. -/
def readUnsigned (text : List Char) : Except NumberError Float :=
  match Numeral.scan text with
  | (numeral, []) => if numeral.digits.isEmpty then .error .malformed else .ok numeral.toFloat
  | _ =>
    let word := String.ofList (text.map Char.toLower)
    if word = "inf" ∨ word = "infinity" then .ok infinity
    else if word = "nan" then .ok undefinedNumber
    else .error .malformed

/-- Read a number that is the whole text, with or without a sign. -/
def readNumber : List Char → Except NumberError Float
  | [] => .error .empty
  | '+' :: text => readUnsigned text
  | '-' :: text => Neg.neg <$> readUnsigned text
  | text => readUnsigned text

end Formulary
