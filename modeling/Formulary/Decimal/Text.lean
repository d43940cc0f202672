import Formulary.Decimal.Shortest

/-!
# Formulary.Decimal.Text

The text of a double: its shortest decimal, laid out in a `NumberStyle`.

Three styles are in use: `plain` for results and for the numbers of a rendered
formula, `exact` for inspected values, `json` for the syntax tree in JSON.
-/

namespace Formulary

/-- How the digits of a number are laid out. -/
structure NumberStyle where
  /-- Which of two equally near shortest decimals is written. -/
  ties : Ties
  /-- What follows the digits of a whole number. -/
  wholeMark : String
  /-- The number of digits before the point that is written without an exponent: at least and
  at most this many. A negative number counts the zeros after the point. -/
  positional : Option (Int × Int)
  /-- What stands between the digits and an exponent that is not negative. -/
  exponentMark : String
deriving Repr

namespace NumberStyle

/-- Never an exponent, and whole numbers look whole. -/
def plain : NumberStyle := ⟨.up, "", none, "e"⟩

/-- From `0.0001` to below `10 ^ 16` positional, and always with a fraction. -/
def exact : NumberStyle := ⟨.up, ".0", some (-3, 16), "e"⟩

/-- From `0.00001` to below `10 ^ 16` positional, and always with a fraction. -/
def json : NumberStyle := ⟨.toEven, ".0", some (-4, 16), "e+"⟩

/-- Whether a number with so many digits before the point is written without an exponent. -/
def isPositional (style : NumberStyle) (width : Int) : Bool :=
  match style.positional with
  | none => true
  | some (least, most) => least ≤ width && width ≤ most

end NumberStyle

/-- The decimal digits of a number without the zeros at the end; none for zero. -/
def significantDigits (n : Nat) : List Char :=
  ((Nat.toDigits 10 n).reverse.dropWhile (· == '0')).reverse

/-- The digits with a point after the first `width` of them, and zeros where a place is empty. -/
def positionalText (digits : List Char) (width : Int) (wholeMark : String) : List Char :=
  if width ≤ 0 then '0' :: '.' :: (List.replicate (-width).toNat '0' ++ digits)
  else if digits.length ≤ width.toNat then
    digits ++ List.replicate (width.toNat - digits.length) '0' ++ wholeMark.toList
  else digits.take width.toNat ++ '.' :: digits.drop width.toNat

/-- One digit before the point, and the power of ten that makes up for it. -/
def exponentText (digits : List Char) (width : Int) (exponentMark : String) : List Char :=
  let fraction := match digits.drop 1 with
    | [] => []
    | rest => '.' :: rest
  let power := width - 1
  let mark := if power < 0 then ['e', '-'] else exponentMark.toList
  digits.take 1 ++ fraction ++ mark ++ Nat.toDigits 10 power.natAbs

/-- A decimal in the given style. -/
def Decimal.text (style : NumberStyle) (d : Decimal) : List Char :=
  if d.digits = 0 then '0' :: style.wholeMark.toList
  else
    let digits := significantDigits d.digits
    let width := (Nat.toDigits 10 d.digits).length + d.exponent
    if style.isPositional width then positionalText digits width style.wholeMark
    else exponentText digits width style.exponentMark

/-- The characters of a double in the given style. -/
def floatChars (style : NumberStyle) (x : Float) : List Char :=
  if x.isNaN then ['N', 'a', 'N']
  else
    let bits := x.toBits.toNat
    let magnitude := bits % Nat.pow 2 63
    let text :=
      if magnitude = infinityBits then ['i', 'n', 'f']
      else if magnitude = 0 then Decimal.text style ⟨0, 0⟩
      else (shortest style.ties magnitude).text style
    if bits = magnitude then text else '-' :: text

/-- The text of a double in the given style. -/
def floatText (style : NumberStyle) (x : Float) : String := String.ofList (floatChars style x)

end Formulary
