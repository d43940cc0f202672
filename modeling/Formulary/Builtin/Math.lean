import Formulary.Decimal

/-!
# Formulary.Builtin.Math

The functions of the built-in registry on numbers.

All of them follow IEEE 754: an argument outside the domain gives an undefined
number or an infinity, never an error. Each takes its list of arguments; one
that is missing is an undefined number, and those in excess are ignored.
-/

namespace Formulary.Math

/-- The argument at a position. -/
def arg (args : List Float) (i : Nat) : Float := args[i]?.getD undefinedNumber

/-- Any number but zero counts as true. -/
def truthy (x : Float) : Bool := x != 0.0

open Float.Model in
/-- True are the negative numbers, the positive ones and the undefined one. -/
theorem truthy_iff {x : Float} : truthy x = true ↔ x < 0.0 ∨ 0.0 < x ∨ x.isNaN = true := by
  show (!UnpackedFloat.beq x.toModel.unpack (0.0 : Float).toModel.unpack) = true ↔
    decide (UnpackedFloat.lt x.toModel.unpack (0.0 : Float).toModel.unpack = true) = true ∨
      decide (UnpackedFloat.lt (0.0 : Float).toModel.unpack x.toModel.unpack = true) = true ∨
      x.toModel.unpack.isNaN = true
  have zero : (0.0 : Float).toModel.unpack = .zero .positive := by rfl
  rw [zero]
  -- The kind and the sign of a number decide how it compares with zero.
  cases x.toModel.unpack with
  | notANumber => exact iff_of_true rfl (.inr (.inr rfl))
  | zero sign => cases sign <;> decide
  | infinity sign => cases sign <;> decide
  | finite sign =>
    cases sign with
    | positive => exact iff_of_true rfl (.inr (.inl rfl))
    | negative => exact iff_of_true rfl (.inl rfl)

/-- One for true and zero for false. -/
def ofBool (b : Bool) : Float := if b then 1.0 else 0.0

/-! ## Powers and logarithms -/

def abs (args : List Float) : Float := (arg args 0).abs

def sqrt (args : List Float) : Float := (arg args 0).sqrt

def power (args : List Float) : Float := (arg args 0).pow (arg args 1)

def exp (args : List Float) : Float := (arg args 0).exp

def ln (args : List Float) : Float := (arg args 0).log

def log10 (args : List Float) : Float := (arg args 0).log10

/-- The logarithm to the base of the second argument, or to base ten. -/
def log (args : List Float) : Float :=
  match args[1]? with
  | some base => (arg args 0).log / base.log
  | none => (arg args 0).log10

/-! ## Aggregates -/

/-- The lesser number; an undefined one is passed over. -/
def lesser (a b : Float) : Float :=
  if a.isNaN then b else if b < a then b else a

/-- The greater number; an undefined one is passed over. -/
def greater (a b : Float) : Float :=
  if a.isNaN then b else if a < b then b else a

/-- The least argument. Undefined ones do not count unless there are no others. -/
def min (args : List Float) : Float := args.foldl lesser undefinedNumber

/-- The greatest argument. Undefined ones do not count unless there are no others. -/
def max (args : List Float) : Float := args.foldl greater undefinedNumber

/-- The sum from left to right. It starts from negative zero, which adds nothing to any number,
a negative zero included. -/
def sum (args : List Float) : Float := args.foldl (· + ·) (-0.0)

def average (args : List Float) : Float := sum args / Float.ofNat args.length

/-! ## Rounding -/

/-- Drop the fraction. -/
def truncate (x : Float) : Float := if x < 0.0 then x.ceil else x.floor

def floor (args : List Float) : Float := (arg args 0).floor

def ceiling (args : List Float) : Float := (arg args 0).ceil

def trunc (args : List Float) : Float := truncate (arg args 0)

/-- The whole number of a count of digits, kept within 32 bits; zero if undefined. -/
def digitCount (x : Float) : Int := (truncate x).toInt32.toInt

/-- `result * base ^ exponent` by squaring. -/
def powerBySquaring (result base : Float) (exponent : Nat) : Float :=
  let result := if exponent % 2 = 1 then result * base else result
  if _ : exponent < 2 then result else powerBySquaring result (base * base) (exponent / 2)
termination_by exponent

/-- A power of ten; one with a negative exponent is the reciprocal of its opposite. -/
def powerOfTen (exponent : Int) : Float :=
  let power := powerBySquaring 1.0 10.0 exponent.natAbs
  if exponent < 0 then 1.0 / power else power

/-- The first number with the sign of the second. -/
def withSign (magnitude sign : Float) : Float :=
  if sign.toBits >>> 63 = 0 then magnitude.abs else -magnitude.abs

/-- Round to a number of digits after the point, or before it if that number is negative; a
half is rounded away from zero. What is rounded is the stored binary value. A number that
overflows when it is scaled is whole at so many digits already. -/
def roundTo (number : Float) (digits : Int) : Float :=
  let multiplier := powerOfTen digits
  if multiplier == 0.0 then
    if number.isFinite then withSign 0.0 number else number
  else
    let scaled := number * multiplier
    if scaled.isFinite then scaled.round / multiplier else number

def round (args : List Float) : Float := roundTo (arg args 0) (digitCount (args[1]?.getD 0.0))

/-- One, minus one, or the zero that was given. -/
def sign (args : List Float) : Float :=
  let number := arg args 0
  if 0.0 < number then 1.0 else if number < 0.0 then -1.0 else number * 0.0

/-- The remainder that has the sign of the divisor. -/
def mod (args : List Float) : Float :=
  let number := arg args 0
  let divisor := arg args 1
  number - divisor * (number / divisor).floor

/-! ## Trigonometry -/

def sin (args : List Float) : Float := (arg args 0).sin

def cos (args : List Float) : Float := (arg args 0).cos

def tan (args : List Float) : Float := (arg args 0).tan

def asin (args : List Float) : Float := (arg args 0).asin

def acos (args : List Float) : Float := (arg args 0).acos

def atan (args : List Float) : Float := (arg args 0).atan

/-- The angle of the point whose ordinate is given first. -/
def atan2 (args : List Float) : Float := (arg args 0).atan2 (arg args 1)

def pi (_ : List Float) : Float := 3.141592653589793

/-! ## Logic -/

/-- The second or the third argument, by the truth of the first. All three are given. -/
def choose (args : List Float) : Float :=
  if truthy (arg args 0) then arg args 1 else arg args 2

end Formulary.Math
