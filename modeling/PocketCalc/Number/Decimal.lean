import PocketCalc.Number.Exact

/-!
# Decimals

* `Decimal`             a sign, a row of digits read as a number, and a power of ten;
* `Decimal.toFloat`     the nearest double;
* `decimalOrder`        the power of ten at or below a magnitude;
* `significantDigits`   a magnitude rounded to a number of digits;
* `placesDigits`        a magnitude rounded to a number of decimal places;
* `roundPlaces`         a double rounded to a number of decimal places.
-/

namespace PocketCalc

/-- the number of decimal digits; zero has one -/
def digitCount (n : Nat) : Nat := (Nat.toDigits 10 n).length

/-! ## From decimals to doubles -/

/-- the number `digits * 10^exponent` with its sign -/
structure Decimal where
  negative : Bool
  digits : Nat
  exponent : Int
deriving DecidableEq, Repr

namespace Decimal

def magnitude (d : Decimal) : Rat := d.digits * 10 ^ d.exponent

def value (d : Decimal) : Rat := if d.negative then -d.magnitude else d.magnitude

/-- The nearest double.  A magnitude below `10^(-400)` or from `10^400` on is zero or infinity
whatever its digits are, and its power of ten is not computed. -/
def toFloat (d : Decimal) : Float :=
  let top := digitCount d.digits + d.exponent
  if d.digits = 0 || top < -400 then signed d.negative 0
  else if 400 < top then signed d.negative infinity
  else nearest d.negative d.magnitude

end Decimal

/-! ## Rounding to decimal digits -/

/-- the `e` with `10^e ≤ q < 10^(e + 1)`, for a positive `q` -/
def decimalOrder (q : Rat) : Int :=
  let e : Int := (digitCount q.num.natAbs : Int) - digitCount q.den
  if 10 ^ e ≤ q then e else e - 1

/-- A positive magnitude rounded to `n` digits, a half to the even one: a number of `n` digits and
the power of ten of its last digit. -/
def significantDigits (n : Nat) (q : Rat) : Nat × Int :=
  let e := decimalOrder q + 1 - n
  let d := (roundHalfEven (q / 10 ^ e)).toNat
  if d = Nat.pow 10 n then (d / 10, e + 1) else (d, e)

/-- the number of units of the last of `n` decimal places in a magnitude, rounded half to even -/
def placesDigits (n : Nat) (q : Rat) : Nat := (roundHalfEven (q * 10 ^ n)).toNat

/-- a double rounded to `n` decimal places; infinities and NaN stay -/
def roundPlaces (n : Nat) (x : Float) : Float :=
  match Exact.ofFloat? x with
  | some v => (Decimal.mk v.negative (placesDigits n v.magnitude) (-n)).toFloat
  | none => x

end PocketCalc
