/-!
# Exact values of doubles

* `Exact`, `Exact.ofFloat?`   a finite double as sign, significand and power of two;
* `Exact.magnitude`           what it denotes, without its sign;
* `roundHalfEven`             the nearest integer, a half going to the even neighbour;
* `binaryOrder`               the power of two at or below a magnitude;
* `nearestBits`, `nearest`    the double nearest to a magnitude, the even one of two.

The bits of a double without its sign, read as a number, grow with its magnitude: the significand
`m` with the weight `2^(e - 1074)` has the bits `e * 2^52 + m`, for the subnormal ones, for the
normal ones and for a significand rounded up to `2^53`.  So one formula packs them all, and the bits
of infinity bound it from above.
-/

namespace PocketCalc

/-! ## Doubles taken apart -/

/-- a finite double: `significand * 2^exponent` with its sign -/
structure Exact where
  negative : Bool
  significand : Nat
  exponent : Int
deriving DecidableEq, Repr

namespace Exact

/-- the parts of a finite double, `none` for an infinity or NaN -/
def ofFloat? (x : Float) : Option Exact :=
  match x.toModel.unpack with
  | .finite s m e _ => some ⟨s == .negative, m, e⟩
  | .zero s => some ⟨s == .negative, 0, 0⟩
  | .infinity _ => none
  | .notANumber => none

/-- the denoted number without its sign -/
def magnitude (x : Exact) : Rat := x.significand * 2 ^ x.exponent

def value (x : Exact) : Rat := if x.negative then -x.magnitude else x.magnitude

end Exact

/-! ## Rounding -/

/-- the nearest integer; half way between two it is the even one -/
def roundHalfEven (q : Rat) : Int :=
  let low := q.floor
  if q - low < 1 / 2 then low
  else if 1 / 2 < q - low then low + 1
  else if low % 2 = 0 then low else low + 1

/-- the `e` with `2^e ≤ q < 2^(e + 1)`, for a positive `q` -/
def binaryOrder (q : Rat) : Int :=
  let e : Int := (q.num.natAbs.log2 : Int) - q.den.log2
  if q < 2 ^ e then e - 1 else e

/-- the bits of infinity -/
def infinityBits : Nat := 0x7FF0000000000000

/-- the bits of the least normal significand; a step of the exponent adds as much to the bits -/
def exponentStep : Nat := 0x10000000000000

/-- the bits of the double nearest to a magnitude -/
def nearestBits (q : Rat) : Nat :=
  if q = 0 then 0
  else
    let e := max (binaryOrder q - 52) (-1074)
    min ((e + 1074).toNat * exponentStep + (roundHalfEven (q / 2 ^ e)).toNat) infinityBits

def signed (negative : Bool) (x : Float) : Float := if negative then -x else x

/-- the double nearest to a magnitude, with a sign -/
def nearest (negative : Bool) (q : Rat) : Float :=
  signed negative (Float.ofBits (nearestBits q).toUInt64)

def infinity : Float := Float.ofBits infinityBits.toUInt64

/-- the double nearest to a number; zero is the positive one -/
def nearestRat (q : Rat) : Float := nearest (q < 0) q.abs

end PocketCalc
