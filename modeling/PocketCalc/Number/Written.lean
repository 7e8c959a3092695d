import PocketCalc.Number.Shortest
import PocketCalc.Text.Basic

/-!
# Written numbers

A row of digits and the place of the point become text in one of two ways: positional, or with one
digit before the point and a power of ten behind.  A `Style` says which one is taken when.

* `Style`, `Style.write`    the choice and the result;
* `writeShortest`           the shortest digits that read back, positional below `10^16`;
* `writeGeneral`            six significant digits, positional below `10^6`;
* `writePlaces`             a fixed number of decimal places;
* `writeEntry`              the text that stands for a result in the entry line: whole numbers
                            below `10^15` without a point.
-/

namespace PocketCalc

open Text

/-! ## Layout -/

/-- how a row of digits is laid out -/
structure Style where
  /-- most digits before the point in positional writing -/
  wholeDigits : Int
  /-- whether a whole number ends in `.0` -/
  pointZero : Bool

/-- whole numbers keep `.0`, and up to sixteen digits stand before the point -/
def Style.shortest : Style := ⟨16, true⟩

/-- whole numbers have no point, and up to six digits stand before it -/
def Style.general : Style := ⟨6, false⟩

def natText (n : Nat) : Text := Nat.toDigits 10 n

def intText (n : Int) : Text := if n < 0 then '-' :: natText n.natAbs else natText n.natAbs

/-- the digits with the point after the first `point` of them, filled up with zeros -/
def positional (pointZero : Bool) (ds : Text) (point : Int) : Text :=
  if point ≤ 0 then ['0', '.'] ++ List.replicate (-point).toNat '0' ++ ds
  else if ds.length ≤ point.toNat then
    ds ++ List.replicate (point.toNat - ds.length) '0' ++ (if pointZero then ['.', '0'] else [])
  else ds.take point.toNat ++ '.' :: ds.drop point.toNat

/-- a signed power of ten of at least two digits -/
def powerText (e : Int) : Text :=
  let ds := natText e.natAbs
  (if e < 0 then '-' else '+') :: (List.replicate (2 - ds.length) '0' ++ ds)

/-- one digit, the others behind a point, and the power of ten -/
def scientific (ds : Text) (point : Int) : Text :=
  ds.take 1 ++ (if ds.length ≤ 1 then [] else '.' :: ds.drop 1) ++ 'e' :: powerText (point - 1)

/-- Digits without zeros at the end, the point standing after the first `point` of them.  Numbers
below `0.0001` are scientific in every style. -/
def Style.write (s : Style) (ds : Text) (point : Int) : Text :=
  if -4 < point && point ≤ s.wholeDigits then positional s.pointZero ds point
  else scientific ds point

/-- the magnitude `digits * 10^exponent` in a style; zeros at the end of the digits do not count -/
def Style.writeDigits (s : Style) (digits : Nat) (exponent : Int) : Text :=
  if digits = 0 then s.write ['0'] 1
  else
    let ds := natText digits
    s.write (trimEndWhile (· == '0') ds) (ds.length + exponent)

def withSign (negative : Bool) (t : Text) : Text := if negative then '-' :: t else t

def nonFiniteText (x : Float) : Text :=
  if x.isNaN then "nan".toList else withSign (x < 0) "inf".toList

/-! ## Numbers -/

/-- the fewest digits that read back -/
def writeShortest (x : Float) : Text :=
  match Exact.ofFloat? x with
  | none => nonFiniteText x
  | some v =>
    let d := if v.significand = 0 then ⟨v.negative, 0, 0⟩ else v.shortest x
    withSign v.negative (Style.shortest.writeDigits d.digits d.exponent)

/-- six significant digits -/
def writeGeneral (x : Float) : Text :=
  match Exact.ofFloat? x with
  | none => nonFiniteText x
  | some v =>
    let d := if v.significand = 0 then (0, 0) else significantDigits 6 v.magnitude
    withSign v.negative (Style.general.writeDigits d.1 d.2)

/-- digits of a number of units of the last of `n` decimal places -/
def placesText (n : Nat) (units : Nat) : Text :=
  let ds := natText units
  let ds := List.replicate (n + 1 - ds.length) '0' ++ ds
  ds.take (ds.length - n) ++ (if n = 0 then [] else '.' :: ds.drop (ds.length - n))

/-- a finite double with `n` decimal places, the sign kept where they are all zero -/
def Exact.writePlaces (n : Nat) (v : Exact) : Text :=
  withSign v.negative (placesText n (placesDigits n v.magnitude))

/-- a double with `n` decimal places -/
def writePlaces (n : Nat) (x : Float) : Text :=
  match Exact.ofFloat? x with
  | none => nonFiniteText x
  | some v => v.writePlaces n

/-- the whole part, the fraction cut off -/
def Exact.wholePart (v : Exact) : Int :=
  if v.negative then -v.magnitude.floor else v.magnitude.floor

/-- whole numbers below `10^15` without a point, all others in the fewest digits -/
def writeEntry (x : Float) : Text :=
  match Exact.ofFloat? x with
  | some v =>
    if v.magnitude.den = 1 && v.magnitude < 1000000000000000 then intText v.wholePart
    else writeShortest x
  | none => writeShortest x

end PocketCalc
