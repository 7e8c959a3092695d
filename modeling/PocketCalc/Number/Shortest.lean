import PocketCalc.Number.Decimal

/-!
# The fewest digits that read back

For every double there are decimals that read back as it; its shortest one has the fewest digits,
and is the nearest to the double among those of that length.

For a number of digits `n` only the two neighbours of the double on the grid of decimals with `n`
digits are looked at: when any decimal of that length reads back, one of them does.  The search goes
from one digit to seventeen; seventeen always suffice, and the exact decimal expansion stands behind
the search so that reading back needs no argument about that bound.

* `Exact.decimal`      the exact decimal expansion;
* `gridNeighbours`     the nearest decimal of `n` digits and the one on the other side;
* `Exact.shortest`     the result.
-/

namespace PocketCalc

/-- whether the decimal's nearest double is the given one, bit for bit -/
def Decimal.readsBackAs (d : Decimal) (x : Float) : Bool := d.toFloat.toBits == x.toBits

namespace Exact

/-- the exact decimal expansion: a negative power of two is a power of five with the point moved -/
def decimal (v : Exact) : Decimal :=
  if v.exponent < 0 then
    ⟨v.negative, v.significand * Nat.pow 5 v.exponent.natAbs, v.exponent⟩
  else
    ⟨v.negative, v.significand * Nat.pow 2 v.exponent.natAbs, 0⟩

/-- the decimals of `n` digits next to a positive magnitude, the nearer one first -/
def gridNeighbours (v : Exact) (n : Nat) : List Decimal :=
  let q := v.magnitude
  let e := decimalOrder q + 1 - n
  let near := roundHalfEven (q / 10 ^ e)
  let other := if q < near * 10 ^ e then near - 1 else near + 1
  [⟨v.negative, near.toNat, e⟩, ⟨v.negative, other.toNat, e⟩]

/-- the decimal with the fewest digits that reads back as the double `x`, whose parts are `v` -/
def shortest (v : Exact) (x : Float) : Decimal :=
  let hit := (List.range 17).findSome? fun n =>
    (gridNeighbours v (n + 1)).find? fun d => d.readsBackAs x
  hit.getD v.decimal

end Exact
end PocketCalc
