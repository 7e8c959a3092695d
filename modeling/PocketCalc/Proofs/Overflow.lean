import Mathlib
import PocketCalc.Proofs.Nearest
import PocketCalc.Proofs.Negation

/-!
# Decimals that overflow

The largest double is `2^1024 - 2^971`.  A magnitude below the midpoint between it and `2^1024` is
rounded to a double; the midpoint itself and all beyond it are rounded to infinity, since of the two
neighbours of the midpoint `2^1024` is the even one.

* `overflowAt`                   that midpoint;
* `nearestBits_lt_iff`           the magnitudes that are rounded to a double;
* `Decimal.isFinite_toFloat_iff` the decimals that are;
* `Decimal.toFloat_eq_infinity`  the others are infinities.
-/

namespace PocketCalc
open Float.Model Float.Model.UnpackedFloat

/-- the least magnitude that is rounded to infinity -/
def overflowAt : Rat := 2 ^ 1024 - 2 ^ 970

theorem overflowAt_eq : overflowAt = (2 ^ 53 - 1 / 2) * 2 ^ (971 : Int) := by
  have hupper : (2 : Rat) ^ 1024 = 2 ^ 53 * 2 ^ 971 := by rw [← pow_add]
  have hhalf : (2 : Rat) ^ 971 = 2 ^ 970 * 2 := pow_succ 2 970
  rw [overflowAt, zpow_ofNat, hupper, hhalf]
  generalize (2 : Rat) ^ 970 = p
  ring

theorem overflowAt_bounds :
    (2 : Rat) ^ (1023 : Int) ≤ overflowAt ∧ overflowAt < 2 ^ (1024 : Int) := by
  have hpos : (0 : Rat) < 2 ^ (971 : Int) := by positivity
  have hlower : (2 : Rat) ^ (1023 : Int) = 2 ^ 52 * 2 ^ (971 : Int) := by
    rw [← zpow_natCast, ← zpow_add₀ (by norm_num)]
    rfl
  have hupper : (2 : Rat) ^ (1024 : Int) = 2 ^ 53 * 2 ^ (971 : Int) := by
    rw [← zpow_natCast, ← zpow_add₀ (by norm_num)]
    rfl
  rw [overflowAt_eq, hlower, hupper]
  generalize (2 : Rat) ^ (971 : Int) = p at hpos
  constructor <;> linarith

theorem nearestBits_lt_iff {q : Rat} (h : 0 ≤ q) :
    nearestBits q < infinityBits ↔ q < overflowAt := by
  obtain ⟨hleast, hmost⟩ := overflowAt_bounds
  have hinfinity : infinityBits = 2047 * exponentStep := rfl
  have hstep : exponentStep = 2 ^ 52 := rfl
  rcases h.eq_or_lt with rfl | hq
  · have hpos : (0 : Rat) < overflowAt := lt_of_lt_of_le (by positivity) hleast
    simp only [nearestBits, if_true, hpos, iff_true]
    decide
  obtain ⟨hlow, hhigh⟩ := binaryOrder_spec hq
  rw [nearestBits, if_neg hq.ne']
  simp only
  generalize binaryOrder q = b at *
  generalize he : max (b - 52) (-1074) = e
  have hpow : (0 : Rat) < 2 ^ e := by positivity
  have hscaled : q / 2 ^ e * 2 ^ e = q := div_mul_cancel₀ q hpow.ne'
  generalize q / 2 ^ e = r at *
  rcases lt_trichotomy b 1023 with hb | rfl | hb
  · -- the exponent in the bits is two below that of infinity, and rounding adds one to it at most
    have hround : ¬ 2 ^ 53 + 2 ≤ roundHalfEven r := by
      rw [le_roundHalfEven_iff (by decide), not_le]
      have hr : r * 2 ^ e < 2 ^ 53 * 2 ^ e :=
        calc r * 2 ^ e = q := hscaled
          _ < 2 ^ (b + 1) := hhigh
          _ ≤ 2 ^ (53 + e) := zpow_le_zpow_right₀ (by norm_num) (by omega)
          _ = 2 ^ 53 * 2 ^ e := by rw [zpow_add₀ (by norm_num)]; norm_cast
      have hr := lt_of_mul_lt_mul_right hr hpow.le
      push_cast
      linarith
    have hbits : (e + 1074).toNat ≤ 2044 := by omega
    have hmul := Nat.mul_le_mul_right exponentStep hbits
    have hfinite : q < overflowAt :=
      calc q < 2 ^ (b + 1) := hhigh
        _ ≤ 2 ^ (1023 : Int) := zpow_le_zpow_right₀ (by norm_num) (by omega)
        _ ≤ overflowAt := hleast
    refine iff_of_true ?_ hfinite
    omega
  · obtain rfl : e = 971 := by omega
    have hround : 2 ^ 53 ≤ roundHalfEven r ↔ (2 ^ 53 : Rat) - 1 / 2 ≤ r := by
      have hiff := le_roundHalfEven_iff (q := r) (n := 2 ^ 53) (by decide)
      push_cast at hiff
      exact hiff
    have hiff : q < overflowAt ↔ r < 2 ^ 53 - 1 / 2 := by
      rw [← hscaled, overflowAt_eq, mul_lt_mul_iff_left₀ hpow]
    have hbits : ((971 : Int) + 1074).toNat = 2045 := rfl
    rw [hiff, ← not_le, ← not_le, ← hround, not_iff_not, hbits, hinfinity, hstep]
    omega
  · have hround : 2 ^ 52 ≤ roundHalfEven r := by
      rw [le_roundHalfEven_iff (by decide)]
      have hr : 2 ^ 52 * 2 ^ e ≤ r * 2 ^ e :=
        calc (2 : Rat) ^ 52 * 2 ^ e = 2 ^ (52 + e) := by rw [zpow_add₀ (by norm_num)]; norm_cast
          _ ≤ 2 ^ b := zpow_le_zpow_right₀ (by norm_num) (by omega)
          _ ≤ q := hlow
          _ = r * 2 ^ e := hscaled.symm
      have hr := le_of_mul_le_mul_right hr hpow
      push_cast
      linarith
    have hinfinite : overflowAt ≤ q :=
      calc overflowAt ≤ 2 ^ (1024 : Int) := hmost.le
        _ ≤ 2 ^ b := zpow_le_zpow_right₀ (by norm_num) (by omega)
        _ ≤ q := hlow
    have hbits : 2046 ≤ (e + 1074).toNat := by omega
    have hmul := Nat.mul_le_mul_right exponentStep hbits
    refine iff_of_false ?_ (not_lt.mpr hinfinite)
    omega

theorem nearestBits_le_infinityBits (q : Rat) : nearestBits q ≤ infinityBits := by
  unfold nearestBits
  split
  · exact Nat.zero_le _
  · exact Nat.min_le_right _ _

/-! ## Doubles -/

theorem isFinite_neg (x : Float) : (-x).isFinite = x.isFinite := by
  show (-x).toModel.unpack.isFinite = x.toModel.unpack.isFinite
  rw [unpack_neg]
  cases x.toModel.unpack <;> rfl

theorem isFinite_signed (b : Bool) (x : Float) : (signed b x).isFinite = x.isFinite := by
  cases b with
  | true => exact isFinite_neg x
  | false => rfl

theorem isNaN_of_isFinite {x : Float} (h : x.isFinite = true) : x.isNaN = false := by
  rw [isFinite_eq, Bool.and_eq_true, Bool.not_eq_true'] at h
  exact h.1

theorem isFinite_infinity : infinity.isFinite = false := by decide

/-- bits below those of infinity are those of a finite number -/
theorem isFinite_ofBits {n : Nat} (h : n < infinityBits) :
    (Float.ofBits n.toUInt64).isFinite = true :=
  isFinite_of_bounded (bounded_ofBits (k := 971) (by decide) (by decide) h)

theorem nearest_eq_infinity {q : Rat} (b : Bool) (h : overflowAt ≤ q) :
    nearest b q = signed b infinity := by
  have hpos : 0 ≤ overflowAt := le_trans (by positivity) overflowAt_bounds.1
  have hbits : nearestBits q = infinityBits :=
    Nat.le_antisymm (nearestBits_le_infinityBits q)
      (not_lt.mp fun hlt => not_lt.mpr h ((nearestBits_lt_iff (hpos.trans h)).mp hlt))
  rw [nearest, hbits, infinity]

theorem isFinite_nearest_iff {q : Rat} (b : Bool) (h : 0 ≤ q) :
    (nearest b q).isFinite = true ↔ q < overflowAt := by
  constructor
  · intro hfinite
    by_contra hlarge
    rw [nearest_eq_infinity b (not_lt.mp hlarge), isFinite_signed, isFinite_infinity] at hfinite
    cases hfinite
  · intro hsmall
    rw [nearest, isFinite_signed]
    exact isFinite_ofBits ((nearestBits_lt_iff h).mpr hsmall)

theorem isNaN_signed_infinity (b : Bool) : (signed b infinity).isNaN = false := by
  cases b <;> decide

theorem isNaN_nearest {q : Rat} (b : Bool) (h : 0 ≤ q) : (nearest b q).isNaN = false := by
  by_cases hsmall : q < overflowAt
  · exact isNaN_of_isFinite ((isFinite_nearest_iff b h).mpr hsmall)
  · rw [nearest_eq_infinity b (not_lt.mp hsmall)]
    exact isNaN_signed_infinity b

/-! ## Decimals -/

theorem lt_pow_digitCount (n : Nat) : n < 10 ^ digitCount n :=
  (Nat.length_toDigits_le_iff (by decide) Nat.length_toDigits_pos).mp (Nat.le_refl _)

theorem pow_digitCount_le {n : Nat} (h : n ≠ 0) : 10 ^ (digitCount n - 1) ≤ n := by
  by_cases hone : digitCount n ≤ 1
  · have hzero : digitCount n - 1 = 0 := by omega
    rw [hzero]
    exact Nat.one_le_iff_ne_zero.mpr h
  · rw [← not_lt, ← Nat.length_toDigits_le_iff (by decide) (by omega), not_le]
    show digitCount n - 1 < digitCount n
    omega

namespace Decimal

theorem magnitude_nonneg (d : Decimal) : 0 ≤ d.magnitude := by
  unfold magnitude
  positivity

/-- a decimal lies between the powers of ten that its digits tell -/
theorem magnitude_bounds {d : Decimal} (h : d.digits ≠ 0) :
    10 ^ (digitCount d.digits + d.exponent - 1) ≤ d.magnitude ∧
      d.magnitude < 10 ^ (digitCount d.digits + d.exponent) := by
  have hcount : 0 < digitCount d.digits := Nat.length_toDigits_pos
  have hpow : (0 : Rat) < 10 ^ d.exponent := by positivity
  have hlower : (10 : Rat) ^ ((digitCount d.digits - 1 : Nat) : Int) ≤ d.digits := by
    rw [zpow_natCast]
    exact_mod_cast pow_digitCount_le h
  have hupper : (d.digits : Rat) < 10 ^ (digitCount d.digits : Int) := by
    rw [zpow_natCast]
    exact_mod_cast lt_pow_digitCount d.digits
  constructor
  · calc (10 : Rat) ^ (digitCount d.digits + d.exponent - 1)
        = 10 ^ ((digitCount d.digits - 1 : Nat) : Int) * 10 ^ d.exponent := by
          rw [← zpow_add₀ (by norm_num)]
          congr 1
          omega
      _ ≤ d.magnitude := mul_le_mul_of_nonneg_right hlower hpow.le
  · calc d.magnitude < 10 ^ (digitCount d.digits : Int) * 10 ^ d.exponent :=
          mul_lt_mul_of_pos_right hupper hpow
      _ = 10 ^ (digitCount d.digits + d.exponent) := by rw [← zpow_add₀ (by norm_num)]

theorem overflowAt_le_ten_zpow {n : Int} (h : 400 ≤ n) : overflowAt ≤ 10 ^ n :=
  calc overflowAt ≤ 2 ^ (1024 : Int) := overflowAt_bounds.2.le
    _ ≤ 2 ^ ((3 : Int) * 400) := zpow_le_zpow_right₀ (by norm_num) (by norm_num)
    _ = (2 ^ (3 : Int)) ^ (400 : Int) := zpow_mul _ _ _
    _ ≤ 10 ^ (400 : Int) := zpow_le_zpow_left₀ (by norm_num) (by norm_num) (by norm_num)
    _ ≤ 10 ^ n := zpow_le_zpow_right₀ (by norm_num) h

theorem toFloat_eq_infinity {d : Decimal} (h : overflowAt ≤ d.magnitude) :
    d.toFloat = signed d.negative infinity := by
  have hpos : 1 < overflowAt :=
    lt_of_lt_of_le (one_lt_zpow₀ (by norm_num) (by norm_num)) overflowAt_bounds.1
  have hdigits : d.digits ≠ 0 := by
    intro hzero
    rw [magnitude, hzero, Nat.cast_zero, zero_mul] at h
    linarith
  have htop : ¬ (digitCount d.digits + d.exponent < -400) := by
    intro htop
    have hsmall : d.magnitude < 1 :=
      (magnitude_bounds hdigits).2.trans (zpow_lt_one_of_neg₀ (by norm_num) (by omega))
    linarith
  unfold toFloat
  simp only
  rw [if_neg (by simpa using ⟨hdigits, not_lt.mp htop⟩)]
  split
  · rfl
  · exact nearest_eq_infinity _ h

theorem isFinite_toFloat_iff (d : Decimal) :
    d.toFloat.isFinite = true ↔ d.magnitude < overflowAt := by
  constructor
  · intro h
    by_contra hge
    rw [toFloat_eq_infinity (not_lt.mp hge), isFinite_signed, isFinite_infinity] at h
    cases h
  · intro h
    unfold toFloat
    simp only
    split
    · rw [isFinite_signed]
      decide
    split
    · rename_i hzero htop
      have hdigits : d.digits ≠ 0 := by simp_all
      have hlarge := (overflowAt_le_ten_zpow (by omega)).trans (magnitude_bounds hdigits).1
      exact absurd h (not_lt.mpr hlarge)
    · exact (isFinite_nearest_iff _ d.magnitude_nonneg).mpr h

theorem isNaN_toFloat (d : Decimal) : d.toFloat.isNaN = false := by
  by_cases h : d.magnitude < overflowAt
  · exact isNaN_of_isFinite (d.isFinite_toFloat_iff.mpr h)
  · rw [toFloat_eq_infinity (not_lt.mp h)]
    exact isNaN_signed_infinity _

end Decimal
end PocketCalc
