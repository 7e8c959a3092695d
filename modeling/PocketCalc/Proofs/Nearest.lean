import Mathlib
import PocketCalc.Number.Decimal
import PocketCalc.Proofs.Double
import PocketCalc.Proofs.Rounding

/-!
# Doubles nearest to a decimal

A decimal of a few digits is read as a moderate double.

* `binaryOrder_spec`    the power of two at or below a magnitude;
* `le_binaryOrder_iff`  and what it is compared with;
* `nearestBits_le`      the bits of the double nearest to a magnitude below `2^50`;
* `moderate_toFloat`    the double of a decimal of at most 13 digits.
-/

namespace PocketCalc
open Float.Model Float.Model.UnpackedFloat

/-! ## Powers of two -/

theorem two_zpow_log2_le {n : Nat} (hn : n ≠ 0) : (2 : Rat) ^ (n.log2 : Int) ≤ n := by
  have h := Nat.log2_self_le hn
  rw [zpow_natCast]
  exact_mod_cast h

theorem lt_two_zpow_log2 (n : Nat) : (n : Rat) < 2 ^ ((n.log2 : Int) + 1) := by
  have h : n < 2 ^ (n.log2 + 1) := Nat.lt_log2_self
  have hcast : (n.log2 : Int) + 1 = ((n.log2 + 1 : Nat) : Int) := by push_cast; rfl
  rw [hcast, zpow_natCast]
  exact_mod_cast h

/-- the powers of a base up to numerator and denominator tell that of a fraction but for one -/
theorem zpow_bounds_of_num_den {b : Rat} (hb : 1 < b) {q : Rat} (hq : 0 < q) {m n : Int}
    (hm : b ^ m ≤ q.num.natAbs ∧ (q.num.natAbs : Rat) < b ^ (m + 1))
    (hn : b ^ n ≤ q.den ∧ (q.den : Rat) < b ^ (n + 1)) :
    b ^ (m - n - 1) ≤ q ∧ q < b ^ (m - n + 1) := by
  have hpos : 0 < b := by linarith
  have hden : (0 : Rat) < q.den := by exact_mod_cast q.den_pos
  have hfrac : q = (q.num.natAbs : Rat) / q.den := by
    have habs : (q.num : Rat) = q.num.natAbs := by
      rw [← Int.cast_natCast, Int.natAbs_of_nonneg (Rat.num_pos.mpr hq).le]
    rw [← habs, Rat.num_div_den]
  constructor
  · rw [hfrac, le_div_iff₀ hden]
    calc b ^ (m - n - 1) * (q.den : Rat) ≤ b ^ (m - n - 1) * b ^ (n + 1) := by
          gcongr
          exact hn.2.le
      _ = b ^ m := by rw [← zpow_add₀ hpos.ne']; congr 1; ring
      _ ≤ q.num.natAbs := hm.1
  · rw [hfrac, div_lt_iff₀ hden]
    calc (q.num.natAbs : Rat) < b ^ (m + 1) := hm.2
      _ = b ^ (m - n + 1) * b ^ n := by rw [← zpow_add₀ hpos.ne']; congr 1; ring
      _ ≤ b ^ (m - n + 1) * q.den := by
        gcongr
        exact hn.1

/-- a magnitude lies between its power of two and the next one -/
theorem binaryOrder_spec {q : Rat} (hq : 0 < q) :
    2 ^ binaryOrder q ≤ q ∧ q < 2 ^ (binaryOrder q + 1) := by
  have hnum : q.num.natAbs ≠ 0 := Int.natAbs_ne_zero.mpr (Rat.num_pos.mpr hq).ne'
  obtain ⟨hlower, hupper⟩ := zpow_bounds_of_num_den (b := 2) (by norm_num) hq
    ⟨two_zpow_log2_le hnum, lt_two_zpow_log2 _⟩ ⟨two_zpow_log2_le q.den_nz, lt_two_zpow_log2 _⟩
  unfold binaryOrder
  simp only
  split
  · rename_i hlt
    rw [sub_add_cancel]
    exact ⟨hlower, hlt⟩
  · rename_i hge
    exact ⟨not_lt.mp hge, hupper⟩

theorem le_binaryOrder_iff {q : Rat} (hq : 0 < q) {b : Int} : b ≤ binaryOrder q ↔ 2 ^ b ≤ q := by
  obtain ⟨hlow, hhigh⟩ := binaryOrder_spec hq
  constructor
  · intro h
    exact (zpow_le_zpow_right₀ (by norm_num) h).trans hlow
  · intro h
    have hlt := (zpow_lt_zpow_iff_right₀ (by norm_num)).mp (lt_of_le_of_lt h hhigh)
    omega

/-! ## Nearest bits -/

/-- the exponent in the bits is small, and a significand adds two steps to it at most -/
theorem nearestBits_le {q : Rat} (h : 0 ≤ q) (h' : q < 2 ^ 50) :
    nearestBits q ≤ 1073 * exponentStep + 1 := by
  unfold nearestBits
  split
  · exact Nat.zero_le _
  rename_i hne
  have hhigh := (binaryOrder_spec (lt_of_le_of_ne h (Ne.symm hne))).2
  have horder : ¬ 50 ≤ binaryOrder q := by
    rw [le_binaryOrder_iff (lt_of_le_of_ne h (Ne.symm hne)), not_le]
    exact_mod_cast h'
  simp only
  generalize he : max (binaryOrder q - 52) (-1074) = e
  have hdiv : q / 2 ^ e < 2 ^ 53 := by
    rw [div_lt_iff₀ (by positivity)]
    calc q < 2 ^ (binaryOrder q + 1) := hhigh
      _ ≤ 2 ^ (53 + e) := zpow_le_zpow_right₀ (by norm_num) (by omega)
      _ = 2 ^ 53 * 2 ^ e := by rw [zpow_add₀ (by norm_num)]; norm_cast
  have hround : roundHalfEven (q / 2 ^ e) ≤ 2 ^ 53 + 1 := by
    have hle := roundHalfEven_le (q / 2 ^ e)
    have hlt : (roundHalfEven (q / 2 ^ e) : Rat) ≤ ((2 ^ 53 + 1 : Int) : Rat) := by
      push_cast
      linarith
    exact_mod_cast hlt
  have hbits : (e + 1074).toNat ≤ 1071 := by omega
  have hmul := Nat.mul_le_mul_right exponentStep hbits
  have hstep : exponentStep = 2 ^ 52 := rfl
  generalize exponentStep = step at *
  generalize roundHalfEven (q / 2 ^ e) = r at *
  generalize (e + 1074).toNat * step = b at *
  calc min (b + r.toNat) infinityBits ≤ b + r.toNat := Nat.min_le_left _ _
    _ ≤ 1073 * step + 1 := by omega

/-- the exponent of a double with given bits -/
theorem bounded_ofBits {n : Nat} {k : Int} (hk : -1074 ≤ k) (hk' : k < 972)
    (h : n < (k + 1076).toNat * exponentStep) :
    bounded k (Float.ofBits n.toUInt64).toModel.unpack = true := by
  have hstep : exponentStep = 2 ^ 52 := rfl
  rw [hstep] at h
  have hn : n.toUInt64.toBitVec.toNat = n := by
    show n % 2 ^ 64 = n
    omega
  have he : (@unpackExponent Format.binary64 n.toUInt64.toBitVec).toNat < (k + 1076).toNat := by
    rw [toNat_unpackExponent, hn]
    omega
  apply bounded_unpack_pack hk hk'
  apply bounded_unpack (by omega) hk
  intro heq
  rw [heq, toNat_allOnes] at he
  omega

theorem moderate_ofBits {n : Nat} (h : n ≤ 1073 * exponentStep + 1) :
    Moderate (Float.ofBits n.toUInt64) := by
  have hstep : exponentStep = 2 ^ 52 := rfl
  have hbits : ((0 : Int) + 1076).toNat = 1076 := rfl
  exact bounded_ofBits (by decide) (by decide) (by rw [hbits]; omega)

/-! ## Decimals -/

/-- a decimal without a sign that is no larger than its digits, of which there are few -/
theorem moderate_toFloat {d : Decimal} (hneg : d.negative = false) (hd : d.digits < 10 ^ 13)
    (he : d.exponent ≤ 0) : Moderate d.toFloat := by
  have hsigned : ∀ x, signed d.negative x = x := by
    intro x
    rw [hneg]
    rfl
  have hcount : digitCount d.digits ≤ 13 := Nat.toDigits_length 10 d.digits 13 (by decide) hd
  unfold Decimal.toFloat
  simp only [nearest, hsigned]
  split
  · decide +kernel
  · rw [if_neg (by omega)]
    apply moderate_ofBits
    have hmag : d.magnitude ≤ d.digits := by
      have hpow : (10 : Rat) ^ d.exponent ≤ 1 := zpow_le_one_of_nonpos₀ (by norm_num) he
      calc d.magnitude ≤ d.digits * 1 := by unfold Decimal.magnitude; gcongr
        _ = d.digits := mul_one _
    have hdigits : (d.digits : Rat) < 10 ^ 13 := by exact_mod_cast hd
    apply nearestBits_le
    · unfold Decimal.magnitude
      positivity
    · calc d.magnitude < 10 ^ 13 := lt_of_le_of_lt hmag hdigits
        _ < 2 ^ 50 := by norm_num

end PocketCalc
