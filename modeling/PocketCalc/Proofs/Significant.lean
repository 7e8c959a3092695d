import PocketCalc.Proofs.Overflow
import PocketCalc.Proofs.Rounding

/-!
# Significant digits

A positive magnitude is rounded to a number of digits by rounding it in the unit of its last digit.
Just below a power of ten that unit is ten times smaller than above, and what is rounded up to the
power of ten there gets the larger one.

* `decimalOrder_spec`         the power of ten at or below a magnitude;
* `HasDigits`                 a magnitude is rounded to these digits in this unit;
* `significantDigits_eq_iff`  they are the significant digits;
* `HasDigits.of_abs_sub_le`   a magnitude that is no further from them has the same ones.
-/

namespace PocketCalc

/-! ## Powers of ten -/

/-- a natural number lies between the powers of ten that its digits tell -/
theorem ten_zpow_digitCount {n : Nat} (h : n ≠ 0) :
    (10 : Rat) ^ (digitCount n - 1 : Int) ≤ n ∧ (n : Rat) < 10 ^ (digitCount n - 1 + 1 : Int) := by
  have hbounds := Decimal.magnitude_bounds (d := ⟨false, n, 0⟩) h
  simp only [Decimal.magnitude, zpow_zero, mul_one, add_zero] at hbounds
  rwa [sub_add_cancel]

/-- a magnitude lies between its power of ten and the next one -/
theorem decimalOrder_spec {q : Rat} (hq : 0 < q) :
    10 ^ decimalOrder q ≤ q ∧ q < 10 ^ (decimalOrder q + 1) := by
  have hnum : q.num.natAbs ≠ 0 := Int.natAbs_ne_zero.mpr (Rat.num_pos.mpr hq).ne'
  obtain ⟨hlower, hupper⟩ := zpow_bounds_of_num_den (b := 10) (by norm_num) hq
    (ten_zpow_digitCount hnum) (ten_zpow_digitCount q.den_nz)
  rw [sub_sub_sub_cancel_right] at hlower hupper
  unfold decimalOrder
  simp only
  split
  · rename_i hge
    exact ⟨hge, hupper⟩
  · rename_i hlt
    rw [sub_add_cancel]
    exact ⟨hlower, not_le.mp hlt⟩

/-! ## Digits -/

/-- A magnitude is rounded to `n + 1` digits in the unit `10^E`, or in the tenth of it if it is
below their power of ten. -/
structure HasDigits (n : Nat) (q : Rat) (D : Nat) (E : Int) : Prop where
  least : 10 ^ n ≤ D
  most : D < 10 ^ (n + 1)
  nearest : roundHalfEven (q / 10 ^ E) = D
  order : (10 ^ n - 1 / 20) * 10 ^ E ≤ q

section
variable {n : Nat} {q : Rat} {D : Nat} {E : Int}

theorem hasDigits_of_lt (hleast : 10 ^ n ≤ q / 10 ^ E) (hD : D < 10 ^ (n + 1))
    (hround : roundHalfEven (q / 10 ^ E) = D) : HasDigits n q D E := by
  have hpow : (0 : Rat) < 10 ^ E := by positivity
  have hlow : (10 : Int) ^ n ≤ D := by
    have hdown := le_roundHalfEven (q / 10 ^ E)
    rw [hround] at hdown
    have hcast : ((10 ^ n - 1 : Int) : Rat) < (D : Int) := by
      push_cast at hdown ⊢
      linarith
    have hint : (10 : Int) ^ n - 1 < D := by exact_mod_cast hcast
    omega
  refine ⟨by exact_mod_cast hlow, hD, hround, ?_⟩
  calc (10 ^ n - 1 / 20 : Rat) * 10 ^ E ≤ q / 10 ^ E * 10 ^ E := by
        apply mul_le_mul_of_nonneg_right _ hpow.le
        linarith
    _ = q := div_mul_cancel₀ q hpow.ne'

/-- digits that are rounded up to a power of ten are those of the next unit -/
theorem hasDigits_of_carry (hround : roundHalfEven (q / 10 ^ E) = 10 ^ (n + 1)) :
    HasDigits n q (10 ^ n) (E + 1) := by
  have hpow : (0 : Rat) < 10 ^ E := by positivity
  have hnext : (10 : Rat) ^ (E + 1) = 10 ^ E * 10 := zpow_add_one₀ (by norm_num) _
  have hten : (10 : Rat) ^ (n + 1) = 10 ^ n * 10 := pow_succ 10 n
  have hdist := abs_le.mp (abs_sub_roundHalfEven_le_half (q / 10 ^ E))
  rw [hround] at hdist
  push_cast at hdist
  refine ⟨le_rfl, Nat.pow_lt_pow_right (by decide) (Nat.lt_succ_self n), ?_, ?_⟩
  · rw [roundHalfEven_eq_iff, IsNearest, hnext, ← div_div]
    push_cast
    left
    rw [abs_lt]
    constructor <;> linarith [hdist.1, hdist.2]
  · calc (10 ^ n - 1 / 20 : Rat) * 10 ^ (E + 1)
        = (10 ^ (n + 1) - 1 / 2) * 10 ^ E := by rw [hnext, hten]; ring
      _ ≤ q / 10 ^ E * 10 ^ E := by
        apply mul_le_mul_of_nonneg_right _ hpow.le
        linarith [hdist.1]
      _ = q := div_mul_cancel₀ q hpow.ne'

theorem hasDigits_significantDigits (n : Nat) (hq : 0 < q) :
    HasDigits n q (significantDigits (n + 1) q).1 (significantDigits (n + 1) q).2 := by
  obtain ⟨hlow, hhigh⟩ := decimalOrder_spec hq
  have hunit : decimalOrder q + 1 - ((n + 1 : Nat) : Int) = decimalOrder q - n := by
    push_cast
    ring
  unfold significantDigits
  simp only
  rw [hunit]
  generalize decimalOrder q = k at *
  have hpow : (0 : Rat) < 10 ^ (k - n) := by positivity
  have hleast : (10 : Rat) ^ n ≤ q / 10 ^ (k - n) := by
    rw [le_div_iff₀ hpow, ← zpow_natCast, ← zpow_add₀ (by norm_num)]
    exact le_of_eq_of_le (by congr 1; ring) hlow
  have hmost : roundHalfEven (q / 10 ^ (k - n)) ≤ 10 ^ (n + 1) := by
    have hlt : q / 10 ^ (k - n) < 10 ^ (n + 1) := by
      rw [div_lt_iff₀ hpow, ← zpow_natCast, ← zpow_add₀ (by norm_num)]
      exact lt_of_lt_of_eq hhigh (by congr 1; push_cast; ring)
    have hup := roundHalfEven_le (q / 10 ^ (k - n))
    have hcast : (roundHalfEven (q / 10 ^ (k - n)) : Rat) < ((10 ^ (n + 1) + 1 : Int) : Rat) := by
      push_cast
      linarith
    have hint : roundHalfEven (q / 10 ^ (k - n)) < 10 ^ (n + 1) + 1 := by exact_mod_cast hcast
    omega
  have hnonneg : 0 ≤ roundHalfEven (q / 10 ^ (k - n)) := by
    rw [le_roundHalfEven_iff (by decide)]
    have hpos : 0 < q / 10 ^ (k - n) := by positivity
    push_cast
    linarith
  obtain ⟨d, hd⟩ := Int.eq_ofNat_of_zero_le hnonneg
  rw [hd] at hmost ⊢
  rw [Int.toNat_natCast]
  have hmost : d ≤ 10 ^ (n + 1) := by exact_mod_cast hmost
  split
  · rename_i hcarry
    have hcarry : d = 10 ^ (n + 1) := hcarry
    have hdiv : d / 10 = 10 ^ n := by
      rw [hcarry, pow_succ, Nat.mul_div_cancel _ (by decide)]
    rw [hdiv]
    apply hasDigits_of_carry
    rw [hd, hcarry]
    push_cast
    rfl
  · rename_i hne
    have hne : d ≠ 10 ^ (n + 1) := hne
    exact hasDigits_of_lt hleast (by omega) hd

namespace HasDigits

theorem abs_sub_le (h : HasDigits n q D E) : |q - D * 10 ^ E| ≤ 10 ^ E / 2 := by
  have hpow : (0 : Rat) < 10 ^ E := by positivity
  have hdist := abs_sub_roundHalfEven_le_half (q / 10 ^ E)
  rw [h.nearest, Int.cast_natCast] at hdist
  rw [abs_sub_mul_unit hpow]
  linarith [mul_le_mul_of_nonneg_right hdist hpow.le]

/-- from the middle below the next power of ten on, a magnitude is rounded up to that -/
theorem lt_next (h : HasDigits n q D E) : q < (10 ^ n - 1 / 20) * 10 ^ (E + 1) := by
  have hpow : (0 : Rat) < 10 ^ E := by positivity
  have heven : (10 : Int) ^ (n + 1) % 2 = 0 := by
    rw [pow_succ, Int.mul_emod]
    simp
  have hbelow : ¬ (10 : Int) ^ (n + 1) ≤ roundHalfEven (q / 10 ^ E) := by
    rw [h.nearest, not_le]
    exact_mod_cast h.most
  rw [le_roundHalfEven_iff heven, not_le, div_lt_iff₀ hpow] at hbelow
  push_cast at hbelow
  calc q < (10 ^ (n + 1) - 1 / 2) * 10 ^ E := hbelow
    _ = (10 ^ n - 1 / 20) * 10 ^ (E + 1) := by
      rw [zpow_add_one₀ (by norm_num)]
      ring

theorem exponent_le {r : Rat} {D' : Nat} {E' : Int} (h : HasDigits n q D E)
    (h' : HasDigits n r D' E') (hle : q ≤ r) : E ≤ E' := by
  by_contra hlt
  have hcoefficient : (0 : Rat) ≤ 10 ^ n - 1 / 20 := by
    have hone : (1 : Rat) ≤ 10 ^ n := one_le_pow₀ (by norm_num)
    linarith
  have hstep : (10 ^ n - 1 / 20 : Rat) * 10 ^ (E' + 1) ≤ (10 ^ n - 1 / 20) * 10 ^ E :=
    mul_le_mul_of_nonneg_left (zpow_le_zpow_right₀ (by norm_num) (by omega)) hcoefficient
  linarith [h.order, h'.lt_next]

/-- what the digits denote grows with the magnitude -/
theorem mul_le_mul {r : Rat} {D' : Nat} {E' : Int} (h : HasDigits n q D E)
    (h' : HasDigits n r D' E') (hle : q ≤ r) : (D : Rat) * 10 ^ E ≤ D' * 10 ^ E' := by
  have hpow : (0 : Rat) < 10 ^ E := by positivity
  rcases (h.exponent_le h' hle).eq_or_lt with rfl | hlt
  · have hround := roundHalfEven_mono (div_le_div_of_nonneg_right hle hpow.le)
    rw [h.nearest, h'.nearest] at hround
    have hcast : (D : Rat) ≤ D' := by exact_mod_cast hround
    exact mul_le_mul_of_nonneg_right hcast hpow.le
  · have hmost : (D : Rat) ≤ 10 ^ (n + 1) := by exact_mod_cast h.most.le
    have hleast : (10 : Rat) ^ n ≤ D' := by exact_mod_cast h'.least
    calc (D : Rat) * 10 ^ E ≤ 10 ^ (n + 1) * 10 ^ E := mul_le_mul_of_nonneg_right hmost hpow.le
      _ = 10 ^ n * 10 ^ (E + 1) := by rw [zpow_add_one₀ (by norm_num)]; ring
      _ ≤ 10 ^ n * 10 ^ E' := by
        gcongr
        · norm_num
        · omega
      _ ≤ D' * 10 ^ E' := by gcongr

/-- below the middle below a power of ten the digits denote less than that power -/
theorem mul_le_of_lt {F : Int} (h : HasDigits n q D E) (hlt : q < (10 ^ n - 1 / 20) * 10 ^ F) :
    (D : Rat) * 10 ^ E ≤ (10 ^ (n + 1) - 1) * 10 ^ (F - 1) := by
  have hone : (1 : Rat) ≤ 10 ^ n := one_le_pow₀ (by norm_num)
  have hE : E < F := by
    by_contra hge
    have hmono : (10 ^ n - 1 / 20 : Rat) * 10 ^ F ≤ (10 ^ n - 1 / 20) * 10 ^ E :=
      mul_le_mul_of_nonneg_left (zpow_le_zpow_right₀ (by norm_num) (not_lt.mp hge)) (by linarith)
    linarith [h.order]
  have hmost : (D : Rat) ≤ 10 ^ (n + 1) - 1 := by
    have hcast : (D : Rat) + 1 ≤ 10 ^ (n + 1) := by exact_mod_cast h.most
    linarith
  calc (D : Rat) * 10 ^ E ≤ (10 ^ (n + 1) - 1) * 10 ^ E := by gcongr
    _ ≤ (10 ^ (n + 1) - 1) * 10 ^ (F - 1) := by
      apply mul_le_mul_of_nonneg_left (zpow_le_zpow_right₀ (by norm_num) (by omega))
      exact (Nat.cast_nonneg D).trans hmost

theorem unique {D' : Nat} {E' : Int} (h : HasDigits n q D E) (h' : HasDigits n q D' E') :
    D = D' ∧ E = E' := by
  obtain rfl : E = E' := le_antisymm (h.exponent_le h' le_rfl) (h'.exponent_le h le_rfl)
  have heq : (D : Int) = D' := h.nearest.symm.trans h'.nearest
  exact ⟨by exact_mod_cast heq, rfl⟩

/-- what is no further from the digits, and not too far below their power of ten, has them too -/
theorem of_abs_sub_le {r : Rat} (h : HasDigits n q D E) (hr : (10 ^ n - 1 / 20) * 10 ^ E ≤ r)
    (hnear : |r - D * 10 ^ E| ≤ |q - D * 10 ^ E|) : HasDigits n r D E := by
  have hpow : (0 : Rat) < 10 ^ E := by positivity
  rw [abs_sub_mul_unit hpow, abs_sub_mul_unit hpow] at hnear
  have hnear := le_of_mul_le_mul_right hnear hpow
  refine ⟨h.least, h.most, ?_, hr⟩
  rw [← h.nearest]
  apply roundHalfEven_of_abs_sub_le
  rw [h.nearest, Int.cast_natCast]
  exact hnear

end HasDigits

theorem significantDigits_eq_iff (hq : 0 < q) :
    significantDigits (n + 1) q = (D, E) ↔ HasDigits n q D E := by
  constructor
  · intro h
    have hdigits := hasDigits_significantDigits n hq
    rwa [h] at hdigits
  · intro h
    obtain ⟨hD, hE⟩ := (hasDigits_significantDigits n hq).unique h
    exact Prod.ext hD hE

end

end PocketCalc
