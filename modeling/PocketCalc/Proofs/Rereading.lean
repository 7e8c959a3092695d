import PocketCalc.Proofs.Shown

/-!
# Results that are read back

What is shown is read as the double next to it, which is no further from what is shown than the
double that was to be shown.  So it is rounded to the same digits, and the same is shown again,
unless one of three borders lies between the two doubles: the one to positional notation at
`10^(-7)`, the largest double, and `10^(-321)`, where doubles are too coarse for three digits.

* `Drifts`                   the magnitudes that are shown otherwise once they are read back;
* `reread_fixed`             none of them is shown in positional notation;
* `hasDigits_reread`         the digits of all others in scientific notation are kept;
* `result_reread_iff`        what is read back is shown as it was, unless its magnitude is one of
                             them.
-/

namespace PocketCalc.Format
open Text

/-- Magnitudes that are shown otherwise once they are read back.  They are shown as `1E-7`, which is
read as the least double in positional notation, as `1.8E+308`, which is read as infinity, and as
`1E-321`, which is read as the double below the one that was shown. -/
def Drifts (q : Rat) : Prop :=
  (9995 * 10 ^ (-11 : Int) ≤ q ∧ q < leastFixed) ∨ 1795 * 10 ^ (305 : Int) ≤ q ∨
    q = 203 * 2 ^ (-1074 : Int)

/-! ## Positional notation -/

/-- the units of what is read back are those that were shown -/
theorem units_roundedMagnitude {q : Rat} (hq : 0 ≤ q) (h : Representable q) :
    units (roundedMagnitude (units q / 10 ^ 6)) = units q := by
  have hscale : ∀ r : Rat, |r * 10 ^ 6 - units q| = |units q / 10 ^ 6 - r| * 10 ^ 6 := by
    intro r
    have hsplit : r * 10 ^ 6 - units q = (r - units q / 10 ^ 6) * 10 ^ 6 := by ring
    rw [hsplit, abs_mul, abs_of_pos (by norm_num : (0 : Rat) < 10 ^ 6), abs_sub_comm]
  have hnear := abs_sub_roundedMagnitude_le (q := units q / 10 ^ 6) (by positivity) h
  have hround : roundHalfEven (roundedMagnitude (units q / 10 ^ 6) * 10 ^ 6) =
      roundHalfEven (q * 10 ^ 6) := by
    apply roundHalfEven_of_abs_sub_le
    rw [← cast_units hq, Int.cast_natCast, hscale, hscale]
    exact mul_le_mul_of_nonneg_right hnear (by norm_num)
  have hcast := cast_units (roundedMagnitude_nonneg (q := units q / 10 ^ 6) (by positivity))
  rw [hround, ← cast_units hq] at hcast
  exact_mod_cast hcast

theorem not_scientific_roundedMagnitude {n : Nat} (hn : n < 10 ^ 12) (hzero : n ≠ 0) :
    ¬ Scientific (roundedMagnitude (n / 10 ^ 6)) := by
  have hlow := leastFixed_le_roundedMagnitude_units hzero
  have hhigh := roundedMagnitude_units_le hn
  have hbelow : belowHigh < 10 ^ 6 - 1 / 2 / 10 ^ 6 := by norm_num [belowHigh]
  rintro (⟨-, hlt⟩ | hge)
  · exact absurd hlt (not_lt.mpr hlow)
  · linarith

theorem result_zero : result 0 = ['0'] := by
  have hmagnitude : (⟨false, 0, 0⟩ : Exact).magnitude = 0 := zero_mul _
  have hunits : units 0 = 0 := by
    have hround : roundHalfEven (0 * 10 ^ 6) = 0 := roundHalfEven_eq_iff.mpr (.inl (by norm_num))
    have hcast := cast_units le_rfl
    rw [hround] at hcast
    exact_mod_cast hcast
  have hfixed : ¬ Scientific (⟨false, 0, 0⟩ : Exact).magnitude := by
    rw [hmagnitude]
    exact fun h => lt_irrefl _ h.pos
  rw [result_of_fixed ofFloat?_zero hfixed, hmagnitude, hunits, clean_zero]

/-- **A result in positional notation is shown as it was once it is read back.** -/
theorem reread_fixed {x : Float} {v : Exact} (h : Exact.ofFloat? x = some v)
    (hs : ¬ Scientific v.magnitude) :
    ∃ y, readNumber? (result x) = some y ∧ result y = result x := by
  rw [result_of_fixed h hs]
  have hunits := units_lt_of_not_scientific v.magnitude_nonneg hs
  have hkept := units_roundedMagnitude v.magnitude_nonneg (representable_of_ofFloat? h)
  generalize units v.magnitude = n at *
  by_cases hzero : n = 0
  · rw [hzero, clean_zero]
    exact ⟨0, rfl, result_zero⟩
  have hdenotes : Denotes (clean (withSign v.negative (placesText maxPlaces n))) v.negative
      (n / 10 ^ 6) := denotes_clean_places (by decide) v.negative hzero
  obtain ⟨y, w, hy, hw, hsign, hmagnitude⟩ := hdenotes.readNumber? (units_lt_overflowAt hunits.le)
  refine ⟨y, hy, ?_⟩
  rw [result_of_fixed hw (by rw [hmagnitude]; exact not_scientific_roundedMagnitude hunits hzero),
    hmagnitude, hkept, hsign]

/-! ## Scientific notation -/

/-- a magnitude near a power of ten is rounded to it -/
theorem hasDigits_hundred {q : Rat} {E : Int} (hlow : (10 ^ 2 - 1 / 20) * 10 ^ E ≤ q)
    (hhigh : q < (10 ^ 2 + 1 / 2) * 10 ^ E) : HasDigits 2 q 100 E := by
  have hpow : (0 : Rat) < 10 ^ E := by positivity
  refine ⟨by decide, by decide, ?_, hlow⟩
  rw [roundHalfEven_eq_iff, IsNearest, abs_lt]
  push_cast
  left
  rw [lt_sub_iff_add_lt, sub_lt_iff_lt_add, lt_div_iff₀ hpow, div_lt_iff₀ hpow]
  constructor
  · refine lt_of_lt_of_le ?_ hlow
    exact mul_lt_mul_of_pos_right (by norm_num) hpow
  · refine hhigh.trans_eq ?_
    norm_num

/-- the least double in units of a power of ten -/
theorem leastDouble_bounds :
    202402 * (2 : Rat) ^ (-1074 : Int) < 10 ^ 5 * 10 ^ (-323 : Int) ∧
      10 ^ 5 * (10 : Rat) ^ (-323 : Int) < 202403 * 2 ^ (-1074 : Int) := by
  have hten : (10 : Rat) ^ (-323 : Int) = (10 ^ (-17 : Int)) ^ (19 : Int) := by
    rw [← zpow_mul]
    rfl
  have htwo : (2 : Rat) ^ (-1074 : Int) = (2 ^ (-179 : Int)) ^ (6 : Int) := by
    rw [← zpow_mul]
    rfl
  rw [hten, htwo]
  norm_num

theorem leastDouble_le : (2 : Rat) ^ (-1074 : Int) ≤ 10 ^ (-323 : Int) := by
  have hlower := leastDouble_bounds.1
  have hleast : (0 : Rat) < 2 ^ (-1074 : Int) := by positivity
  generalize (10 : Rat) ^ (-323 : Int) = p at *
  generalize (2 : Rat) ^ (-1074 : Int) = u at *
  linarith

/-- Among the least doubles only one is rounded down to a power of ten: between a hundred of its
units and half a unit more lies no other multiple of the least double. -/
theorem eq_of_hundred_lt {q : Rat} {E : Int} (hq : Representable q) (hE : E ≤ -323)
    (hlow : 10 ^ 2 * 10 ^ E < q) (hhigh : q ≤ (10 ^ 2 + 1 / 2) * 10 ^ E) :
    q = 203 * 2 ^ (-1074 : Int) := by
  obtain ⟨n, rfl⟩ := hq.exists_multiple
  obtain ⟨j, rfl⟩ : ∃ j : Nat, E = -323 - j := ⟨(-323 - E).toNat, by omega⟩
  obtain ⟨hlower, hupper⟩ := leastDouble_bounds
  have hunit : (10 : Rat) ^ (-323 : Int) = 10 ^ (-323 - j : Int) * (10 ^ j : Nat) := by
    rw [Nat.cast_pow, Nat.cast_ofNat, ← zpow_natCast, ← zpow_add₀ (by norm_num), sub_add_cancel]
  have hten : (0 : Rat) < (10 ^ j : Nat) := by positivity
  have hleast : (0 : Rat) < 2 ^ (-1074 : Int) := by positivity
  -- in units of `10^(-323)` the multiple is `n * 10^j`, and `203` is the only one in the gap
  have hmin := mul_lt_mul_of_pos_right hlow hten
  have hmax := mul_le_mul_of_nonneg_right hhigh hten.le
  rw [mul_assoc, ← hunit, mul_right_comm] at hmin
  rw [mul_assoc (10 ^ 2 + 1 / 2 : Rat), ← hunit, mul_right_comm] at hmax
  generalize (10 : Rat) ^ (-323 : Int) = p at *
  generalize (2 : Rat) ^ (-1074 : Int) = u at *
  have hmin : (20240200 : Rat) < 10 ^ 5 * (n * (10 ^ j : Nat)) := by
    apply lt_of_mul_lt_mul_right _ hleast.le
    linarith
  have hmax : (10 ^ 5 * (n * (10 ^ j : Nat)) : Rat) < 20341502 := by
    apply lt_of_mul_lt_mul_right _ hleast.le
    linarith
  have hmin : 20240200 < 10 ^ 5 * (n * 10 ^ j) := by exact_mod_cast hmin
  have hmax : 10 ^ 5 * (n * 10 ^ j) < 20341502 := by exact_mod_cast hmax
  cases j with
  | zero =>
    obtain rfl : n = 203 := by omega
    norm_cast
  | succ j =>
    have hmultiple : n * 10 ^ (j + 1) = 10 * (n * 10 ^ j) := by ring
    omega

/-- far above the least double a magnitude is read with less than a part in two thousand off -/
theorem abs_sub_roundedMagnitude_le_part {q : Rat} (hq : 10 ^ (-320 : Int) ≤ q) :
    |q - roundedMagnitude q| ≤ q / 2000 := by
  have hpos : 0 < q := lt_of_lt_of_le (by positivity) hq
  have hsmall : 10 ^ 3 * 2 ^ lastPlace q ≤ q := by
    by_cases hlast : lastPlace q = -1074
    · calc (10 ^ 3 * 2 ^ lastPlace q : Rat) = 10 ^ 3 * 2 ^ (-1074 : Int) := by rw [hlast]
        _ ≤ 10 ^ 3 * 10 ^ (-323 : Int) :=
          mul_le_mul_of_nonneg_left leastDouble_le (by positivity)
        _ = 10 ^ (-320 : Int) := by rw [← zpow_natCast, ← zpow_add₀ (by norm_num)]; rfl
        _ ≤ q := hq
    · calc (10 ^ 3 * 2 ^ lastPlace q : Rat) ≤ 2 ^ (52 : Int) * 2 ^ lastPlace q :=
          mul_le_mul_of_nonneg_right (by norm_num) (by positivity)
        _ = 2 ^ (lastPlace q + 52) := by rw [add_comm, zpow_add₀ (by norm_num)]
        _ ≤ q := two_zpow_lastPlace_le hpos hlast
  linarith [abs_sub_roundedMagnitude_le_half q]

section
variable {q : Rat} {D : Nat} {E : Int}

/-- what is read back does not go to the digits below a power of ten -/
theorem order_reread (h : HasDigits 2 q D E) (hq : Representable q)
    (hne : q ≠ 203 * 2 ^ (-1074 : Int)) :
    (10 ^ 2 - 1 / 20) * 10 ^ E ≤ roundedMagnitude (D * 10 ^ E) := by
  have hpow : (0 : Rat) < 10 ^ E := by positivity
  have hnear := abs_sub_roundedMagnitude_le (q := D * 10 ^ E) (by positivity) hq
  have hhalf := h.abs_sub_le
  rcases h.least.eq_or_lt with rfl | hD
  · have hcast : ((10 ^ 2 : Nat) : Rat) = 10 ^ 2 := by norm_num
    rw [hcast] at hnear hhalf ⊢
    by_cases hle : q ≤ 10 ^ 2 * 10 ^ E
    · rw [abs_of_nonneg (sub_nonneg.mpr hle)] at hnear
      have hge : q ≤ roundedMagnitude (10 ^ 2 * 10 ^ E) := by linarith [(abs_le.mp hnear).2]
      exact h.order.trans hge
    · -- the double that was shown lies above, so what is read may lie as far below
      have hE : -323 < E := by
        by_contra hE
        exact hne (eq_of_hundred_lt hq (not_lt.mp hE) (not_le.mp hle)
          (by linarith [(abs_le.mp hhalf).2]))
      have hlarge : (10 : Rat) ^ (-320 : Int) ≤ 10 ^ 2 * 10 ^ E := by
        rw [← zpow_natCast, ← zpow_add₀ (by norm_num)]
        exact zpow_le_zpow_right₀ (by norm_num) (by push_cast; omega)
      linarith [(abs_le.mp (abs_sub_roundedMagnitude_le_part hlarge)).2]
  · have hcast : (10 ^ 2 + 1 : Rat) ≤ D := by exact_mod_cast hD
    have hle : (10 ^ 2 + 1 : Rat) * 10 ^ E ≤ D * 10 ^ E :=
      mul_le_mul_of_nonneg_right hcast hpow.le
    rw [abs_sub_comm q] at hhalf
    linarith [(abs_le.mp (hnear.trans hhalf)).2]

/-- **The digits that are read back are those that were shown.** -/
theorem hasDigits_reread (h : HasDigits 2 q D E) (hq : Representable q)
    (hne : q ≠ 203 * 2 ^ (-1074 : Int)) : HasDigits 2 (roundedMagnitude (D * 10 ^ E)) D E := by
  refine h.of_abs_sub_le (order_reread h hq hne) ?_
  rw [abs_sub_comm _ (D * 10 ^ E : Rat), abs_sub_comm q]
  exact abs_sub_roundedMagnitude_le (by positivity) hq

/-! ## Borders -/

/-- the largest double lies between two numbers of three digits -/
theorem overflowAt_digits :
    179 * 10 ^ (306 : Int) < overflowAt ∧ overflowAt ≤ 180 * 10 ^ (306 : Int) := by
  have hten : (10 : Rat) ^ (306 : Int) = (10 ^ (17 : Int)) ^ (18 : Int) := by
    rw [← zpow_mul]
    rfl
  have htwo : (2 : Rat) ^ (971 : Int) = (2 ^ (97 : Int)) ^ (10 : Int) * 2 := by
    rw [← zpow_mul, ← zpow_add_one₀ (by norm_num)]
    rfl
  rw [overflowAt_eq, hten, htwo]
  norm_num

/-- the middle between them is rounded up -/
theorem hasDigits_middle (F : Int) : HasDigits 2 (1795 * 10 ^ F) 180 (F + 1) := by
  have hpow : (0 : Rat) < 10 ^ F := by positivity
  have hnext : (10 : Rat) ^ (F + 1) = 10 ^ F * 10 := zpow_add_one₀ (by norm_num) F
  refine ⟨by decide, by decide, ?_, ?_⟩
  · rw [roundHalfEven_eq_iff, IsNearest, hnext, mul_comm _ (10 : Rat),
      mul_div_mul_right _ _ hpow.ne']
    norm_num
  · rw [hnext]
    linarith

/-- and what lies below it is rounded down -/
theorem digits_le_of_lt_middle {F : Int} (h : HasDigits 2 q D E) (hq : q < 1795 * 10 ^ F) :
    D * 10 ^ E ≤ (179 * 10 ^ (F + 1) : Rat) := by
  have hpow : (0 : Rat) < 10 ^ F := by positivity
  have hnext : (10 : Rat) ^ (F + 1) = 10 ^ F * 10 := zpow_add_one₀ (by norm_num) F
  rcases lt_trichotomy E (F + 1) with hE | rfl | hE
  · have hmost : (D : Rat) ≤ 10 ^ 3 := by exact_mod_cast h.most.le
    have hle : (10 : Rat) ^ E ≤ 10 ^ F := zpow_le_zpow_right₀ (by norm_num) (by omega)
    calc (D : Rat) * 10 ^ E ≤ 10 ^ 3 * 10 ^ F := by gcongr
      _ ≤ 179 * 10 ^ (F + 1) := by
        rw [hnext]
        linarith
  · have hD : ¬ (180 : Int) ≤ D := by
      rw [← h.nearest, le_roundHalfEven_iff (by decide), not_le, div_lt_iff₀ (by positivity), hnext]
      push_cast
      linarith
    have hcast : (D : Rat) ≤ 179 := by
      have hD : D ≤ 179 := by omega
      exact_mod_cast hD
    exact mul_le_mul_of_nonneg_right hcast (by positivity)
  · have hstep : (10 : Rat) ^ (F + 1 + 1) ≤ 10 ^ E := zpow_le_zpow_right₀ (by norm_num) hE
    rw [zpow_add_one₀ (by norm_num), hnext] at hstep
    linarith [h.order]

/-- digits are read as infinity from the middle on -/
theorem overflowAt_le_digits (h : HasDigits 2 q D E) (hq : 1795 * 10 ^ (305 : Int) ≤ q) :
    overflowAt ≤ D * 10 ^ E :=
  overflowAt_digits.2.trans ((hasDigits_middle 305).mul_le_mul h hq)

/-- and below it as a double -/
theorem digits_lt_overflowAt (h : HasDigits 2 q D E) (hq : q < 1795 * 10 ^ (305 : Int)) :
    D * 10 ^ E < overflowAt :=
  lt_of_le_of_lt (digits_le_of_lt_middle h hq) overflowAt_digits.1

/-- what is read back is in scientific notation again -/
theorem scientific_reread (h : HasDigits 2 q D E) (hq : Representable q) (hs : Scientific q)
    (hd : ¬ Drifts q) : Scientific (roundedMagnitude (D * 10 ^ E)) := by
  have hnonneg : (0 : Rat) ≤ D * 10 ^ E := by positivity
  rcases hs with ⟨-, hlow⟩ | hhigh
  · left
    constructor
    · have horder := order_reread h hq fun heq => hd (.inr (.inr heq))
      refine lt_of_lt_of_le (mul_pos (by norm_num) (by positivity)) horder
    · have hlt : q < (10 ^ 2 - 1 / 20) * 10 ^ (-9 : Int) := by
        have hlt : q < 9995 * 10 ^ (-11 : Int) := not_le.mp fun hge => hd (.inl ⟨hge, hlow⟩)
        refine hlt.trans_eq ?_
        norm_num
      have hnext : Representable (900000000 / 2 ^ 53) :=
        ⟨900000000, -53, by norm_num, by norm_num, by norm_num⟩
      calc roundedMagnitude (D * 10 ^ E) ≤ 900000000 / 2 ^ 53 := by
            apply roundedMagnitude_le hnonneg hnext
            refine (h.mul_le_of_lt hlt).trans ?_
            norm_num
        _ < leastFixed := by norm_num [leastFixed]
  · right
    have hborder : HasDigits 2 (10 ^ 6 - 1 / 2 / 10 ^ 6) 100 4 :=
      hasDigits_hundred (by norm_num) (by norm_num)
    have hle := hborder.mul_le_mul h hhigh
    calc (10 ^ 6 - 1 / 2 / 10 ^ 6 : Rat) ≤ 10 ^ 6 := by norm_num
      _ ≤ roundedMagnitude (D * 10 ^ E) := by
        apply le_roundedMagnitude hnonneg representable_high
        refine le_trans ?_ hle
        norm_num

end

/-- **A result in scientific notation is shown as it was once it is read back**, away from the
borders. -/
theorem reread_scientific {x : Float} {v : Exact} (h : Exact.ofFloat? x = some v)
    (hs : Scientific v.magnitude) (hd : ¬ Drifts v.magnitude) :
    ∃ y, readNumber? (result x) = some y ∧ result y = result x := by
  have hpos := hs.pos
  have hq := representable_of_ofFloat? h
  have hdigits := hasDigits_significantDigits mantissaPlaces hpos
  generalize (significantDigits (mantissaPlaces + 1) v.magnitude).1 = D at hdigits
  generalize (significantDigits (mantissaPlaces + 1) v.magnitude).2 = E at hdigits
  have hfinite := digits_lt_overflowAt hdigits (not_le.mp fun hge => hd (.inr (.inl hge)))
  obtain ⟨y, w, hy, hw, hsign, hmagnitude⟩ := (denotes_scientific hpos hdigits).readNumber? hfinite
  have hkept := hasDigits_reread hdigits hq fun heq => hd (.inr (.inr heq))
  have hagain := scientific_reread hdigits hq hs hd
  rw [← hmagnitude] at hkept hagain
  rw [result_of_scientific h hs]
  refine ⟨y, hy, ?_⟩
  rw [result_of_scientific hw hagain, scientific_eq hagain.pos hkept, scientific_eq hpos hdigits,
    hsign]

/-! ## What is shown otherwise -/

theorem scientific_of_high {q : Rat} (h : 1795 * 10 ^ (305 : Int) ≤ q) : Scientific q := by
  right
  calc (10 ^ 6 - 1 / 2 / 10 ^ 6 : Rat) ≤ 1795 * 10 ^ (6 : Int) := by norm_num
    _ ≤ 1795 * 10 ^ (305 : Int) := by
      apply mul_le_mul_of_nonneg_left (zpow_le_zpow_right₀ (by norm_num) (by norm_num))
      norm_num
    _ ≤ q := h

theorem scientific_of_least : Scientific (203 * 2 ^ (-1074 : Int)) := by
  left
  constructor
  · positivity
  · calc (203 * 2 ^ (-1074 : Int) : Rat) ≤ 203 * 2 ^ (-40 : Int) := by
          apply mul_le_mul_of_nonneg_left (zpow_le_zpow_right₀ (by norm_num) (by norm_num))
          norm_num
      _ < leastFixed := by norm_num [leastFixed]

/-- what is shown of a magnitude that is rounded to a power of ten -/
theorem scientific_hundred {v : Exact} {E : Int} (hlow : (10 ^ 2 - 1 / 20) * 10 ^ E ≤ v.magnitude)
    (hhigh : v.magnitude < (10 ^ 2 + 1 / 2) * 10 ^ E) :
    scientific v = withSign v.negative ('1' :: 'E' :: signedText (E + mantissaPlaces)) := by
  have hpos : 0 < v.magnitude := lt_of_lt_of_le (mul_pos (by norm_num) (by positivity)) hlow
  rw [scientific_eq hpos (hasDigits_hundred hlow hhigh)]
  rfl

/-- what is shown at the borders, and what is shown once it is read back -/
theorem border_texts (negative : Bool) :
    (readNumber? (withSign negative ['1', 'E', '-', '7'])).map result = some ['0'] ∧
      (readNumber? (withSign negative ['1', 'E', '-', '3', '2', '1'])).map result =
        some (withSign negative "9.98E-322".toList) ∧
      result (signed negative infinity) = invalidResult := by
  revert negative
  decide +kernel

/-- below the border `1E-7` is shown, which is read as the double at the border -/
theorem reread_low {x : Float} {v : Exact} (h : Exact.ofFloat? x = some v)
    (hlow : 9995 * 10 ^ (-11 : Int) ≤ v.magnitude) (hhigh : v.magnitude < leastFixed) :
    ∃ y, readNumber? (result x) = some y ∧ result y ≠ result x := by
  have hpos : 0 < v.magnitude := lt_of_lt_of_le (by positivity) hlow
  have hpower : signedText (-9 + mantissaPlaces) = ['-', '7'] := by decide
  have hshown := scientific_hundred (v := v) (E := -9) (le_of_eq_of_le (by norm_num) hlow)
    (hhigh.trans (by norm_num [leastFixed]))
  obtain ⟨y, hy, hagain⟩ := Option.map_eq_some_iff.mp (border_texts v.negative).1
  rw [result_of_scientific h (.inl ⟨hpos, hhigh⟩), hshown, hpower]
  refine ⟨y, hy, ?_⟩
  rw [hagain]
  cases v.negative <;> decide

/-- the largest doubles are shown as `1.8E+308` and read as infinity -/
theorem reread_high {x : Float} {v : Exact} (h : Exact.ofFloat? x = some v)
    (hhigh : 1795 * 10 ^ (305 : Int) ≤ v.magnitude) :
    ∃ y, readNumber? (result x) = some y ∧ result y ≠ result x := by
  have hs := scientific_of_high hhigh
  have hdigits := hasDigits_significantDigits mantissaPlaces hs.pos
  have hread := (denotes_scientific hs.pos hdigits).readNumber?_infinity
    (overflowAt_le_digits hdigits hhigh)
  rw [← result_of_scientific h hs] at hread
  refine ⟨_, hread, fun heq => ?_⟩
  have hunread : readNumber? invalidResult = none := by decide
  rw [← heq, (border_texts v.negative).2.2, hunread] at hread
  cases hread

/-- the double that is shown as `1E-321` lies further above than the one that is read lies below -/
theorem reread_least {x : Float} {v : Exact} (h : Exact.ofFloat? x = some v)
    (heq : v.magnitude = 203 * 2 ^ (-1074 : Int)) :
    ∃ y, readNumber? (result x) = some y ∧ result y ≠ result x := by
  have hs : Scientific v.magnitude := by
    rw [heq]
    exact scientific_of_least
  have hpower : signedText (-323 + mantissaPlaces) = ['-', '3', '2', '1'] := by decide
  obtain ⟨hlower, hupper⟩ := leastDouble_bounds
  have hleast : (0 : Rat) < 2 ^ (-1074 : Int) := by positivity
  have hshown : scientific v =
      withSign v.negative ('1' :: 'E' :: signedText (-323 + mantissaPlaces)) := by
    apply scientific_hundred
    · rw [heq]
      generalize (10 : Rat) ^ (-323 : Int) = p at *
      generalize (2 : Rat) ^ (-1074 : Int) = u at *
      linarith
    · rw [heq]
      generalize (10 : Rat) ^ (-323 : Int) = p at *
      generalize (2 : Rat) ^ (-1074 : Int) = u at *
      linarith
  obtain ⟨y, hy, hagain⟩ := Option.map_eq_some_iff.mp (border_texts v.negative).2.1
  rw [result_of_scientific h hs, hshown, hpower]
  refine ⟨y, hy, ?_⟩
  rw [hagain]
  cases v.negative <;> decide

/-- **What is read back is shown as it was, unless its magnitude drifts.** -/
theorem result_reread_iff {x : Float} {v : Exact} (h : Exact.ofFloat? x = some v) :
    ∃ y, readNumber (result x) = .ok y ∧ (result y = result x ↔ ¬ Drifts v.magnitude) := by
  by_cases hd : Drifts v.magnitude
  · have hreread : ∃ y, readNumber? (result x) = some y ∧ result y ≠ result x := by
      rcases hd with ⟨hlow, hhigh⟩ | hhigh | heq
      · exact reread_low h hlow hhigh
      · exact reread_high h hhigh
      · exact reread_least h heq
    obtain ⟨y, hy, hne⟩ := hreread
    exact ⟨y, readNumber_of_readNumber? hy, iff_of_false hne (not_not.mpr hd)⟩
  · have hreread : ∃ y, readNumber? (result x) = some y ∧ result y = result x := by
      by_cases hs : Scientific v.magnitude
      · exact reread_scientific h hs hd
      · exact reread_fixed h hs
    obtain ⟨y, hy, heq⟩ := hreread
    exact ⟨y, readNumber_of_readNumber? hy, iff_of_true heq hd⟩

theorem result_reread_iff_million :
    Exact.ofFloat? scientificHigh = some ⟨false, 8589934592000000, -33⟩ ∧
      ∃ y, readNumber (result scientificHigh) = .ok y ∧
        (result y = result scientificHigh ↔
          ¬ Drifts (⟨false, 8589934592000000, -33⟩ : Exact).magnitude) :=
  ⟨ofFloat?_limits.2, result_reread_iff ofFloat?_limits.2⟩

/-- `9.999e-8` is shown as `1E-7`, which is read as a number that is shown as `0` -/
theorem result_below_border :
    (9.999e-8 : Float).isFinite = true ∧ result 9.999e-8 = "1E-7".toList ∧
      readNumber "1E-7".toList = .ok 1e-7 ∧ result 1e-7 = "0".toList := by
  decide +kernel

end PocketCalc.Format
