import PocketCalc.Proofs.Parts

/-!
# Rounding of significands

A significand that is cut short keeps two bits of what was cut off: the next bit, and whether
anything is behind it.  They tell how the cut-off number compares with one half, so rounding by them
is rounding the number itself.  What is computed exactly, or cut off no later than at the last place
of the nearest double, is therefore packed as the nearest double.

* `Approximates`                  what a significand with its two bits stands for;
* `Approximates.shiftRight`       shifting halves that;
* `Approximates.roundedMantissa`  rounding by the two bits is rounding to the nearest integer;
* `targetExponent_eq`             bits are cut off at the last place of the nearest double;
* `roundWithAccuracy_spec`        the rounded significand;
* `pack_roundWithAccuracy`        and the double that it is packed as.
-/

namespace PocketCalc
open Float.Model Float.Model.UnpackedFloat

/-! ## Significands cut short -/

/-- The number is the significand, half of a unit if the first bit behind it is set, and less than
another half, which is nothing if no other bit is. -/
def Approximates (a : ExtendedMantissa) (q : Rat) : Prop :=
  ∃ f : Rat, q = a.mantissa + (if a.roundBit then 1 / 2 else 0) + f ∧ 0 ≤ f ∧ f < 1 / 2 ∧
    (a.stickyBit = false ↔ f = 0)

theorem approximates_exact (m : Nat) :
    Approximates (ExtendedMantissa.ofMantissaAndAccuracy m .exact) m :=
  ⟨0, by simp [ExtendedMantissa.ofMantissaAndAccuracy], le_rfl, by norm_num, iff_of_true rfl rfl⟩

theorem Approximates.shiftRightOne {a : ExtendedMantissa} {q : Rat} (h : Approximates a q) :
    Approximates a.shiftRightOne (q / 2) := by
  obtain ⟨m, r, s⟩ := a
  obtain ⟨f, hq, hleast, hmost, hs⟩ := h
  dsimp only at hq hs
  have hm : (m : Rat) = 2 * (m / 2 : Nat) + (if m % 2 != 0 then 1 else 0) := by
    rcases Nat.mod_two_eq_zero_or_one m with hmod | hmod
    · have hsplit : m = 2 * (m / 2) := by omega
      rw [hmod]
      exact_mod_cast hsplit
    · have hsplit : m = 2 * (m / 2) + 1 := by omega
      rw [hmod]
      exact_mod_cast hsplit
  refine ⟨((if r then 1 / 2 else 0) + f) / 2, ?_, ?_, ?_, ?_⟩
  · show q / 2 = (m / 2 : Nat) + (if m % 2 != 0 then 1 / 2 else 0) + _
    rw [hq, hm]
    split <;> ring
  · split <;> linarith
  · split <;> linarith
  · show (r || s) = false ↔ _
    cases r with
    | false => simpa using hs
    | true => exact iff_of_false Bool.noConfusion (by rw [if_pos rfl]; linarith)

theorem Approximates.shiftRight {a : ExtendedMantissa} {q : Rat} (h : Approximates a q) (n : Nat) :
    Approximates (a >>> n) (q / 2 ^ n) := by
  show Approximates (n.repeat ExtendedMantissa.shiftRightOne a) _
  induction n with
  | zero =>
    rw [pow_zero, div_one]
    exact h
  | succ n ih =>
    rw [pow_succ, ← div_div]
    exact ih.shiftRightOne

/-- **Rounding by the two bits is rounding to the nearest integer.** -/
theorem Approximates.roundedMantissa {a : ExtendedMantissa} {q : Rat} (h : Approximates a q) :
    roundHalfEven q = a.roundedMantissa := by
  obtain ⟨m, r, s⟩ := a
  obtain ⟨f, rfl, hleast, hmost, hs⟩ := h
  rw [roundHalfEven_eq_iff]
  cases r with
  | false =>
    have hrounded : (⟨m, false, s⟩ : ExtendedMantissa).roundedMantissa = m := by cases s <;> rfl
    left
    rw [hrounded, if_neg Bool.false_ne_true, add_zero, Int.cast_natCast, add_sub_cancel_left,
      abs_of_nonneg hleast]
    exact hmost
  | true =>
    have hsplit : ∀ n : Rat, m + (if true then 1 / 2 else 0) + f - (m + n) = 1 / 2 + f - n := by
      intro n
      rw [if_pos rfl]
      ring
    cases s with
    | false =>
      -- half way the significand is made even
      have hf : f = 0 := hs.mp rfl
      have hrounded : (⟨m, true, false⟩ : ExtendedMantissa).roundedMantissa = m + m % 2 := rfl
      have heven : ((m + m % 2 : Nat) : Int) % 2 = 0 := by omega
      right
      refine ⟨?_, by rw [hrounded]; exact heven⟩
      rw [hrounded, Int.cast_natCast, Nat.cast_add, hsplit, hf]
      rcases Nat.mod_two_eq_zero_or_one m with hmod | hmod <;> rw [hmod] <;> norm_num
    | true =>
      have hpos : f ≠ 0 := fun hzero => Bool.noConfusion (hs.mpr hzero)
      have hpos : 0 < f := lt_of_le_of_ne hleast hpos.symm
      have hrounded : (⟨m, true, true⟩ : ExtendedMantissa).roundedMantissa = m + 1 := rfl
      left
      rw [hrounded, Int.cast_natCast, Nat.cast_add, hsplit, Nat.cast_one,
        abs_of_nonpos (by linarith)]
      linarith

/-! ## Where bits are cut off -/

theorem targetExponent_binary64 (t : Int) :
    Format.binary64.targetExponent t = max (t - 53) (-1074) :=
  rfl

/-- bits are cut off at the last place of the nearest double -/
theorem targetExponent_eq {m : Nat} {e : Int} {q : Rat} (hq : 0 < q) (hleast : m * 2 ^ e ≤ q)
    (hmost : q < (m + 1) * 2 ^ e) (he : m = 0 → e ≤ lastPlace q) :
    Format.binary64.targetExponent (totalExponent m e) = lastPlace q := by
  have hpow : (0 : Rat) < 2 ^ e := by positivity
  rw [targetExponent_binary64]
  unfold totalExponent lastPlace
  by_cases hm : m = 0
  · have horder : ¬ e ≤ binaryOrder q := by
      rw [le_binaryOrder_iff hq, not_le]
      rwa [hm, Nat.cast_zero, zero_add, one_mul] at hmost
    have he := he hm
    unfold lastPlace at he
    have hlog : m.log2 = 0 := by rw [hm]; rfl
    omega
  · have hlow : m.log2 + e ≤ binaryOrder q := by
      rw [le_binaryOrder_iff hq]
      calc (2 : Rat) ^ (m.log2 + e) = 2 ^ (m.log2 : Int) * 2 ^ e := zpow_add₀ (by norm_num) _ _
        _ ≤ m * 2 ^ e := mul_le_mul_of_nonneg_right (two_zpow_log2_le hm) hpow.le
        _ ≤ q := hleast
    have hhigh : ¬ m.log2 + 1 + e ≤ binaryOrder q := by
      rw [le_binaryOrder_iff hq, not_le]
      have hsucc : (m + 1 : Rat) ≤ 2 ^ ((m.log2 : Int) + 1) := by
        have hlt : m < 2 ^ (m.log2 + 1) := Nat.lt_log2_self
        exact_mod_cast Nat.succ_le_of_lt hlt
      calc q < (m + 1) * 2 ^ e := hmost
        _ ≤ 2 ^ ((m.log2 : Int) + 1) * 2 ^ e := mul_le_mul_of_nonneg_right hsucc hpow.le
        _ = 2 ^ (m.log2 + 1 + e) := (zpow_add₀ (by norm_num) _ _).symm
    omega

/-! ## The rounded significand -/

theorem Approximates.bounds {m : Nat} {a : Accuracy} {q : Rat}
    (h : Approximates (ExtendedMantissa.ofMantissaAndAccuracy m a) q) :
    (m : Rat) ≤ q ∧ q < m + 1 := by
  have hm : (ExtendedMantissa.ofMantissaAndAccuracy m a).mantissa = m := by
    cases a with
    | exact => rfl
    | inexact o => cases o <;> rfl
  obtain ⟨f, rfl, hleast, hmost, -⟩ := h
  rw [hm]
  constructor <;> split <;> linarith

/-- the first shift leaves the bits up to the last place -/
theorem shiftToTargetExponent_lastPlace {m : Nat} {e : Int} {a : Accuracy} {q : Rat} (hq : 0 < q)
    (h : Approximates (ExtendedMantissa.ofMantissaAndAccuracy m a) (q / 2 ^ e))
    (he : e ≤ lastPlace q) :
    ∃ b, shiftToTargetExponent Format.binary64 m e a = (b, lastPlace q) ∧
      Approximates b (q / 2 ^ lastPlace q) := by
  have hpow : (0 : Rat) < 2 ^ e := by positivity
  obtain ⟨hleast, hmost⟩ := h.bounds
  rw [le_div_iff₀ hpow] at hleast
  rw [div_lt_iff₀ hpow] at hmost
  have htarget := targetExponent_eq hq hleast hmost fun _ => he
  have hplace : e + ((lastPlace q - e).toNat : Int) = lastPlace q := by omega
  refine ⟨ExtendedMantissa.ofMantissaAndAccuracy m a >>> (lastPlace q - e).toNat, ?_, ?_⟩
  · unfold shiftToTargetExponent shiftToExponent
    rw [htarget]
    exact congrArg _ hplace
  · have hshift := h.shiftRight (lastPlace q - e).toNat
    rwa [div_div, ← zpow_natCast, ← zpow_add₀ (by norm_num), hplace] at hshift

/-- the second shift takes back the carry into a bit too many -/
theorem shiftToTargetExponent_carry {r : Nat} {t : Int} (hr : r ≤ 2 ^ 53) (ht : -1074 ≤ t)
    (hfull : t ≠ -1074 → 2 ^ 52 ≤ r) :
    ∃ m e, shiftToTargetExponent Format.binary64 r t .exact =
        (ExtendedMantissa.ofMantissaAndAccuracy m .exact, e) ∧
      IsCanonical m e ∧ (m : Rat) * 2 ^ e = r * 2 ^ t := by
  rcases hr.lt_or_eq with hr | rfl
  · have hlog : r.log2 ≤ 52 := log2_le_of_lt hr
    refine ⟨r, t, ?_, ⟨hr, ht, or_iff_not_imp_left.mpr hfull⟩, rfl⟩
    rw [shiftToTargetExponent_eq r t 0 (by omega)]
    exact congrArg _ (Int.add_zero t)
  · have hlog : (2 ^ 53 : Nat).log2 = 53 := Nat.log2_two_pow
    refine ⟨2 ^ 52, t + 1, ?_, ⟨by decide, by omega, .inr le_rfl⟩, ?_⟩
    · rw [shiftToTargetExponent_eq _ t 1 (by omega)]
      exact congrArg (·, t + 1) (shiftRight_two_pow_mul (2 ^ 52) 1)
    · rw [zpow_add_one₀ (by norm_num)]
      push_cast
      ring

/-- **What is rounded has the magnitude of the nearest double**, were there no largest one. -/
theorem roundWithAccuracy_spec (s : Sign) {m : Nat} {e : Int} {a : Accuracy} {q : Rat} (hq : 0 < q)
    (h : Approximates (ExtendedMantissa.ofMantissaAndAccuracy m a) (q / 2 ^ e))
    (he : e ≤ lastPlace q) :
    (roundWithAccuracy Format.binary64 s m e a = .zero s ∧ roundedMagnitude q = 0) ∨
      ∃ m' e' hm', roundWithAccuracy Format.binary64 s m e a = .finite s m' e' hm' ∧
        IsCanonical m' e' ∧ (m' : Rat) * 2 ^ e' = roundedMagnitude q := by
  obtain ⟨b, hfirst, hb⟩ := shiftToTargetExponent_lastPlace hq h he
  have hround := hb.roundedMantissa
  have hmost := roundHalfEven_lastPlace_le hq
  have hfull := le_roundHalfEven_lastPlace hq
  rw [hround] at hmost hfull
  obtain ⟨m', e', hsecond, hcanonical, hvalue⟩ := shiftToTargetExponent_carry
    (r := b.roundedMantissa) (by exact_mod_cast hmost) (neg_le_lastPlace q)
    (fun hplace => by exact_mod_cast hfull hplace)
  have hmagnitude : (m' : Rat) * 2 ^ e' = roundedMagnitude q := by
    rw [roundedMagnitude, hround, Int.cast_natCast]
    exact hvalue
  have hresult : roundWithAccuracy Format.binary64 s m e a =
      if hm' : m' = 0 then .zero s else .finite s m' e' (Nat.pos_of_ne_zero hm') := by
    unfold roundWithAccuracy
    simp only [hfirst, hsecond]
    rfl
  by_cases hm' : m' = 0
  · rw [dif_pos hm'] at hresult
    rw [hm', Nat.cast_zero, zero_mul] at hmagnitude
    exact .inl ⟨hresult, hmagnitude.symm⟩
  · rw [dif_neg hm'] at hresult
    exact .inr ⟨m', e', _, hresult, hcanonical, hmagnitude⟩

/-! ## Packing -/

/-- what is rounded to infinity is rounded to a magnitude that is too large for a double -/
theorem le_roundedMagnitude_of_overflow {q : Rat} (h : overflowAt ≤ q) :
    2 ^ (1024 : Int) ≤ roundedMagnitude q := by
  have hlow := overflowAt_bounds.1
  have hq : 0 < q := lt_of_lt_of_le (by positivity) (hlow.trans h)
  by_cases hlarge : 2 ^ (1024 : Int) ≤ q
  · exact le_roundedMagnitude hq.le ⟨1, 1024, by norm_num, by norm_num, (one_mul _).symm⟩ hlarge
  have hplace : lastPlace q = 971 := by
    have hleast := (le_binaryOrder_iff hq).mpr (hlow.trans h)
    have hmost := mt (le_binaryOrder_iff hq).mp hlarge
    unfold lastPlace
    omega
  have hround : 2 ^ 53 ≤ roundHalfEven (q / 2 ^ (971 : Int)) := by
    rw [le_roundHalfEven_iff (by decide), le_div_iff₀ (by positivity)]
    rwa [Int.cast_pow, Int.cast_ofNat, ← overflowAt_eq]
  have hcast : (2 ^ 53 : Rat) ≤ roundHalfEven (q / 2 ^ (971 : Int)) := by exact_mod_cast hround
  rw [roundedMagnitude, hplace]
  calc (2 : Rat) ^ (1024 : Int) = 2 ^ 53 * 2 ^ (971 : Int) := by
        rw [← zpow_natCast, ← zpow_add₀ (by norm_num)]
        rfl
    _ ≤ roundHalfEven (q / 2 ^ (971 : Int)) * 2 ^ (971 : Int) :=
      mul_le_mul_of_nonneg_right hcast (by positivity)

theorem pack_infinity (s : Sign) :
    Float.ofModel (Float.Model.pack (.infinity s)) = signed (s == .negative) infinity := by
  cases s <;> rfl

/-- **What is rounded is packed as the nearest double**, infinity included. -/
theorem pack_roundWithAccuracy (s : Sign) {m : Nat} {e : Int} {a : Accuracy} {q : Rat} (hq : 0 < q)
    (h : Approximates (ExtendedMantissa.ofMantissaAndAccuracy m a) (q / 2 ^ e))
    (he : e ≤ lastPlace q) :
    Float.ofModel (Float.Model.pack (roundWithAccuracy Format.binary64 s m e a)) =
      nearest (s == .negative) q := by
  have hspec := roundWithAccuracy_spec s hq h he
  generalize roundWithAccuracy Format.binary64 s m e a = f at hspec
  by_cases hfinite : q < overflowAt
  · -- the nearest double is unpacked into the same parts
    obtain ⟨v, hv, hsign, hmagnitude⟩ := ofFloat?_nearest (s == .negative) hq.le hfinite
    have hunpack : (nearest (s == .negative) q).toModel.unpack = f := by
      rcases hspec with ⟨rfl, hzero⟩ | ⟨m', e', hm', rfl, hcanonical, hvalue⟩
      · exact unpack_eq_zero hv hsign (hmagnitude.trans hzero)
      · exact unpack_eq_finite hv hsign hcanonical (hmagnitude.trans hvalue.symm)
    rw [← hunpack, pack_unpack_model]
  · rw [not_lt] at hfinite
    have hlarge := le_roundedMagnitude_of_overflow hfinite
    rcases hspec with ⟨-, hzero⟩ | ⟨m', e', hm', rfl, hcanonical, hvalue⟩
    · rw [hzero] at hlarge
      exact absurd hlarge (not_le.mpr (by positivity))
    · have hexponent : 972 ≤ e' := by
        by_contra hsmall
        have hm : (m' : Rat) < 2 ^ 53 := by exact_mod_cast hcanonical.1
        have hlt : (m' : Rat) * 2 ^ e' < 2 ^ (1024 : Int) :=
          calc (m' : Rat) * 2 ^ e' < 2 ^ 53 * 2 ^ e' := mul_lt_mul_of_pos_right hm (by positivity)
            _ = 2 ^ (53 + e') := by rw [zpow_add₀ (by norm_num)]; norm_cast
            _ ≤ 2 ^ (1024 : Int) := zpow_le_zpow_right₀ (by norm_num) (by omega)
        rw [hvalue] at hlt
        exact absurd hlarge (not_le.mpr hlt)
      rw [pack_of_overflow hexponent, pack_infinity, nearest_eq_infinity _ hfinite]

end PocketCalc
