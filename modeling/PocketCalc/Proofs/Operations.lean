import PocketCalc.Arithmetic.Operator
import PocketCalc.Proofs.SignificandRounding

/-!
# The operations are correctly rounded

The sum, the difference, the product and the quotient of two finite doubles are the double nearest
to the exact one, an infinity if that is too large.  Only a result of zero has a sign of its own.

* `IsRounded`                    the double nearest to a number, a zero of either sign for zero;
* `IsRounded.isFinite_iff`       it is finite unless the number is too large;
* `pack_round`                   an exact significand is rounded to the nearest double;
* `isRounded_add`, `isRounded_sub`, `isRounded_mul`, `isRounded_div`   the operations;
* `Operator.isRounded_apply`     one statement for the four of them.
-/

namespace PocketCalc
open Float.Model Float.Model.UnpackedFloat

/-! ## Rounded numbers -/

/-- the double nearest to a number, a zero of either sign for zero -/
def IsRounded (x : Float) (q : Rat) : Prop :=
  if q = 0 then x = 0 ∨ x = -0 else x = nearestRat q

/-- a number from its sign and its magnitude -/
def signedRat (negative : Bool) (q : Rat) : Rat := if negative then -q else q

theorem rat_abs_eq (q : Rat) : q.abs = |q| := by
  unfold Rat.abs
  split
  · rename_i h
    exact (abs_of_nonneg h).symm
  · rename_i h
    exact (abs_of_neg (not_le.mp h)).symm

theorem nearestRat_signedRat (b : Bool) {q : Rat} (hq : 0 < q) :
    nearestRat (signedRat b q) = nearest b q := by
  unfold nearestRat signedRat
  rw [rat_abs_eq]
  cases b with
  | false =>
    rw [if_neg Bool.false_ne_true, abs_of_pos hq, decide_eq_false (not_lt.mpr hq.le)]
  | true =>
    rw [if_pos rfl, abs_neg, abs_of_pos hq, decide_eq_true (neg_neg_of_pos hq)]

theorem signedRat_ne_zero (b : Bool) {q : Rat} (hq : 0 < q) : signedRat b q ≠ 0 := by
  unfold signedRat
  split
  · exact (neg_neg_of_pos hq).ne
  · exact hq.ne'

theorem isRounded_nearest (b : Bool) {q : Rat} (hq : 0 < q) :
    IsRounded (nearest b q) (signedRat b q) := by
  rw [IsRounded, if_neg (signedRat_ne_zero b hq), nearestRat_signedRat b hq]

theorem isRounded_zero (s : Sign) : IsRounded (Float.ofModel (Float.Model.pack (.zero s))) 0 := by
  rw [IsRounded, if_pos rfl]
  cases s with
  | positive => exact .inl rfl
  | negative => exact .inr rfl

/-- a finite double is the nearest one to what it denotes -/
theorem isRounded_value {x : Float} {v : Exact} (h : Exact.ofFloat? x = some v) :
    IsRounded x v.value := by
  rcases v.magnitude_nonneg.lt_or_eq with hpos | hzero
  · have hround := isRounded_nearest v.negative hpos
    rw [nearest_magnitude h] at hround
    exact hround
  · rw [IsRounded, if_pos (Exact.value_eq_zero hzero.symm)]
    exact eq_zero_of_magnitude_eq_zero h hzero.symm

/-- **What is rounded is finite unless the number is too large.** -/
theorem IsRounded.isFinite_iff {x : Float} {q : Rat} (h : IsRounded x q) :
    x.isFinite = true ↔ |q| < overflowAt := by
  unfold IsRounded at h
  split at h
  · rename_i hzero
    refine iff_of_true (by rcases h with rfl | rfl <;> decide) ?_
    rw [hzero, abs_zero]
    exact lt_of_lt_of_le (by positivity) overflowAt_bounds.1
  · rw [h, nearestRat, rat_abs_eq]
    exact isFinite_nearest_iff _ (abs_nonneg q)

theorem IsRounded.isNaN {x : Float} {q : Rat} (h : IsRounded x q) : x.isNaN = false := by
  unfold IsRounded at h
  split at h
  · rcases h with rfl | rfl <;> decide
  · rw [h, nearestRat, rat_abs_eq]
    exact isNaN_nearest _ (abs_nonneg q)

/-! ## Exact significands -/

theorem decreaseExponent_exponent (m : Nat) (e t : Int) : (decreaseExponent m e t).2 = min e t := by
  unfold decreaseExponent
  dsimp only
  omega

theorem decreaseExponent_value (m : Nat) (e t : Int) :
    ((decreaseExponent m e t).1 : Rat) * 2 ^ min e t = m * 2 ^ e := by
  have hmin : min e t = e - ((e - t).toNat : Int) := by omega
  unfold decreaseExponent
  dsimp only
  rw [Nat.shiftLeft_eq, Nat.cast_mul, Nat.cast_pow, Nat.cast_ofNat, mul_assoc, hmin, ← zpow_natCast,
    ← zpow_add₀ (by norm_num), add_sub_cancel]

/-- an exact significand is rounded to the nearest double -/
theorem pack_round (s : Sign) {m : Nat} (hm : 0 < m) (e : Int) :
    Float.ofModel (Float.Model.pack (UnpackedFloat.round Format.binary64 s m e)) =
      nearest (s == .negative) (m * 2 ^ e) := by
  have hcast : (0 : Rat) < m := by exact_mod_cast hm
  have hq : (0 : Rat) < m * 2 ^ e := by positivity
  have htarget : Format.binary64.targetExponent (totalExponent m e) = lastPlace (m * 2 ^ e) :=
    targetExponent_eq hq le_rfl (mul_lt_mul_of_pos_right (lt_add_one _) (by positivity))
      fun hzero => absurd hzero hm.ne'
  have hexponent := decreaseExponent_exponent m e (lastPlace (m * 2 ^ e))
  have hvalue := decreaseExponent_value m e (lastPlace (m * 2 ^ e))
  unfold UnpackedFloat.round
  dsimp only
  rw [htarget]
  generalize (m * 2 ^ e : Rat) = q at *
  generalize decreaseExponent m e (lastPlace q) = r at *
  have hexact : q / 2 ^ r.2 = r.1 := by
    rw [div_eq_iff (by positivity), hexponent, hvalue]
  refine pack_roundWithAccuracy s hq ?_ (hexponent.trans_le (min_le_right _ _))
  rw [hexact]
  exact approximates_exact r.1

/-- and so is one with its sign -/
theorem isRounded_normalize (n : Int) (e : Int) (z : Sign) :
    IsRounded (Float.ofModel (Float.Model.pack (UnpackedFloat.normalize Format.binary64 n e z)))
      (n * 2 ^ e) := by
  have hpow : (0 : Rat) < 2 ^ e := by positivity
  unfold UnpackedFloat.normalize
  rcases lt_trichotomy n 0 with hn | rfl | hn
  · have hvalue : (n * 2 ^ e : Rat) = signedRat true ((-n).toNat * 2 ^ e) := by
      have hcast : ((-n).toNat : Rat) = -n := by
        rw [← Int.cast_natCast, Int.toNat_of_nonneg (by omega), Int.cast_neg]
      rw [hcast, signedRat, if_pos rfl]
      ring
    have hpos : 0 < (-n).toNat := by omega
    have hcast : (0 : Rat) < (-n).toNat := by exact_mod_cast hpos
    rw [compare_lt_iff_lt.mpr hn, hvalue]
    simp only
    rw [pack_round .negative hpos]
    exact isRounded_nearest true (by positivity)
  · rw [compare_eq_iff_eq.mpr rfl, Int.cast_zero, zero_mul]
    exact isRounded_zero z
  · have hvalue : (n * 2 ^ e : Rat) = signedRat false (n.toNat * 2 ^ e) := by
      have hcast : (n.toNat : Rat) = n := by
        rw [← Int.cast_natCast, Int.toNat_of_nonneg hn.le]
      rw [hcast]
      rfl
    have hpos : 0 < n.toNat := by omega
    have hcast : (0 : Rat) < n.toNat := by exact_mod_cast hpos
    rw [compare_gt_iff_gt.mpr hn, hvalue]
    simp only
    rw [pack_round .positive hpos]
    exact isRounded_nearest false (by positivity)

/-! ## Sums and differences -/

theorem signedRat_apply (s : Sign) (m : Nat) :
    ((s.apply m : Int) : Rat) = signedRat (s == .negative) m := by
  cases s with
  | negative => exact Int.cast_neg _
  | positive => rfl

theorem signedRat_mul (b : Bool) (q r : Rat) : signedRat b (q * r) = signedRat b q * r := by
  unfold signedRat
  split
  · exact (neg_mul q r).symm
  · rfl

theorem pack_unpack (x : Float) : Float.ofModel (Float.Model.pack x.toModel.unpack) = x :=
  congrArg Float.ofModel (pack_unpack_model x.toModel)

theorem isRounded_add {x y : Float} {v w : Exact} (hv : Exact.ofFloat? x = some v)
    (hw : Exact.ofFloat? y = some w) : IsRounded (x + y) (v.value + w.value) := by
  have hxv := isRounded_value hv
  have hyw := isRounded_value hw
  show IsRounded (Float.ofModel (Float.Model.pack
    (UnpackedFloat.add Format.binary64 x.toModel.unpack y.toModel.unpack))) _
  rcases parts_of_ofFloat? hv with ⟨s, hx, rfl⟩ | ⟨s, m, e, hm, hx, -, rfl⟩ <;>
    rcases parts_of_ofFloat? hw with ⟨t, hy, rfl⟩ | ⟨t, m', e', hm', hy, -, rfl⟩
  · rw [hx, hy, Exact.value_eq_zero (Exact.magnitude_zero _ _),
      Exact.value_eq_zero (Exact.magnitude_zero _ _), add_zero]
    cases s <;> cases t <;> exact isRounded_zero _
  · have hsum : UnpackedFloat.add Format.binary64 x.toModel.unpack y.toModel.unpack =
        y.toModel.unpack := by
      rw [hx, hy]
      rfl
    rw [hsum, pack_unpack, Exact.value_eq_zero (Exact.magnitude_zero _ _), zero_add]
    exact hyw
  · have hsum : UnpackedFloat.add Format.binary64 x.toModel.unpack y.toModel.unpack =
        x.toModel.unpack := by
      rw [hx, hy]
      rfl
    rw [hsum, pack_unpack, Exact.value_eq_zero (Exact.magnitude_zero (t == .negative) _), add_zero]
    exact hxv
  · have hleft := decreaseExponent_value m e (min e e')
    have hright := decreaseExponent_value m' e' (min e e')
    have hsum := isRounded_normalize (s.apply (decreaseExponent m e (min e e')).1 +
      t.apply (decreaseExponent m' e' (min e e')).1) (min e e') .positive
    rw [min_eq_right (min_le_left e e')] at hleft
    rw [min_eq_right (min_le_right e e')] at hright
    rw [Int.cast_add, signedRat_apply, signedRat_apply, add_mul, ← signedRat_mul, ← signedRat_mul,
      hleft, hright] at hsum
    rw [hx, hy]
    exact hsum

theorem sign_apply_neg (s : Sign) (n : Int) : (-s).apply n = -s.apply n := by
  cases s with
  | negative => exact (neg_neg n).symm
  | positive => rfl

/-- a difference is the sum with the other sign, zeros, infinities and NaN included -/
theorem unpacked_sub (f g : UnpackedFloat) :
    UnpackedFloat.sub Format.binary64 f g = UnpackedFloat.add Format.binary64 f g.neg := by
  cases f <;> cases g <;>
    simp only [UnpackedFloat.sub, UnpackedFloat.add, UnpackedFloat.neg, sign_apply_neg,
      sub_eq_add_neg]

theorem float_sub_eq (x y : Float) : x - y = x + -y := by
  show Float.ofModel (Float.Model.pack
    (UnpackedFloat.sub Format.binary64 x.toModel.unpack y.toModel.unpack)) =
      Float.ofModel (Float.Model.pack
        (UnpackedFloat.add Format.binary64 x.toModel.unpack (-y).toModel.unpack))
  rw [unpacked_sub, unpack_neg]

theorem value_neg (w : Exact) : { w with negative := !w.negative }.value = -w.value := by
  unfold Exact.value
  cases w.negative with
  | false => rfl
  | true => exact (neg_neg _).symm

theorem isRounded_sub {x y : Float} {v w : Exact} (hv : Exact.ofFloat? x = some v)
    (hw : Exact.ofFloat? y = some w) : IsRounded (x - y) (v.value - w.value) := by
  rw [float_sub_eq, sub_eq_add_neg, ← value_neg]
  exact isRounded_add hv (ofFloat?_neg hw)

/-! ## Products and quotients -/

theorem signedRat_mul_signedRat (s t : Sign) (q r : Rat) :
    signedRat (s == .negative) q * signedRat (t == .negative) r =
      signedRat (s * t == .negative) (q * r) := by
  cases s <;> cases t
  · exact neg_mul_neg q r
  · exact neg_mul q r
  · exact mul_neg q r
  · rfl

theorem signedRat_div_signedRat (s t : Sign) (q r : Rat) :
    signedRat (s == .negative) q / signedRat (t == .negative) r =
      signedRat (s / t == .negative) (q / r) := by
  cases s <;> cases t
  · exact neg_div_neg_eq q r
  · exact neg_div r q
  · exact div_neg q
  · rfl

/-- no bits of a product are below its last place that are not computed -/
theorem mul_exponent_le {m m' : Nat} {e e' : Int} (hm : 0 < m) (hm' : 0 < m')
    (h : IsCanonical m e) (h' : IsCanonical m' e') :
    e + e' ≤ lastPlace ((m * m' : Nat) * 2 ^ (e + e')) := by
  have hprod : 0 < m * m' := Nat.mul_pos hm hm'
  have hcast : (0 : Rat) < (m * m' : Nat) := by exact_mod_cast hprod
  apply le_lastPlace (by positivity)
  by_cases hlarge : 2 ^ 52 ≤ m * m'
  · left
    have hlarge : (2 : Rat) ^ 52 ≤ (m * m' : Nat) := by exact_mod_cast hlarge
    rw [zpow_add₀ (by norm_num)]
    exact mul_le_mul_of_nonneg_right hlarge (by positivity)
  · right
    have hleft : m ≤ m * m' := Nat.le_mul_of_pos_right m hm'
    have hright : m' ≤ m * m' := Nat.le_mul_of_pos_left m' hm
    have he := h.2.2.resolve_right (by omega)
    have he' := h'.2.2.resolve_right (by omega)
    omega

theorem isRounded_mul {x y : Float} {v w : Exact} (hv : Exact.ofFloat? x = some v)
    (hw : Exact.ofFloat? y = some w) : IsRounded (x * y) (v.value * w.value) := by
  show IsRounded (Float.ofModel (Float.Model.pack
    (UnpackedFloat.mul Format.binary64 x.toModel.unpack y.toModel.unpack))) _
  rcases parts_of_ofFloat? hv with ⟨s, hx, rfl⟩ | ⟨s, m, e, hm, hx, hcanonical, rfl⟩
  · rw [Exact.value_eq_zero (Exact.magnitude_zero _ _), zero_mul, hx]
    rcases parts_of_ofFloat? hw with ⟨t, hy, -⟩ | ⟨t, m', e', hm', hy, -⟩ <;> rw [hy] <;>
      exact isRounded_zero _
  rcases parts_of_ofFloat? hw with ⟨t, hy, rfl⟩ | ⟨t, m', e', hm', hy, hcanonical', rfl⟩
  · rw [Exact.value_eq_zero (Exact.magnitude_zero (t == .negative) _), mul_zero, hx, hy]
    exact isRounded_zero _
  · have hprod : 0 < m * m' := Nat.mul_pos hm hm'
    have hcast : (0 : Rat) < (m * m' : Nat) := by exact_mod_cast hprod
    have hpos : (0 : Rat) < (m * m' : Nat) * 2 ^ (e + e') := by positivity
    have hvalue : (m * 2 ^ e * (m' * 2 ^ e') : Rat) = (m * m' : Nat) * 2 ^ (e + e') := by
      rw [zpow_add₀ (by norm_num)]
      push_cast
      ring
    have hexact : ((m * m' : Nat) * 2 ^ (e + e') : Rat) / 2 ^ (e + e') = (m * m' : Nat) :=
      mul_div_cancel_right₀ _ (by positivity)
    have hround := pack_roundWithAccuracy (s * t) (a := .exact) hpos
      (by rw [hexact]; exact approximates_exact _) (mul_exponent_le hm hm' hcanonical hcanonical')
    have hproduct := isRounded_nearest (s * t == .negative) hpos
    rw [← hround, ← hvalue, ← signedRat_mul_signedRat] at hproduct
    rw [hx, hy]
    exact hproduct

/-- what is left over by a division says how the quotient goes on -/
theorem approximates_div (m : Nat) {n : Nat} (hn : 0 < n) :
    Approximates (ExtendedMantissa.ofMantissaAndAccuracy (m / n) (accuracyOfFraction (m % n) n))
      ((m : Rat) / n) := by
  have hcast : (0 : Rat) < n := by exact_mod_cast hn
  have hsplit : (m : Rat) / n = (m / n : Nat) + ((m % n : Nat) : Rat) / n := by
    have hdiv : (m : Rat) = (n * (m / n) + m % n : Nat) := by rw [Nat.div_add_mod]
    rw [hdiv, Nat.cast_add, Nat.cast_mul, add_div, mul_div_cancel_left₀ _ hcast.ne']
  have hrest := Nat.mod_lt m hn
  rw [hsplit]
  generalize m / n = d
  generalize m % n = r at hrest
  have hfraction : (r : Rat) / n < 1 := by
    rw [div_lt_one hcast]
    exact_mod_cast hrest
  unfold accuracyOfFraction
  split
  · rename_i hzero
    rw [hzero, Nat.cast_zero, zero_div, add_zero]
    exact approximates_exact d
  · rename_i hne
    have hpos : (0 : Rat) < r / n := by
      have hr : (0 : Rat) < r := by exact_mod_cast Nat.pos_of_ne_zero hne
      positivity
    rcases lt_trichotomy (2 * r) n with hlt | heq | hgt
    · have hhalf : (r : Rat) / n < 1 / 2 := by
        rw [div_lt_div_iff₀ hcast (by norm_num)]
        exact_mod_cast (by omega : r * 2 < 1 * n)
      rw [compare_lt_iff_lt.mpr hlt]
      exact ⟨r / n, congrArg (· + _) (add_zero _).symm, hpos.le, hhalf,
        iff_of_false Bool.noConfusion hpos.ne'⟩
    · have hhalf : (r : Rat) / n = 1 / 2 := by
        rw [div_eq_div_iff hcast.ne' (by norm_num)]
        exact_mod_cast (by omega : r * 2 = 1 * n)
      rw [compare_eq_iff_eq.mpr heq, hhalf]
      exact ⟨0, (add_zero _).symm, le_rfl, by norm_num, iff_of_true rfl rfl⟩
    · have hhalf : (1 : Rat) / 2 < r / n := by
        rw [div_lt_div_iff₀ (by norm_num) hcast]
        exact_mod_cast (by omega : 1 * n < r * 2)
      rw [compare_gt_iff_gt.mpr hgt]
      refine ⟨r / n - 1 / 2, ?_, by linarith, by linarith, iff_of_false Bool.noConfusion ?_⟩
      · show (d : Rat) + r / n = d + 1 / 2 + (r / n - 1 / 2)
        ring
      · linarith

/-- the quotient is computed up to its last place, or further -/
theorem divCore_spec {m m' : Nat} (e e' : Int) (hm : 0 < m) (hm' : 0 < m') :
    ∃ n k, divCore Format.binary64 m e m' e' = (n / m', k, accuracyOfFraction (n % m') m') ∧
      (m * 2 ^ e : Rat) / (m' * 2 ^ e') / 2 ^ k = n / m' ∧
      k ≤ lastPlace (m * 2 ^ e / (m' * 2 ^ e')) := by
  have hcast : (0 : Rat) < m := by exact_mod_cast hm
  have hcast' : (0 : Rat) < m' := by exact_mod_cast hm'
  have hpos : (0 : Rat) < m * 2 ^ e / (m' * 2 ^ e') := by positivity
  have horder : m.log2 + e - (m'.log2 + 1 + e') ≤ binaryOrder (m * 2 ^ e / (m' * 2 ^ e')) := by
    rw [le_binaryOrder_iff hpos, zpow_sub₀ (by norm_num), zpow_add₀ (by norm_num) (m.log2 : Int),
      zpow_add₀ (by norm_num) ((m'.log2 : Int) + 1)]
    exact div_le_div₀ (by positivity)
      (mul_le_mul_of_nonneg_right (two_zpow_log2_le hm.ne') (by positivity)) (by positivity)
      (mul_le_mul_of_nonneg_right (lt_two_zpow_log2 m').le (by positivity))
  have htarget := targetExponent_binary64 (totalExponent m e - totalExponent m' e')
  generalize hk : min (e - e')
    (Format.binary64.targetExponent (totalExponent m e - totalExponent m' e')) = k
  unfold totalExponent at htarget
  refine ⟨m <<< (e - e' - k).toNat, k, ?_, ?_, ?_⟩
  · unfold divCore
    rw [hk]
  · have hshift : e - e' = ((e - e' - k).toNat : Int) + k := by omega
    have hpower : (2 : Rat) ^ e = 2 ^ (e - e' - k).toNat * 2 ^ k * 2 ^ e' := by
      rw [← zpow_natCast, ← zpow_add₀ (by norm_num), ← zpow_add₀ (by norm_num), ← hshift,
        sub_add_cancel]
    rw [Nat.shiftLeft_eq, Nat.cast_mul, Nat.cast_pow, Nat.cast_ofNat, hpower]
    field_simp
  · unfold totalExponent at hk
    unfold lastPlace
    omega

theorem isRounded_div {x y : Float} {v w : Exact} (hv : Exact.ofFloat? x = some v)
    (hw : Exact.ofFloat? y = some w) (hne : w.magnitude ≠ 0) :
    IsRounded (x / y) (v.value / w.value) := by
  show IsRounded (Float.ofModel (Float.Model.pack
    (UnpackedFloat.div Format.binary64 x.toModel.unpack y.toModel.unpack))) _
  rcases parts_of_ofFloat? hw with ⟨t, hy, rfl⟩ | ⟨t, m', e', hm', hy, -, rfl⟩
  · exact absurd (Exact.magnitude_zero _ _) hne
  rcases parts_of_ofFloat? hv with ⟨s, hx, rfl⟩ | ⟨s, m, e, hm, hx, -, rfl⟩
  · rw [Exact.value_eq_zero (Exact.magnitude_zero (s == .negative) _), zero_div, hx, hy]
    exact isRounded_zero _
  · have hcast : (0 : Rat) < m := by exact_mod_cast hm
    have hcast' : (0 : Rat) < m' := by exact_mod_cast hm'
    have hpos : (0 : Rat) < m * 2 ^ e / (m' * 2 ^ e') := by positivity
    obtain ⟨n, k, hdiv, hvalue, hk⟩ := divCore_spec e e' hm hm'
    have hround := pack_roundWithAccuracy (s / t) hpos
      (by rw [hvalue]; exact approximates_div n hm') hk
    have hquotient := isRounded_nearest (s / t == .negative) hpos
    rw [← hround, ← signedRat_div_signedRat] at hquotient
    rw [hx, hy, UnpackedFloat.div, hdiv]
    exact hquotient

/-! ## All operators -/

namespace Operator

/-- the operation on numbers -/
def exact : Operator → Rat → Rat → Rat
  | add, q, r => q + r
  | subtract, q, r => q - r
  | multiply, q, r => q * r
  | divide, q, r => q / r

/-- **Every operation is correctly rounded**, unless it divides by zero. -/
theorem isRounded_apply {op : Operator} {x y : Float} {v w : Exact}
    (hv : Exact.ofFloat? x = some v) (hw : Exact.ofFloat? y = some w)
    (hne : op = divide → w.magnitude ≠ 0) :
    IsRounded (op.apply x y) (op.exact v.value w.value) := by
  cases op with
  | add => exact isRounded_add hv hw
  | subtract => exact isRounded_sub hv hw
  | multiply => exact isRounded_mul hv hw
  | divide => exact isRounded_div hv hw (hne rfl)

end Operator
end PocketCalc
