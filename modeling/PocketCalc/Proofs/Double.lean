import Mathlib
import PocketCalc.Arithmetic.Outcome

/-!
# Doubles that do not overflow

Which operations on doubles stay finite, read off the bits.  A double is unpacked, computed with,
rounded and packed again, and only packing makes an infinity of a finite number: its exponent has
become too large for the bits.  So it is exponents that are followed through.

* `bounded n`                  an unpacked number, zero or of an exponent up to `n`;
* `Moderate`                   a finite double below `2^53` in magnitude;
* `isFinite_mul_of_moderate`   the product of two of them does not overflow;
* `isNaN_mul_of_isFinite`      no product of finite numbers is NaN;
* `moderate_of_le_pi`          a number between `-π` and `π` is moderate;
* `isFinite_snapAngle`         an angle that is put onto a whole number stays finite;
* `isFinite_snapAngle_degrees` an angle between `-π` and `π` is a finite number of degrees.
-/

namespace PocketCalc
open Float.Model Float.Model.UnpackedFloat

/-! ## Unpacked numbers -/

theorem eq_notANumber {f : UnpackedFloat} (h : f.isNaN = true) : f = .notANumber := by
  cases f with
  | notANumber => rfl
  | _ => cases h

theorem eq_zero_or_eq_finite {f : UnpackedFloat} (h : f.isFinite = true) :
    (∃ s, f = .zero s) ∨ ∃ s m e hm, f = .finite s m e hm := by
  cases f with
  | notANumber => cases h
  | infinity s => cases h
  | zero s => exact .inl ⟨s, rfl⟩
  | finite s m e hm => exact .inr ⟨s, m, e, hm, rfl⟩

/-- zero, or finite with an exponent up to `n` -/
def bounded (n : Int) : UnpackedFloat → Bool
  | .zero _ => true
  | .finite _ _ e _ => e ≤ n
  | .infinity _ | .notANumber => false

theorem bounded_mono {n n' : Int} (hn : n ≤ n') {f : UnpackedFloat} (h : bounded n f = true) :
    bounded n' f = true := by
  cases f with
  | finite s m e hm =>
    have he : e ≤ n := of_decide_eq_true h
    exact decide_eq_true (by omega)
  | zero s => rfl
  | infinity s => cases h
  | notANumber => cases h

theorem isFinite_of_bounded {n : Int} {f : UnpackedFloat} (h : bounded n f = true) :
    f.isFinite = true := by
  cases f with
  | notANumber => cases h
  | infinity s => cases h
  | _ => rfl

/-! ## Bits -/

theorem toNat_allOnes : (-1#11 : BitVec Format.binary64.exponentBits).toNat = 2047 := rfl

theorem toNat_unpackExponent (b : BitVec Format.binary64.numBits) :
    (unpackExponent b).toNat = b.toNat / 2 ^ 52 % 2 ^ 11 := by
  unfold unpackExponent
  rw [BitVec.toNat_cast, BitVec.extractLsb_toNat, Nat.shiftRight_eq_div_pow]
  rfl

/-- the exponent of unpacked bits, unless they are those of an infinity or of NaN -/
theorem bounded_unpack {n : Int} {b : BitVec Format.binary64.numBits}
    (he : ((unpackExponent b).toNat : Int) - 1075 ≤ n) (hn : -1074 ≤ n)
    (hne : unpackExponent b ≠ -1#_) :
    bounded n (UnpackedFloat.unpack Format.binary64 b) = true := by
  unfold UnpackedFloat.unpack
  rw [if_neg hne]
  split
  · split
    · rfl
    · rename_i h0 _
      apply decide_eq_true
      rw [h0]
      show (0 : Int) - (1023 + 52) + 1 ≤ n
      omega
  · apply decide_eq_true
    show ((unpackExponent b).toNat : Int) - (1023 + 52) ≤ n
    omega

theorem mantissa_lt (x : Float) {s : Sign} {m : Nat} {e : Int} {hm : 0 < m}
    (hx : x.toModel.unpack = .finite s m e hm) : m < 2 ^ 53 := by
  have hx : UnpackedFloat.unpack Format.binary64 x.toModel.toBits.toBitVec = .finite s m e hm := hx
  unfold UnpackedFloat.unpack at hx
  simp only at hx
  split at hx
  · split at hx <;> cases hx
  · split at hx
    · split at hx
      · cases hx
      · cases hx
        exact Nat.lt_trans (BitVec.isLt _) (by decide)
    · cases hx
      exact BitVec.isLt _

/-! ## Packing -/

/-- the bits of an exponent, if there were enough of them -/
def biased (e : Int) : Nat := (e + 1023 + 52).toNat

theorem pack_finite (s : Sign) (m : Nat) (e : Int) (hm : 0 < m) :
    UnpackedFloat.pack Format.binary64 (.finite s m e hm) =
      if 2048 ≤ biased e + 1 then packedInfinity Format.binary64 s
      else if m.log2 + 1 = 53 then
        packComponents Format.binary64 s (BitVec.ofNat 11 (biased e)) (BitVec.ofNat 52 m)
      else packComponents Format.binary64 s 0#_ (BitVec.ofNat 52 m) :=
  rfl

theorem bounded_unpack_pack {n : Int} (hn : -1074 ≤ n) (hn' : n < 972) {f : UnpackedFloat}
    (h : bounded n f = true) : bounded n (Float.Model.pack f).unpack = true := by
  rcases eq_zero_or_eq_finite (isFinite_of_bounded h) with ⟨s, rfl⟩ | ⟨s, m, e, hm, rfl⟩
  · cases s <;> rfl
  have he : e ≤ n := of_decide_eq_true h
  have hsmall : biased e < 2047 := by
    unfold biased
    omega
  show bounded n (UnpackedFloat.unpack _ (UnpackedFloat.pack _ (.finite s m e hm))) = true
  rw [pack_finite, if_neg (by omega)]
  split
  · have hbits : (BitVec.ofNat 11 (biased e)).toNat = biased e := by
      rw [BitVec.toNat_ofNat, Nat.mod_eq_of_lt (by omega)]
    apply bounded_unpack _ hn
    · rw [unpackExponent_packComponents]
      intro heq
      rw [heq, toNat_allOnes] at hbits
      omega
    · rw [unpackExponent_packComponents, hbits]
      unfold biased
      omega
  · apply bounded_unpack _ hn
    · rw [unpackExponent_packComponents]
      decide
    · rw [unpackExponent_packComponents]
      show (0 : Int) - 1075 ≤ n
      omega

theorem unpack_pack_of_isFinite_eq_false {f : UnpackedFloat} (h : f.isFinite = false) :
    (Float.Model.pack f).unpack = f := by
  cases f with
  | notANumber => rfl
  | infinity s => cases s <;> rfl
  | zero s => cases h
  | finite s m e hm => cases h

theorem pack_of_overflow {s : Sign} {m : Nat} {e : Int} {hm : 0 < m} (he : 972 ≤ e) :
    Float.Model.pack (.finite s m e hm) = Float.Model.pack (.infinity s) := by
  unfold Float.Model.pack
  congr 2
  rw [pack_finite, if_pos (by unfold biased; omega)]
  rfl

theorem isNaN_unpack_pack (f : UnpackedFloat) : (Float.Model.pack f).unpack.isNaN = f.isNaN := by
  cases hf : f.isFinite with
  | false => rw [unpack_pack_of_isFinite_eq_false hf]
  | true =>
    rcases eq_zero_or_eq_finite hf with ⟨s, rfl⟩ | ⟨s, m, e, hm, rfl⟩
    · cases s <;> rfl
    by_cases he : e < 972
    · have hb : bounded (max e (-1074)) (.finite s m e hm) = true := decide_eq_true (by omega)
      have hfinite := isFinite_of_bounded (bounded_unpack_pack (by omega) (by omega) hb)
      rcases eq_zero_or_eq_finite hfinite with ⟨t, ht⟩ | ⟨t, m', e', hm', ht⟩
      all_goals
        rw [ht]
        rfl
    · rw [pack_of_overflow (by omega), unpack_pack_of_isFinite_eq_false rfl]
      rfl

/-! ## Rounding -/

theorem mantissa_shiftRight_le (em : ExtendedMantissa) (n : Nat) :
    (em >>> n).mantissa ≤ em.mantissa := by
  show (n.repeat ExtendedMantissa.shiftRightOne em).mantissa ≤ em.mantissa
  induction n with
  | zero => exact Nat.le_refl _
  | succ n ih => exact Nat.le_trans (Nat.div_le_self _ _) ih

theorem roundedMantissa_le (em : ExtendedMantissa) : em.roundedMantissa ≤ em.mantissa + 1 := by
  obtain ⟨m, r, t⟩ := em
  cases r <;> cases t
  all_goals
    simp only [ExtendedMantissa.roundedMantissa, ExtendedMantissa.accuracy,
      Accuracy.roundToNearestEven]
    omega

theorem log2_le_of_lt {m k : Nat} (h : m < 2 ^ (k + 1)) : m.log2 ≤ k := by
  by_cases h0 : m = 0
  · rw [h0]
    exact Nat.zero_le k
  · exact Nat.le_of_lt_succ ((Nat.log2_lt h0).mpr h)

/-- shifting drops bits, and raises the exponent by their number at most -/
theorem shiftToTargetExponent_le (m : Nat) (e : Int) :
    let r := shiftToTargetExponent Format.binary64 m e .exact
    r.1.mantissa ≤ m ∧ r.2 ≤ max (max e (m.log2 + 1 + e - 53)) (-1074) := by
  intro r
  refine ⟨mantissa_shiftRight_le _ _, ?_⟩
  show e + ((max ((m.log2 : Int) + 1 + e - 53) (-1074) - e).toNat : Int) ≤ _
  omega

/-- A product of two mantissas is rounded to 53 bits.  The bound is far from sharp, and so are those
on the shifted mantissas: each is only said not to grow. -/
theorem bounded_roundWithAccuracy (s : Sign) {m : Nat} {e : Int} (hm : m < 2 ^ 106) (he : e ≤ 0) :
    bounded 108 (roundWithAccuracy Format.binary64 s m e .exact) = true := by
  have h₁ := shiftToTargetExponent_le m e
  have hm₁ := roundedMantissa_le (shiftToTargetExponent Format.binary64 m e .exact).1
  unfold roundWithAccuracy
  generalize shiftToTargetExponent Format.binary64 m e .exact = r₁ at h₁ hm₁ ⊢
  obtain ⟨em, e₁⟩ := r₁
  simp only at h₁ hm₁ ⊢
  have h₂ := shiftToTargetExponent_le em.roundedMantissa e₁
  generalize shiftToTargetExponent Format.binary64 em.roundedMantissa e₁ .exact = r₂ at h₂ ⊢
  obtain ⟨em₂, e₂⟩ := r₂
  simp only at h₂ ⊢
  have hlog : m.log2 ≤ 106 := log2_le_of_lt (by omega)
  have hlog₁ : em.roundedMantissa.log2 ≤ 106 := log2_le_of_lt (by omega)
  split
  · rfl
  · apply decide_eq_true
    omega

theorem isNaN_roundWithAccuracy (s : Sign) (m : Nat) (e : Int) (a : Accuracy) :
    (roundWithAccuracy Format.binary64 s m e a).isNaN = false := by
  unfold roundWithAccuracy
  simp only
  split <;> rfl

/-! ## Products -/

theorem isFinite_eq (x : Float) : x.isFinite = (!x.isNaN && !x.isInf) := by
  show x.toModel.unpack.isFinite = (!x.toModel.unpack.isNaN && !x.toModel.unpack.isInf)
  cases x.toModel.unpack <;> rfl

theorem isInf_of_isFinite {x : Float} (h : x.isFinite = true) : x.isInf = false := by
  rw [isFinite_eq, Bool.and_eq_true, Bool.not_eq_true', Bool.not_eq_true'] at h
  exact h.2

theorem isInf_of_isNaN {x : Float} (h : x.isNaN = true) : x.isInf = false := by
  show x.toModel.unpack.isInf = false
  rw [eq_notANumber h]
  rfl

theorem isNaN_mul (x y : Float) :
    (x * y).isNaN = (UnpackedFloat.mul Format.binary64 x.toModel.unpack y.toModel.unpack).isNaN :=
  isNaN_unpack_pack _

theorem isNaN_mul_left {x : Float} (hx : x.isNaN = true) (y : Float) : (x * y).isNaN = true := by
  rw [isNaN_mul, eq_notANumber hx]
  rfl

theorem isNaN_mul_right (x : Float) {y : Float} (hy : y.isNaN = true) : (x * y).isNaN = true := by
  rw [isNaN_mul, eq_notANumber hy]
  cases x.toModel.unpack <;> rfl

theorem isNaN_mul_of_isFinite {x y : Float} (hx : x.isFinite = true) (hy : y.isFinite = true) :
    (x * y).isNaN = false := by
  rw [isNaN_mul]
  rcases eq_zero_or_eq_finite hx with ⟨s, hs⟩ | ⟨s, m, e, hm, hs⟩ <;>
    rcases eq_zero_or_eq_finite hy with ⟨t, ht⟩ | ⟨t, m', e', hm', ht⟩ <;> rw [hs, ht]
  · rfl
  · rfl
  · rfl
  · exact isNaN_roundWithAccuracy _ _ _ _

/-- a finite double of a magnitude below `2^53` -/
def Moderate (x : Float) : Prop := bounded 0 x.toModel.unpack = true

instance (x : Float) : Decidable (Moderate x) := inferInstanceAs (Decidable (_ = true))

theorem Moderate.isFinite {x : Float} (h : Moderate x) : x.isFinite = true := isFinite_of_bounded h

theorem isFinite_mul_of_moderate {x y : Float} (hx : Moderate x) (hy : Moderate y) :
    (x * y).isFinite = true := by
  have hmul : bounded 108
      (UnpackedFloat.mul Format.binary64 x.toModel.unpack y.toModel.unpack) = true := by
    rcases eq_zero_or_eq_finite hx.isFinite with ⟨s, hs⟩ | ⟨s, m, e, hm, hs⟩ <;>
      rcases eq_zero_or_eq_finite hy.isFinite with ⟨t, ht⟩ | ⟨t, m', e', hm', ht⟩ <;> rw [hs, ht]
    · rfl
    · rfl
    · rfl
    · rw [Moderate, hs] at hx
      rw [Moderate, ht] at hy
      have he : e ≤ 0 := of_decide_eq_true hx
      have he' : e' ≤ 0 := of_decide_eq_true hy
      have hprod : m * m' < 2 ^ 106 :=
        calc m * m' < 2 ^ 53 * 2 ^ 53 := Nat.mul_lt_mul'' (mantissa_lt x hs) (mantissa_lt y ht)
          _ = 2 ^ 106 := by decide
      exact bounded_roundWithAccuracy _ hprod (by omega)
  exact isFinite_of_bounded (bounded_unpack_pack (by decide) (by decide) hmul)

/-! ## Comparisons -/

theorem lt_eq (x y : Float) :
    (x < y) = (UnpackedFloat.lt x.toModel.unpack y.toModel.unpack = true) := by
  show (decide (UnpackedFloat.lt x.toModel.unpack y.toModel.unpack = true) = true) = _
  simp

theorem le_eq (x y : Float) :
    (x ≤ y) = (UnpackedFloat.le x.toModel.unpack y.toModel.unpack = true) := by
  show (decide (UnpackedFloat.le x.toModel.unpack y.toModel.unpack = true) = true) = _
  simp

theorem le_of_isLE_then {a b : Int} {o : Ordering} (h : ((compare a b).then o).isLE = true) :
    a ≤ b := by
  rw [← Int.isLE_compare]
  cases hc : compare a b with
  | gt =>
    rw [hc] at h
    cases h
  | _ => rfl

theorem unpack_piValue :
    ∃ h, piValue.toModel.unpack = .finite .positive 7074237752028440 (-51) h :=
  ⟨by decide, rfl⟩

theorem unpack_neg_piValue :
    ∃ h, (-piValue).toModel.unpack = .finite .negative 7074237752028440 (-51) h :=
  ⟨by decide, rfl⟩

theorem moderate_of_le_pi {y : Float} (h : -piValue ≤ y) (h' : y ≤ piValue) : Moderate y := by
  obtain ⟨_, hneg⟩ := unpack_neg_piValue
  obtain ⟨_, hpi⟩ := unpack_piValue
  rw [le_eq, hneg] at h
  rw [le_eq, hpi] at h'
  apply bounded_mono (n := -51) (by decide)
  cases hu : y.toModel.unpack with
  | notANumber =>
    rw [hu] at h
    cases h
  | infinity s =>
    rw [hu] at h h'
    cases s
    · cases h
    · cases h'
  | zero s => rfl
  | finite s m e hm =>
    rw [hu] at h h'
    apply decide_eq_true
    cases s with
    | positive => exact le_of_isLE_then h'
    | negative =>
      have h : ((compare (-51) e).then (compare 7074237752028440 m)).swap.isLE = true := h
      rw [Ordering.swap_then, ← Int.compare_swap, Ordering.swap_swap] at h
      exact le_of_isLE_then h

/-! ## Angles -/

/-- what is finite was not taken from an infinity -/
theorem isFinite_of_isFinite_sub {x w : Float} (h : (x - w).isFinite = true) :
    w.isFinite = true := by
  cases hw : w.isFinite with
  | true => rfl
  | false =>
    have hw : w.toModel.unpack.isFinite = false := hw
    have hsub : (UnpackedFloat.sub Format.binary64 x.toModel.unpack w.toModel.unpack).isFinite =
        false := by
      cases hv : w.toModel.unpack with
      | notANumber => cases x.toModel.unpack <;> rfl
      | infinity s =>
        cases x.toModel.unpack with
        | infinity t => cases s <;> cases t <;> rfl
        | _ => rfl
      | zero s =>
        rw [hv] at hw
        cases hw
      | finite s m e hm =>
        rw [hv] at hw
        cases hw
    have h : (Float.Model.pack
        (UnpackedFloat.sub Format.binary64 x.toModel.unpack w.toModel.unpack)).unpack.isFinite =
        true := h
    rw [unpack_pack_of_isFinite_eq_false hsub, hsub] at h
    cases h

theorem isFinite_of_abs_lt {x y : Float} (h : x.abs < y) : x.isFinite = true := by
  rw [lt_eq] at h
  have h : UnpackedFloat.lt (Float.Model.pack x.toModel.unpack.abs).unpack y.toModel.unpack =
      true :=
    h
  show x.toModel.unpack.isFinite = true
  cases hu : x.toModel.unpack with
  | notANumber =>
    rw [hu] at h
    cases h
  | infinity s =>
    rw [hu, UnpackedFloat.abs, unpack_pack_of_isFinite_eq_false rfl] at h
    cases hv : y.toModel.unpack with
    | infinity t =>
      rw [hv] at h
      cases t <;> cases h
    | _ =>
      rw [hv] at h
      cases h
  | _ => rfl

/-- the whole number that an angle is put onto is close to it, so it is finite as well -/
theorem isFinite_snapAngle {x : Float} (h : x.isFinite = true) : (snapAngle x).isFinite = true := by
  unfold snapAngle
  split
  · exact h
  · simp only
    split
    · rename_i hclose
      exact isFinite_of_isFinite_sub (isFinite_of_abs_lt hclose)
    · exact h

theorem snapAngle_of_isNaN {x : Float} (h : x.isNaN = true) : snapAngle x = x := by
  have hnone : Exact.ofFloat? x = none := by
    rw [Exact.ofFloat?, eq_notANumber h]
  rw [snapAngle, hnone]

/-- an angle between `-π` and `π` is a finite number of degrees -/
theorem isFinite_snapAngle_degrees {y : Float} (h : -piValue ≤ y) (h' : y ≤ piValue) :
    (snapAngle (degrees y)).isFinite = true := by
  have hfactor : Moderate (180 / piValue) := by decide +kernel
  exact isFinite_snapAngle (isFinite_mul_of_moderate (moderate_of_le_pi h h') hfactor)

theorem isNaN_snapAngle_degrees {y : Float} (h : y.isNaN = true) :
    (snapAngle (degrees y)).isNaN = true := by
  have hdegrees : (degrees y).isNaN = true := isNaN_mul_left h _
  rw [snapAngle_of_isNaN hdegrees]
  exact hdegrees

end PocketCalc
