import PocketCalc.Proofs.Double

/-!
# Changing the sign of a double

A double is its unpacked parts packed again, and packing does not look at the sign.  So what changes
the sign of the parts changes that of the double, and nothing is rounded.

* `unpack_pack_neg`          packing and unpacking keep the change of a sign;
* `ofFloat?_neg`             the parts of a double with the other sign;
* `float_neg_neg`, `float_neg_mul`, `float_mul_neg`   signs behave as in any ring, for every double,
                             NaN included;
* `float_one_mul`            a factor of one changes nothing.
-/

namespace PocketCalc
open Float.Model Float.Model.UnpackedFloat

/-! ## Bits -/

theorem pack_unpack_model (x : Float.Model) : Float.Model.pack x.unpack = x := by
  obtain ⟨bits, hvalid⟩ := x
  unfold Float.Model.pack Float.Model.unpack
  congr 2
  exact pack_unpack_of_valid hvalid

theorem unpack_packComponents_neg (s : Sign) (e : BitVec Format.binary64.exponentBits)
    (m : BitVec Format.binary64.mantissaBitsWithoutImplicit) :
    UnpackedFloat.unpack Format.binary64 (packComponents Format.binary64 (-s) e m) =
      (UnpackedFloat.unpack Format.binary64 (packComponents Format.binary64 s e m)).neg := by
  unfold UnpackedFloat.unpack
  simp only [unpackSign_packComponents, unpackExponent_packComponents,
    unpackMantissa_packComponents, Sign.ofBitVec_toBitVec]
  split
  · split <;> rfl
  · split
    · split <;> rfl
    · rfl

/-- the sign of a number goes into its bits, and into nothing else there -/
theorem unpack_pack_neg (f : UnpackedFloat) :
    (Float.Model.pack f.neg).unpack = (Float.Model.pack f).unpack.neg := by
  cases f with
  | notANumber => rfl
  | infinity s => exact unpack_packComponents_neg s _ _
  | zero s => exact unpack_packComponents_neg s _ _
  | finite s m e hm =>
    show UnpackedFloat.unpack _ (UnpackedFloat.pack _ (.finite (-s) m e hm)) =
      (UnpackedFloat.unpack _ (UnpackedFloat.pack _ (.finite s m e hm))).neg
    rw [pack_finite, pack_finite]
    split
    · exact unpack_packComponents_neg s _ _
    · split <;> exact unpack_packComponents_neg s _ _

/-! ## Negation -/

theorem eq_of_unpack {x y : Float} (h : x.toModel.unpack = y.toModel.unpack) : x = y := by
  obtain ⟨x⟩ := x
  obtain ⟨y⟩ := y
  rw [← pack_unpack_model x, ← pack_unpack_model y]
  exact congrArg (fun f => Float.ofModel (Float.Model.pack f)) h

theorem unpack_neg (x : Float) : (-x).toModel.unpack = x.toModel.unpack.neg := by
  show (Float.Model.pack x.toModel.unpack.neg).unpack = _
  rw [unpack_pack_neg, pack_unpack_model]

theorem sign_neg_neg (s : Sign) : - -s = s := by
  cases s <;> rfl

theorem float_neg_neg (x : Float) : - -x = x := by
  apply eq_of_unpack
  rw [unpack_neg, unpack_neg]
  cases x.toModel.unpack <;> simp only [UnpackedFloat.neg, sign_neg_neg]

theorem float_neg_inj {x y : Float} : -x = -y ↔ x = y := by
  constructor
  · intro h
    rw [← float_neg_neg x, h, float_neg_neg]
  · intro h
    rw [h]

theorem ofFloat?_neg {x : Float} {v : Exact} (h : Exact.ofFloat? x = some v) :
    Exact.ofFloat? (-x) = some { v with negative := !v.negative } := by
  unfold Exact.ofFloat? at h ⊢
  rw [unpack_neg]
  split at h
  · rename_i s m e hm hx
    cases h
    rw [hx]
    cases s <;> rfl
  · rename_i s hx
    cases h
    rw [hx]
    cases s <;> rfl
  · cases h
  · cases h

theorem ofFloat?_signed {x : Float} {v : Exact} (h : Exact.ofFloat? x = some v)
    (hv : v.negative = false) (b : Bool) :
    Exact.ofFloat? (signed b x) = some { v with negative := b } := by
  obtain ⟨negative, m, e⟩ := v
  cases hv
  cases b with
  | false => exact h
  | true => exact ofFloat?_neg h

/-! ## Products -/

theorem sign_neg_mul (s t : Sign) : -s * t = -(s * t) := by
  cases s <;> cases t <;> rfl

theorem sign_mul_neg (s t : Sign) : s * -t = -(s * t) := by
  cases s <;> cases t <;> rfl

theorem roundWithAccuracy_neg (s : Sign) (m : Nat) (e : Int) (a : Accuracy) :
    roundWithAccuracy Format.binary64 (-s) m e a =
      (roundWithAccuracy Format.binary64 s m e a).neg := by
  unfold roundWithAccuracy
  simp only
  split <;> rfl

theorem unpacked_neg_mul (f g : UnpackedFloat) :
    UnpackedFloat.mul Format.binary64 f.neg g = (UnpackedFloat.mul Format.binary64 f g).neg := by
  cases f <;> cases g <;>
    simp only [UnpackedFloat.neg, UnpackedFloat.mul, sign_neg_mul, roundWithAccuracy_neg]

theorem unpacked_mul_neg (f g : UnpackedFloat) :
    UnpackedFloat.mul Format.binary64 f g.neg = (UnpackedFloat.mul Format.binary64 f g).neg := by
  cases f <;> cases g <;>
    simp only [UnpackedFloat.neg, UnpackedFloat.mul, sign_mul_neg, roundWithAccuracy_neg]

theorem unpack_mul (x y : Float) :
    (x * y).toModel.unpack =
      (Float.Model.pack
        (UnpackedFloat.mul Format.binary64 x.toModel.unpack y.toModel.unpack)).unpack :=
  rfl

theorem float_neg_mul (x y : Float) : -x * y = -(x * y) := by
  apply eq_of_unpack
  rw [unpack_mul, unpack_neg, unpacked_neg_mul, unpack_pack_neg, unpack_neg, unpack_mul]

theorem float_mul_neg (x y : Float) : x * -y = -(x * y) := by
  apply eq_of_unpack
  rw [unpack_mul, unpack_neg, unpacked_mul_neg, unpack_pack_neg, unpack_neg, unpack_mul]

/-! ## A factor of one -/

theorem shiftRight_two_pow_mul (m n : Nat) :
    (ExtendedMantissa.ofMantissaAndAccuracy (2 ^ n * m) .exact) >>> n =
      ExtendedMantissa.ofMantissaAndAccuracy m .exact := by
  show n.repeat ExtendedMantissa.shiftRightOne ⟨2 ^ n * m, false, false⟩ = ⟨m, false, false⟩
  induction n generalizing m with
  | zero => simp [Nat.repeat]
  | succ n ih =>
    rw [Nat.repeat, Nat.pow_succ, Nat.mul_assoc, ih (2 * m)]
    simp [ExtendedMantissa.shiftRightOne]

/-- an unpacked mantissa has 53 bits, or fewer and the least exponent -/
theorem canonical_unpack (x : Float) {s : Sign} {m : Nat} {e : Int} {hm : 0 < m}
    (hx : x.toModel.unpack = .finite s m e hm) :
    m.log2 ≤ 51 ∧ e = -1074 ∨ m.log2 = 52 ∧ -1074 ≤ e := by
  have hx : UnpackedFloat.unpack Format.binary64 x.toModel.toBits.toBitVec = .finite s m e hm := hx
  unfold UnpackedFloat.unpack at hx
  simp only at hx
  split at hx
  · split at hx <;> cases hx
  · split at hx
    · split at hx
      · cases hx
      · rename_i h0 _
        cases hx
        refine .inl ⟨log2_le_of_lt (BitVec.isLt _), ?_⟩
        rw [h0]
        rfl
    · rename_i h0
      cases hx
      refine .inr ⟨?_, ?_⟩
      · have hlow : 2 ^ 52 ≤ (1#1 ++ @unpackMantissa Format.binary64
            x.toModel.toBits.toBitVec).toNat := by
          rw [BitVec.toNat_append]
          exact Nat.left_le_or
        exact Nat.le_antisymm (log2_le_of_lt (BitVec.isLt _)) ((Nat.le_log2 hm.ne').mpr hlow)
      · have hpos :
            (@unpackExponent Format.binary64 x.toModel.toBits.toBitVec).toNat ≠ 0 :=
          fun h => h0 (BitVec.eq_of_toNat_eq h)
        show (-1074 : Int) ≤
          (@unpackExponent Format.binary64 x.toModel.toBits.toBitVec).toNat - (1023 + 52)
        omega

theorem log2_two_pow_mul {m : Nat} (hm : m ≠ 0) (n : Nat) : (2 ^ n * m).log2 = m.log2 + n := by
  induction n with
  | zero => rw [Nat.pow_zero, Nat.one_mul, Nat.add_zero]
  | succ n ih =>
    have hne : 2 ^ n * m ≠ 0 := Nat.mul_ne_zero (Nat.two_pow_pos n).ne' hm
    rw [Nat.pow_succ, Nat.mul_comm (2 ^ n) 2, Nat.mul_assoc, Nat.log2_two_mul hne, ih]
    rfl

theorem shiftToTargetExponent_eq (m : Nat) (e : Int) (n : Nat)
    (hn : (max ((m.log2 : Int) + 1 + e - 53) (-1074) - e).toNat = n) :
    shiftToTargetExponent Format.binary64 m e .exact =
      (ExtendedMantissa.ofMantissaAndAccuracy m .exact >>> n, e + n) := by
  rw [← hn]
  rfl

/-- a mantissa with 52 zeros behind it is rounded back to itself -/
theorem roundWithAccuracy_shifted (s : Sign) {m : Nat} {e : Int} (hm : 0 < m)
    (hcanonical : m.log2 ≤ 51 ∧ e = -1074 ∨ m.log2 = 52 ∧ -1074 ≤ e) :
    roundWithAccuracy Format.binary64 s (2 ^ 52 * m) (-52 + e) .exact = .finite s m e hm := by
  have hfirst : shiftToTargetExponent Format.binary64 (2 ^ 52 * m) (-52 + e) .exact =
      (ExtendedMantissa.ofMantissaAndAccuracy m .exact, e) := by
    rw [shiftToTargetExponent_eq _ _ 52 (by rw [log2_two_pow_mul hm.ne']; omega),
      shiftRight_two_pow_mul]
    exact congrArg _ (by omega)
  have hrounded : (ExtendedMantissa.ofMantissaAndAccuracy m .exact).roundedMantissa = m := rfl
  have hsecond : shiftToTargetExponent Format.binary64 m e .exact =
      (ExtendedMantissa.ofMantissaAndAccuracy m .exact, e) := by
    rw [shiftToTargetExponent_eq _ _ 0 (by omega)]
    exact congrArg _ (Int.add_zero e)
  unfold roundWithAccuracy
  rw [hfirst]
  simp only [hrounded]
  split
  · rename_i hzero
    rw [hsecond] at hzero
    exact absurd hzero hm.ne'
  · rw [UnpackedFloat.finite.injEq, hsecond]
    exact ⟨rfl, rfl, rfl⟩

theorem float_one_mul (x : Float) : 1 * x = x := by
  have hone : (1 : Float).toModel.unpack = .finite .positive (2 ^ 52) (-52) (by decide) := rfl
  apply eq_of_unpack
  rw [unpack_mul, hone]
  have hpack := congrArg Float.Model.unpack (pack_unpack_model x.toModel)
  have hsign : ∀ s : Sign, Sign.positive * s = s := by
    intro s
    cases s <;> rfl
  cases hx : x.toModel.unpack with
  | notANumber => rfl
  | infinity s => rw [UnpackedFloat.mul, hsign, ← hx, hpack]
  | zero s => rw [UnpackedFloat.mul, hsign, ← hx, hpack]
  | finite s m e hm =>
    rw [UnpackedFloat.mul, hsign, roundWithAccuracy_shifted s hm (canonical_unpack x hx), ← hx,
      hpack]

end PocketCalc
