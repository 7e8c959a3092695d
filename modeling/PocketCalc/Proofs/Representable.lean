import PocketCalc.Proofs.Comparison
import PocketCalc.Proofs.Overflow

/-!
# The magnitudes of doubles

A double has 53 bits, and its last one weighs at least `2^(-1074)`.  A magnitude is read as the
nearest of these numbers: none of them is nearer, none lies between a magnitude and what it is read
as, and each of them is read as itself.

* `Representable`             a magnitude of 53 bits, were there no largest one;
* `roundedMagnitude`          what a magnitude is rounded to, the even one of two;
* `abs_sub_roundedMagnitude_le`                  no representable magnitude is nearer;
* `roundedMagnitude_le`, `le_roundedMagnitude`   rounding passes none of them;
* `ofFloat?_nearest`          the parts of the double nearest to a magnitude;
* `Decimal.ofFloat?_toFloat`  the parts of the double nearest to a decimal.
-/

namespace PocketCalc
open Float.Model Float.Model.UnpackedFloat

/-! ## Rounding to 53 bits -/

/-- a magnitude of 53 bits, were there no largest one -/
def Representable (q : Rat) : Prop :=
  ∃ (m : Nat) (e : Int), m < 2 ^ 53 ∧ -1074 ≤ e ∧ q = m * 2 ^ e

/-- the weight of the last bit, as a power of two -/
def lastPlace (q : Rat) : Int := max (binaryOrder q - 52) (-1074)

/-- the nearest magnitude of 53 bits, the even one of two -/
def roundedMagnitude (q : Rat) : Rat := roundHalfEven (q / 2 ^ lastPlace q) * 2 ^ lastPlace q

theorem neg_le_lastPlace (q : Rat) : -1074 ≤ lastPlace q := le_max_right _ _

/-- a number of so many bits, or of the least last place, has no bits to be cut off -/
theorem le_lastPlace {q : Rat} (hq : 0 < q) {e : Int} (h : 2 ^ (52 + e) ≤ q ∨ e ≤ -1074) :
    e ≤ lastPlace q := by
  unfold lastPlace
  rcases h with h | h
  · have horder := (le_binaryOrder_iff hq).mpr h
    omega
  · omega

theorem lt_two_zpow_lastPlace {q : Rat} (hq : 0 < q) : q < 2 ^ (lastPlace q + 53) :=
  calc q < 2 ^ (binaryOrder q + 1) := (binaryOrder_spec hq).2
    _ ≤ 2 ^ (lastPlace q + 53) := by
      apply zpow_le_zpow_right₀ (by norm_num)
      have hle : binaryOrder q - 52 ≤ lastPlace q := le_max_left _ _
      omega

/-- all 53 bits are used, unless the last one is the least there is -/
theorem two_zpow_lastPlace_le {q : Rat} (hq : 0 < q) (h : lastPlace q ≠ -1074) :
    2 ^ (lastPlace q + 52) ≤ q := by
  have heq : lastPlace q + 52 = binaryOrder q := by
    unfold lastPlace at h ⊢
    omega
  rw [heq]
  exact (binaryOrder_spec hq).1

/-- the significand of the nearest double, which rounding may have brought to 54 bits -/
theorem roundHalfEven_lastPlace_le {q : Rat} (hq : 0 < q) :
    roundHalfEven (q / 2 ^ lastPlace q) ≤ 2 ^ 53 := by
  have hupper : q / 2 ^ lastPlace q < 2 ^ 53 := by
    rw [div_lt_iff₀ (by positivity)]
    calc q < 2 ^ (lastPlace q + 53) := lt_two_zpow_lastPlace hq
      _ = 2 ^ 53 * 2 ^ lastPlace q := by rw [add_comm, zpow_add₀ (by norm_num)]; norm_cast
  have hle := roundHalfEven_le (q / 2 ^ lastPlace q)
  have hlt : (roundHalfEven (q / 2 ^ lastPlace q) : Rat) < ((2 ^ 53 + 1 : Int) : Rat) := by
    push_cast
    linarith
  have hlt : roundHalfEven (q / 2 ^ lastPlace q) < 2 ^ 53 + 1 := by exact_mod_cast hlt
  omega

theorem le_roundHalfEven_lastPlace {q : Rat} (hq : 0 < q) (h : lastPlace q ≠ -1074) :
    2 ^ 52 ≤ roundHalfEven (q / 2 ^ lastPlace q) := by
  rw [le_roundHalfEven_iff (by decide)]
  have hfull : (2 : Rat) ^ 52 ≤ q / 2 ^ lastPlace q := by
    rw [le_div_iff₀ (by positivity)]
    calc (2 : Rat) ^ 52 * 2 ^ lastPlace q = 2 ^ (lastPlace q + 52) := by
          rw [add_comm, zpow_add₀ (by norm_num)]; norm_cast
      _ ≤ q := two_zpow_lastPlace_le hq h
  push_cast
  linarith

theorem roundHalfEven_lastPlace_nonneg {q : Rat} (hq : 0 ≤ q) :
    0 ≤ roundHalfEven (q / 2 ^ lastPlace q) := by
  rw [le_roundHalfEven_iff (by decide)]
  have hpos : 0 ≤ q / 2 ^ lastPlace q := by positivity
  push_cast
  linarith

theorem abs_sub_roundedMagnitude_le_half (q : Rat) :
    |q - roundedMagnitude q| ≤ 2 ^ lastPlace q / 2 := by
  have hpow : (0 : Rat) < 2 ^ lastPlace q := by positivity
  rw [roundedMagnitude, abs_sub_mul_unit hpow]
  calc |q / 2 ^ lastPlace q - roundHalfEven (q / 2 ^ lastPlace q)| * 2 ^ lastPlace q
      ≤ 1 / 2 * 2 ^ lastPlace q :=
        mul_le_mul_of_nonneg_right (abs_sub_roundHalfEven_le_half _) hpow.le
    _ = 2 ^ lastPlace q / 2 := by ring

theorem abs_sub_roundedMagnitude_le_multiple (q : Rat) (n : Int) :
    |q - roundedMagnitude q| ≤ |q - n * 2 ^ lastPlace q| := by
  have hpow : (0 : Rat) < 2 ^ lastPlace q := by positivity
  rw [roundedMagnitude, abs_sub_mul_unit hpow, abs_sub_mul_unit hpow]
  exact mul_le_mul_of_nonneg_right (abs_sub_roundHalfEven_le _ n) hpow.le

/-- **No representable magnitude is nearer than the rounded one.**  Those whose last bit weighs as
much are multiples of its weight; the others are below all 53 bits. -/
theorem abs_sub_roundedMagnitude_le {q w : Rat} (hq : 0 ≤ q) (hw : Representable w) :
    |q - roundedMagnitude q| ≤ |q - w| := by
  obtain ⟨m, e, hm, he, rfl⟩ := hw
  rcases hq.eq_or_lt with rfl | hq
  · have hzero := abs_sub_roundedMagnitude_le_multiple 0 0
    rw [Int.cast_zero, zero_mul, sub_self, abs_zero] at hzero
    exact hzero.trans (abs_nonneg _)
  by_cases hfine : lastPlace q ≤ e
  · have hmultiple : (m : Rat) * 2 ^ e =
        ((m * 2 ^ (e - lastPlace q).toNat : Int) : Rat) * 2 ^ lastPlace q := by
      push_cast
      rw [mul_assoc, ← zpow_natCast, ← zpow_add₀ (by norm_num)]
      congr 2
      omega
    rw [hmultiple]
    exact abs_sub_roundedMagnitude_le_multiple q _
  · have hplace := neg_le_lastPlace q
    have hfull := two_zpow_lastPlace_le hq (by omega)
    have hbelow : (m : Rat) * 2 ^ e ≤ 2 ^ (lastPlace q + 52) :=
      calc (m : Rat) * 2 ^ e ≤ 2 ^ 53 * 2 ^ e := by
            gcongr
            exact_mod_cast hm.le
        _ = 2 ^ (53 + e) := by rw [zpow_add₀ (by norm_num)]; norm_cast
        _ ≤ 2 ^ (lastPlace q + 52) := zpow_le_zpow_right₀ (by norm_num) (by omega)
    have hmultiple : (2 : Rat) ^ (lastPlace q + 52) = ((2 ^ 52 : Int) : Rat) * 2 ^ lastPlace q := by
      push_cast
      rw [add_comm, zpow_add₀ (by norm_num)]
      norm_cast
    calc |q - roundedMagnitude q| ≤ |q - 2 ^ (lastPlace q + 52)| := by
          rw [hmultiple]
          exact abs_sub_roundedMagnitude_le_multiple q _
      _ = q - 2 ^ (lastPlace q + 52) := abs_of_nonneg (by linarith)
      _ ≤ q - m * 2 ^ e := by linarith
      _ = |q - m * 2 ^ e| := (abs_of_nonneg (by linarith)).symm

theorem roundedMagnitude_eq {q : Rat} (hq : 0 ≤ q) (h : Representable q) :
    roundedMagnitude q = q := by
  have hzero := abs_sub_roundedMagnitude_le hq h
  rw [sub_self, abs_zero] at hzero
  exact (sub_eq_zero.mp (abs_nonpos_iff.mp hzero)).symm

/-- rounding up ends at the next representable magnitude -/
theorem roundedMagnitude_le {q w : Rat} (hq : 0 ≤ q) (hw : Representable w) (h : q ≤ w) :
    roundedMagnitude q ≤ w := by
  by_contra hlt
  rw [not_le] at hlt
  have hnear := abs_sub_roundedMagnitude_le hq hw
  rw [abs_of_nonpos (by linarith), abs_of_nonpos (by linarith)] at hnear
  linarith

/-- and so does rounding down -/
theorem le_roundedMagnitude {q w : Rat} (hq : 0 ≤ q) (hw : Representable w) (h : w ≤ q) :
    w ≤ roundedMagnitude q := by
  by_contra hlt
  rw [not_le] at hlt
  have hnear := abs_sub_roundedMagnitude_le hq hw
  rw [abs_of_nonneg (by linarith), abs_of_nonneg (by linarith)] at hnear
  linarith

/-- every representable magnitude is a multiple of the least one -/
theorem Representable.exists_multiple {q : Rat} (h : Representable q) :
    ∃ n : Nat, q = n * 2 ^ (-1074 : Int) := by
  obtain ⟨m, e, -, he, rfl⟩ := h
  refine ⟨m * 2 ^ (e + 1074).toNat, ?_⟩
  rw [Nat.cast_mul, Nat.cast_pow, Nat.cast_ofNat, mul_assoc, ← zpow_natCast,
    ← zpow_add₀ (by norm_num)]
  congr 2
  omega

theorem representable_zero : Representable 0 := ⟨0, 0, by norm_num, by norm_num, by norm_num⟩

theorem roundedMagnitude_nonneg {q : Rat} (hq : 0 ≤ q) : 0 ≤ roundedMagnitude q :=
  le_roundedMagnitude hq representable_zero hq

/-- what is below half the weight of the last bit is rounded to zero -/
theorem roundedMagnitude_eq_zero {q : Rat} (hq : 0 ≤ q) (h : q < 2 ^ (-1075 : Int)) :
    roundedMagnitude q = 0 := by
  rcases hq.eq_or_lt with rfl | hq
  · exact roundedMagnitude_eq le_rfl representable_zero
  have hplace : lastPlace q = -1074 := by
    by_contra hne
    have hfull := two_zpow_lastPlace_le hq hne
    have hle := neg_le_lastPlace q
    have hpow : (2 : Rat) ^ (-1075 : Int) ≤ 2 ^ (lastPlace q + 52) :=
      zpow_le_zpow_right₀ (by norm_num) (by omega)
    linarith
  have hhalf : q / 2 ^ (-1074 : Int) < 1 / 2 := by
    rw [div_lt_iff₀ (by positivity)]
    calc q < 2 ^ (-1075 : Int) := h
      _ = 1 / 2 * 2 ^ (-1074 : Int) := by
        rw [show (-1075 : Int) = -1074 - 1 from rfl, zpow_sub_one₀ (by norm_num)]
        ring
  have hround : roundHalfEven (q / 2 ^ (-1074 : Int)) = 0 := by
    rw [roundHalfEven_eq_iff, IsNearest, Int.cast_zero, sub_zero]
    left
    rw [abs_of_pos (by positivity)]
    exact hhalf
  rw [roundedMagnitude, hplace, hround, Int.cast_zero, zero_mul]

/-! ## From bits -/

theorem Exact.magnitude_nonneg (v : Exact) : 0 ≤ v.magnitude := by
  unfold Exact.magnitude
  positivity

theorem Exact.abs_value (v : Exact) : |v.value| = v.magnitude := by
  unfold Exact.value
  split
  · rw [abs_neg, abs_of_nonneg v.magnitude_nonneg]
  · exact abs_of_nonneg v.magnitude_nonneg

theorem representable_of_ofFloat? {x : Float} {v : Exact} (h : Exact.ofFloat? x = some v) :
    Representable v.magnitude := by
  rcases parts_of_ofFloat? h with ⟨s, -, rfl⟩ | ⟨s, m, e, hm, -, hcanonical, rfl⟩
  · rw [Exact.magnitude_zero]
    exact representable_zero
  · exact ⟨m, e, hcanonical.1, hcanonical.2.1, rfl⟩

/-- the magnitude that bits without a sign stand for -/
def bitsMagnitude (n : Nat) : Rat :=
  if n < exponentStep then n * 2 ^ (-1074 : Int)
  else ((exponentStep + n % exponentStep : Nat) : Rat) * 2 ^ ((n / exponentStep : Nat) - 1075 : Int)

/-- a significand and its exponent make up the bits by addition, also one that was rounded up -/
theorem bitsMagnitude_eq {k r : Nat} (hr : r ≤ 2 * exponentStep) (h : k = 0 ∨ exponentStep ≤ r) :
    bitsMagnitude (k * exponentStep + r) = r * 2 ^ (k - 1074 : Int) := by
  have hstep : exponentStep = 2 ^ 52 := rfl
  unfold bitsMagnitude
  rw [hstep] at hr h ⊢
  by_cases hsmall : k * 2 ^ 52 + r < 2 ^ 52
  · obtain rfl : k = 0 := by omega
    rw [if_pos hsmall, Nat.zero_mul, Nat.zero_add]
    rfl
  rw [if_neg hsmall]
  rcases hr.lt_or_eq with hr | rfl
  · have hdiv : (k * 2 ^ 52 + r) / 2 ^ 52 = k + 1 := by omega
    have hmod : 2 ^ 52 + (k * 2 ^ 52 + r) % 2 ^ 52 = r := by omega
    rw [hdiv, hmod]
    congr 2
    omega
  · have hdiv : (k * 2 ^ 52 + 2 * 2 ^ 52) / 2 ^ 52 = k + 2 := by omega
    have hmod : 2 ^ 52 + (k * 2 ^ 52 + 2 * 2 ^ 52) % 2 ^ 52 = 2 ^ 52 := by omega
    have hexp : ((k + 2 : Nat) - 1075 : Int) = (k - 1074) + 1 := by omega
    rw [hdiv, hmod, hexp, zpow_add_one₀ (by norm_num)]
    push_cast
    ring

theorem toNat_unpackMantissa (b : BitVec Format.binary64.numBits) :
    (unpackMantissa b).toNat = b.toNat % 2 ^ 52 := by
  unfold unpackMantissa
  rw [BitVec.toNat_cast, BitVec.extractLsb_toNat]
  rfl

theorem unpackSign_eq_zero {b : BitVec Format.binary64.numBits} (h : b.toNat < 2 ^ 63) :
    unpackSign b = 0#1 := by
  apply BitVec.eq_of_toNat_eq
  unfold unpackSign
  rw [BitVec.toNat_cast, BitVec.extractLsb_toNat, Nat.shiftRight_eq_div_pow]
  show b.toNat / 2 ^ 63 % 2 = 0
  omega

theorem toNat_normalMantissa (b : BitVec Format.binary64.numBits) :
    (1#1 ++ unpackMantissa b).toNat = 2 ^ 52 + b.toNat % 2 ^ 52 := by
  rw [BitVec.toNat_append, toNat_unpackMantissa]
  show 1 <<< 52 ||| b.toNat % 2 ^ 52 = _
  rw [← Nat.shiftLeft_add_eq_or_of_lt (Nat.mod_lt _ (Nat.two_pow_pos 52)), Nat.shiftLeft_eq,
    Nat.one_mul]

/-- what is unpacked from the bits of a finite number without a sign -/
theorem ofFloat?_of_unpack {x : Float} {b : BitVec Format.binary64.numBits}
    (hx : x.toModel.unpack = UnpackedFloat.unpack Format.binary64 b)
    (h : b.toNat < infinityBits) :
    ∃ v, Exact.ofFloat? x = some v ∧ v.negative = false ∧ v.magnitude = bitsMagnitude b.toNat := by
  have hinfinity : infinityBits = 2047 * 2 ^ 52 := rfl
  have hexponent := toNat_unpackExponent b
  have hmantissa := toNat_unpackMantissa b
  have hsign := unpackSign_eq_zero (b := b) (by omega)
  have hfinite : unpackExponent b ≠ -1#_ := by
    intro heq
    rw [heq, toNat_allOnes] at hexponent
    omega
  unfold UnpackedFloat.unpack at hx
  simp only [hsign] at hx
  rw [if_neg hfinite] at hx
  have hstep : exponentStep = 2 ^ 52 := rfl
  unfold Exact.ofFloat? bitsMagnitude
  rw [hx, hstep]
  by_cases hzero : unpackExponent b = 0#_
  · have hsmall : b.toNat < 2 ^ 52 := by
      rw [hzero] at hexponent
      change 0 = b.toNat / 2 ^ 52 % 2 ^ 11 at hexponent
      omega
    rw [if_pos hzero, if_pos hsmall]
    rw [Nat.mod_eq_of_lt hsmall] at hmantissa
    by_cases hnone : unpackMantissa b = 0#_
    · rw [dif_pos hnone]
      refine ⟨_, rfl, rfl, ?_⟩
      rw [hnone] at hmantissa
      rw [← hmantissa]
      exact (zero_mul _).trans (zero_mul _).symm
    · rw [dif_neg hnone]
      refine ⟨_, rfl, rfl, ?_⟩
      show ((unpackMantissa b).toNat : Rat) * 2 ^ _ = _
      rw [hmantissa, hzero]
      rfl
  · have hlarge : ¬ b.toNat < 2 ^ 52 := by
      intro hsmall
      refine hzero (BitVec.eq_of_toNat_eq ?_)
      rw [hexponent, Nat.div_eq_of_lt hsmall]
      rfl
    have hdiv : b.toNat / 2 ^ 52 % 2 ^ 11 = b.toNat / 2 ^ 52 := by omega
    rw [if_neg hzero, if_neg hlarge]
    refine ⟨_, rfl, rfl, ?_⟩
    show ((1#1 ++ unpackMantissa b).toNat : Rat) *
      2 ^ (((unpackExponent b).toNat : Int) - (1023 + 52)) = _
    rw [toNat_normalMantissa, hexponent, hdiv]
    rfl

/-- bits below those of infinity are not changed by reading them -/
theorem unpack_ofBits {n : Nat} (h : n < infinityBits) :
    (Float.ofBits n.toUInt64).toModel.unpack =
      UnpackedFloat.unpack Format.binary64 n.toUInt64.toBitVec := by
  have hinfinity : infinityBits = 2047 * 2 ^ 52 := rfl
  have hn : n.toUInt64.toBitVec.toNat = n := by
    show n % 2 ^ 64 = n
    omega
  have hvalid : Format.binary64.Valid n.toUInt64.toBitVec := by
    refine ⟨fun hexponent => ?_⟩
    have hcontra := toNat_unpackExponent n.toUInt64.toBitVec
    rw [hexponent, toNat_allOnes, hn] at hcontra
    omega
  show UnpackedFloat.unpack _ (UnpackedFloat.pack _ (UnpackedFloat.unpack _ _)) = _
  rw [pack_unpack_of_valid hvalid]

theorem ofFloat?_ofBits {n : Nat} (h : n < infinityBits) :
    ∃ v, Exact.ofFloat? (Float.ofBits n.toUInt64) = some v ∧ v.negative = false ∧
      v.magnitude = bitsMagnitude n := by
  have hinfinity : infinityBits = 2047 * 2 ^ 52 := rfl
  have hn : n.toUInt64.toBitVec.toNat = n := by
    show n % 2 ^ 64 = n
    omega
  have hparts := ofFloat?_of_unpack (unpack_ofBits h) (by rw [hn]; exact h)
  rwa [hn] at hparts

/-! ## The nearest double -/

/-- the bits of the nearest double stand for the rounded magnitude -/
theorem bitsMagnitude_nearestBits {q : Rat} (hq : 0 ≤ q) (h : q < overflowAt) :
    bitsMagnitude (nearestBits q) = roundedMagnitude q := by
  rcases hq.eq_or_lt with rfl | hq
  · rw [roundedMagnitude_eq le_rfl representable_zero]
    exact zero_mul _
  have hlt := (nearestBits_lt_iff hq.le).mpr h
  have hbits : nearestBits q = (lastPlace q + 1074).toNat * exponentStep +
      (roundHalfEven (q / 2 ^ lastPlace q)).toNat := by
    unfold nearestBits at hlt ⊢
    rw [if_neg hq.ne'] at hlt ⊢
    simp only at hlt ⊢
    unfold lastPlace
    omega
  have hplace := neg_le_lastPlace q
  have hnonneg := roundHalfEven_lastPlace_nonneg hq.le
  have hmost := roundHalfEven_lastPlace_le hq
  have hleast := le_roundHalfEven_lastPlace hq
  have hstep : exponentStep = 2 ^ 52 := rfl
  rw [hbits, bitsMagnitude_eq (by omega) (by omega), roundedMagnitude]
  have hcast : ((roundHalfEven (q / 2 ^ lastPlace q)).toNat : Rat) =
      roundHalfEven (q / 2 ^ lastPlace q) := by
    rw [← Int.cast_natCast, Int.toNat_of_nonneg hnonneg]
  rw [hcast, Int.toNat_of_nonneg (by omega), add_sub_cancel_right]

/-- the parts of the nearest double: the sign, and the rounded magnitude -/
theorem ofFloat?_nearest {q : Rat} (b : Bool) (hq : 0 ≤ q) (h : q < overflowAt) :
    ∃ v, Exact.ofFloat? (nearest b q) = some v ∧ v.negative = b ∧
      v.magnitude = roundedMagnitude q := by
  obtain ⟨v, hv, hpositive, hmagnitude⟩ := ofFloat?_ofBits ((nearestBits_lt_iff hq).mpr h)
  refine ⟨_, ofFloat?_signed hv hpositive b, rfl, ?_⟩
  rw [← bitsMagnitude_nearestBits hq h, ← hmagnitude]
  rfl

theorem ten_zpow_le_halfLeast : (10 : Rat) ^ (-400 : Int) ≤ 2 ^ (-1075 : Int) :=
  calc (10 : Rat) ^ (-400 : Int) ≤ (2 ^ (3 : Int)) ^ (-400 : Int) := by
        rw [zpow_neg, zpow_neg]
        exact inv_anti₀ (by positivity)
          (zpow_le_zpow_left₀ (by norm_num) (by norm_num) (by norm_num))
    _ = 2 ^ ((3 : Int) * -400) := (zpow_mul _ _ _).symm
    _ ≤ 2 ^ (-1075 : Int) := zpow_le_zpow_right₀ (by norm_num) (by norm_num)

namespace Decimal

/-- **A decimal is read as the nearest double**: it keeps its sign, and its magnitude is rounded. -/
theorem ofFloat?_toFloat {d : Decimal} (h : d.magnitude < overflowAt) :
    ∃ v, Exact.ofFloat? d.toFloat = some v ∧ v.negative = d.negative ∧
      v.magnitude = roundedMagnitude d.magnitude := by
  have hzero : Exact.ofFloat? 0 = some ⟨false, 0, 0⟩ := rfl
  unfold toFloat
  simp only
  split
  · rename_i hnone
    refine ⟨_, ofFloat?_signed hzero rfl d.negative, rfl, ?_⟩
    have hsmall : d.magnitude < 2 ^ (-1075 : Int) := by
      by_cases hdigits : d.digits = 0
      · rw [magnitude, hdigits, Nat.cast_zero, zero_mul]
        positivity
      · have htop : digitCount d.digits + d.exponent < -400 := by simpa [hdigits] using hnone
        calc d.magnitude < 10 ^ (digitCount d.digits + d.exponent) := (magnitude_bounds hdigits).2
          _ ≤ 10 ^ (-400 : Int) := zpow_le_zpow_right₀ (by norm_num) htop.le
          _ ≤ 2 ^ (-1075 : Int) := ten_zpow_le_halfLeast
    rw [roundedMagnitude_eq_zero d.magnitude_nonneg hsmall]
    exact zero_mul _
  split
  · rename_i hsome htop
    have hdigits : d.digits ≠ 0 := by simp_all
    have hlarge := (overflowAt_le_ten_zpow (by omega)).trans (magnitude_bounds hdigits).1
    exact absurd h (not_lt.mpr hlarge)
  · exact ofFloat?_nearest _ d.magnitude_nonneg h

end Decimal
end PocketCalc
