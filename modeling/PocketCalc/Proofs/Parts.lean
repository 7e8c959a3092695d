import PocketCalc.Proofs.Comparison
import PocketCalc.Proofs.Representable

/-!
# A double is its sign and its magnitude

Two finite doubles of one sign and one magnitude are the same double, so whatever is rounded to the
sign and the magnitude of a double is that double.

* `IsCanonical.eq`            significand and exponent are told by the magnitude;
* `magnitude_lt_overflowAt`   no finite double is rounded to infinity;
* `eq_of_magnitude_eq`        sign and magnitude tell a finite double;
* `nearest_magnitude`         a finite double is the nearest one to its own magnitude;
* `Decimal.toFloat_congr`     sign and magnitude of a decimal tell what it is read as.
-/

namespace PocketCalc
open Float.Model Float.Model.UnpackedFloat

/-! ## Unpacked parts -/

theorem IsCanonical.eq {m m' : Nat} {e e' : Int} (h : IsCanonical m e) (h' : IsCanonical m' e')
    (heq : (m : Rat) * 2 ^ e = m' * 2 ^ e') : m = m' ∧ e = e' := by
  rcases lt_trichotomy e e' with he | rfl | he
  · exact absurd heq (h.lt h' he).ne
  · have hpow : (2 : Rat) ^ e ≠ 0 := by positivity
    exact ⟨by exact_mod_cast mul_right_cancel₀ hpow heq, rfl⟩
  · exact absurd heq (h'.lt h he).ne'

/-- larger exponents are packed as infinity -/
theorem exponent_le_of_unpack {x : Float} {s : Sign} {m : Nat} {e : Int} {hm : 0 < m}
    (hx : x.toModel.unpack = .finite s m e hm) : e ≤ 971 := by
  by_contra hlt
  have hpack := pack_unpack_model x.toModel
  rw [hx, pack_of_overflow (by omega)] at hpack
  rw [← hpack, unpack_pack_of_isFinite_eq_false rfl] at hx
  cases hx

/-- no double is larger than the one of 53 bits with the largest exponent -/
theorem magnitude_le_largest {x : Float} {v : Exact} (h : Exact.ofFloat? x = some v) :
    v.magnitude ≤ (2 ^ 53 - 1) * 2 ^ (971 : Int) := by
  rcases parts_of_ofFloat? h with ⟨s, -, rfl⟩ | ⟨s, m, e, hm, hx, hcanonical, rfl⟩
  · rw [Exact.magnitude_zero]
    exact mul_nonneg (by norm_num) (by positivity)
  · have hm : (m : Rat) ≤ 2 ^ 53 - 1 := by
      have hlt : (m : Rat) + 1 ≤ 2 ^ 53 := by exact_mod_cast hcanonical.1
      linarith
    have he : (2 : Rat) ^ e ≤ 2 ^ (971 : Int) :=
      zpow_le_zpow_right₀ (by norm_num) (exponent_le_of_unpack hx)
    exact mul_le_mul hm he (by positivity) (by norm_num)

theorem magnitude_lt_overflowAt {x : Float} {v : Exact} (h : Exact.ofFloat? x = some v) :
    v.magnitude < overflowAt :=
  calc v.magnitude ≤ (2 ^ 53 - 1) * 2 ^ (971 : Int) := magnitude_le_largest h
    _ < (2 ^ 53 - 1 / 2) * 2 ^ (971 : Int) :=
      mul_lt_mul_of_pos_right (by norm_num) (by positivity)
    _ = overflowAt := overflowAt_eq.symm

/-! ## Identity -/

theorem sign_eq_of_beq {s t : Sign} (h : (s == .negative) = (t == .negative)) : s = t := by
  cases s <;> cases t
  · rfl
  · cases h
  · cases h
  · rfl

theorem mul_two_zpow_ne_zero {m : Nat} (hm : 0 < m) (e : Int) : (m : Rat) * 2 ^ e ≠ 0 := by
  have hm : (m : Rat) ≠ 0 := by exact_mod_cast hm.ne'
  positivity

theorem unpack_eq_zero {x : Float} {v : Exact} (h : Exact.ofFloat? x = some v) {s : Sign}
    (hsign : v.negative = (s == .negative)) (hmagnitude : v.magnitude = 0) :
    x.toModel.unpack = .zero s := by
  rcases parts_of_ofFloat? h with ⟨t, hx, rfl⟩ | ⟨t, m, e, hm, hx, hcanonical, rfl⟩
  · rw [hx, sign_eq_of_beq hsign]
  · exact absurd hmagnitude (mul_two_zpow_ne_zero hm e)

theorem unpack_eq_finite {x : Float} {v : Exact} (h : Exact.ofFloat? x = some v) {s : Sign}
    {m : Nat} {e : Int} {hm : 0 < m} (hsign : v.negative = (s == .negative))
    (hcanonical : IsCanonical m e) (hmagnitude : v.magnitude = m * 2 ^ e) :
    x.toModel.unpack = .finite s m e hm := by
  rcases parts_of_ofFloat? h with ⟨t, hx, rfl⟩ | ⟨t, m', e', hm', hx, hcanonical', rfl⟩
  · rw [Exact.magnitude_zero] at hmagnitude
    exact absurd hmagnitude.symm (mul_two_zpow_ne_zero hm e)
  · obtain ⟨rfl, rfl⟩ := hcanonical'.eq hcanonical hmagnitude
    rw [hx, sign_eq_of_beq hsign]

/-- **Sign and magnitude tell a finite double.** -/
theorem eq_of_magnitude_eq {x y : Float} {v w : Exact} (hv : Exact.ofFloat? x = some v)
    (hw : Exact.ofFloat? y = some w) (hsign : v.negative = w.negative)
    (hmagnitude : v.magnitude = w.magnitude) : x = y := by
  apply eq_of_unpack
  rcases parts_of_ofFloat? hw with ⟨s, hy, rfl⟩ | ⟨s, m, e, hm, hy, hcanonical, rfl⟩
  · rw [Exact.magnitude_zero] at hmagnitude
    rw [hy, unpack_eq_zero hv hsign hmagnitude]
  · rw [hy, unpack_eq_finite hv hsign hcanonical hmagnitude]

/-- only the zeros have no magnitude -/
theorem eq_zero_of_magnitude_eq_zero {x : Float} {v : Exact} (h : Exact.ofFloat? x = some v)
    (hzero : v.magnitude = 0) : x = 0 ∨ x = -0 := by
  have hmagnitude : ∀ b, v.magnitude = (⟨b, 0, 0⟩ : Exact).magnitude := fun b => by
    rw [hzero, Exact.magnitude_zero]
  cases hsign : v.negative with
  | false => exact .inl (eq_of_magnitude_eq h (w := ⟨false, 0, 0⟩) rfl hsign (hmagnitude false))
  | true => exact .inr (eq_of_magnitude_eq h (w := ⟨true, 0, 0⟩) rfl hsign (hmagnitude true))

theorem eq_nearest {x : Float} {v : Exact} {b : Bool} {q : Rat} (h : Exact.ofFloat? x = some v)
    (hsign : v.negative = b) (hq : 0 ≤ q) (hfinite : q < overflowAt)
    (hmagnitude : v.magnitude = roundedMagnitude q) : x = nearest b q := by
  obtain ⟨w, hw, hwsign, hwmagnitude⟩ := ofFloat?_nearest b hq hfinite
  exact eq_of_magnitude_eq h hw (hsign.trans hwsign.symm) (hmagnitude.trans hwmagnitude.symm)

theorem nearest_magnitude {x : Float} {v : Exact} (h : Exact.ofFloat? x = some v) :
    nearest v.negative v.magnitude = x :=
  (eq_nearest h rfl v.magnitude_nonneg (magnitude_lt_overflowAt h)
    (roundedMagnitude_eq v.magnitude_nonneg (representable_of_ofFloat? h)).symm).symm

namespace Decimal

theorem toFloat_eq_nearest {d : Decimal} (h : d.magnitude < overflowAt) :
    d.toFloat = nearest d.negative d.magnitude := by
  obtain ⟨v, hv, hsign, hmagnitude⟩ := ofFloat?_toFloat h
  exact eq_nearest hv hsign d.magnitude_nonneg h hmagnitude

/-- decimals of one sign and one magnitude are read alike -/
theorem toFloat_congr {d d' : Decimal} (hsign : d.negative = d'.negative)
    (hmagnitude : d.magnitude = d'.magnitude) : d.toFloat = d'.toFloat := by
  by_cases h : d.magnitude < overflowAt
  · rw [toFloat_eq_nearest h, toFloat_eq_nearest (hmagnitude ▸ h), hsign, hmagnitude]
  · rw [not_lt] at h
    rw [toFloat_eq_infinity h, toFloat_eq_infinity (hmagnitude ▸ h), hsign]

/-- a decimal of the sign and the magnitude of a double is read as that -/
theorem toFloat_eq_of_magnitude_eq {d : Decimal} {x : Float} {v : Exact}
    (h : Exact.ofFloat? x = some v) (hsign : d.negative = v.negative)
    (hmagnitude : d.magnitude = v.magnitude) : d.toFloat = x := by
  rw [toFloat_eq_nearest (hmagnitude ▸ magnitude_lt_overflowAt h), hsign, hmagnitude,
    nearest_magnitude h]

end Decimal
end PocketCalc
