import PocketCalc.Proofs.Negation

/-!
# Comparing doubles

Finite doubles compare as the numbers that they denote: of two significands with 53 bits the one
with the larger exponent is the larger one, and those of fewer bits have the least exponent there
is.

* `parts_of_ofFloat?`      the parts of a finite double are those it is unpacked into;
* `compare_significands`   significands compare as their exponents do, and then as they do;
* `compare_unpack`         the comparison of the parts is that of the numbers;
* `lt_iff_value_lt`, `le_iff_value_le`   what the order of doubles says;
* `ofFloat?_abs`           the parts of a double without its sign.
-/

namespace PocketCalc
open Float.Model Float.Model.UnpackedFloat

/-- a significand of 53 bits, or of fewer and with the least exponent -/
def IsCanonical (m : Nat) (e : Int) : Prop := m < 2 ^ 53 ∧ -1074 ≤ e ∧ (e = -1074 ∨ 2 ^ 52 ≤ m)

theorem isCanonical_unpack (x : Float) {s : Sign} {m : Nat} {e : Int} {hm : 0 < m}
    (hx : x.toModel.unpack = .finite s m e hm) : IsCanonical m e := by
  refine ⟨mantissa_lt x hx, ?_⟩
  rcases canonical_unpack x hx with ⟨-, he⟩ | ⟨hlog, he⟩
  · exact ⟨he.ge, .inl he⟩
  · exact ⟨he, .inr ((Nat.le_log2 hm.ne').mp hlog.ge)⟩

theorem IsCanonical.lt {m m' : Nat} {e e' : Int} (h : IsCanonical m e) (h' : IsCanonical m' e')
    (he : e < e') : (m : Rat) * 2 ^ e < m' * 2 ^ e' := by
  have hm : (m : Rat) < 2 ^ 53 := by exact_mod_cast h.1
  have hm' : (2 : Rat) ^ 52 ≤ m' := by
    have hleast : e' ≠ -1074 := by
      have hbound := h.2.1
      omega
    exact_mod_cast h'.2.2.resolve_left hleast
  have hpow : (0 : Rat) < 2 ^ e := by positivity
  calc (m : Rat) * 2 ^ e < 2 ^ 53 * 2 ^ e := mul_lt_mul_of_pos_right hm hpow
    _ = 2 ^ 52 * 2 ^ (e + 1) := by rw [zpow_add_one₀ (by norm_num)]; ring
    _ ≤ 2 ^ 52 * 2 ^ e' := by
      gcongr
      · norm_num
      · omega
    _ ≤ m' * 2 ^ e' := by gcongr

/-- with one exponent only the significands count -/
theorem compare_mul_right {u : Rat} (hu : 0 < u) (m m' : Nat) :
    compare ((m : Rat) * u) (m' * u) = compare m m' := by
  rcases lt_trichotomy m m' with hm | rfl | hm
  · have hcast : (m : Rat) < m' := by exact_mod_cast hm
    rw [compare_lt_iff_lt.mpr hm, compare_lt_iff_lt.mpr (mul_lt_mul_of_pos_right hcast hu)]
  · rw [compare_eq_iff_eq.mpr rfl, compare_eq_iff_eq.mpr rfl]
  · have hcast : (m' : Rat) < m := by exact_mod_cast hm
    rw [compare_gt_iff_gt.mpr hm, compare_gt_iff_gt.mpr (mul_lt_mul_of_pos_right hcast hu)]

theorem compare_significands {m m' : Nat} {e e' : Int} (h : IsCanonical m e)
    (h' : IsCanonical m' e') :
    (compare e e').then (compare m m') = compare ((m : Rat) * 2 ^ e) (m' * 2 ^ e') := by
  rcases lt_trichotomy e e' with he | rfl | he
  · rw [compare_lt_iff_lt.mpr he, compare_lt_iff_lt.mpr (h.lt h' he)]
    rfl
  · rw [compare_eq_iff_eq.mpr rfl, compare_mul_right (by positivity)]
    rfl
  · rw [compare_gt_iff_gt.mpr he, compare_gt_iff_gt.mpr (h'.lt h he)]
    rfl

theorem compare_neg (a b : Rat) : compare (-a) (-b) = (compare a b).swap := by
  rcases lt_trichotomy a b with h | rfl | h
  · rw [compare_lt_iff_lt.mpr h, compare_gt_iff_gt.mpr (neg_lt_neg h)]
    rfl
  · rw [compare_eq_iff_eq.mpr rfl, compare_eq_iff_eq.mpr rfl]
    rfl
  · rw [compare_gt_iff_gt.mpr h, compare_lt_iff_lt.mpr (neg_lt_neg h)]
    rfl

theorem Exact.magnitude_zero (b : Bool) (e : Int) : (Exact.mk b 0 e).magnitude = 0 := by
  rw [Exact.magnitude, Nat.cast_zero, zero_mul]

theorem Exact.value_eq_zero {v : Exact} (h : v.magnitude = 0) : v.value = 0 := by
  rw [Exact.value, h, neg_zero, ite_self]

/-- the parts of a finite double are those it is unpacked into -/
theorem parts_of_ofFloat? {x : Float} {v : Exact} (h : Exact.ofFloat? x = some v) :
    (∃ s, x.toModel.unpack = .zero s ∧ v = ⟨s == .negative, 0, 0⟩) ∨
      ∃ s m e hm, x.toModel.unpack = .finite s m e hm ∧ IsCanonical m e ∧
        v = ⟨s == .negative, m, e⟩ := by
  unfold Exact.ofFloat? at h
  split at h
  · rename_i s m e hm hx
    cases h
    exact .inr ⟨s, m, e, hm, hx, isCanonical_unpack x hx, rfl⟩
  · rename_i s hx
    cases h
    exact .inl ⟨s, hx, rfl⟩
  · cases h
  · cases h

/-- and the number that they denote -/
theorem value_of_ofFloat? {x : Float} {v : Exact} (h : Exact.ofFloat? x = some v) :
    (∃ s, x.toModel.unpack = .zero s ∧ v.value = 0) ∨
    ∃ m e hm, IsCanonical m e ∧
      (x.toModel.unpack = .finite .positive m e hm ∧ v.value = m * 2 ^ e ∨
        x.toModel.unpack = .finite .negative m e hm ∧ v.value = -(m * 2 ^ e)) := by
  rcases parts_of_ofFloat? h with ⟨s, hx, rfl⟩ | ⟨s, m, e, hm, hx, hcanonical, rfl⟩
  · exact .inl ⟨s, hx, Exact.value_eq_zero (Exact.magnitude_zero _ _)⟩
  · refine .inr ⟨m, e, hm, hcanonical, ?_⟩
    cases s with
    | positive => exact .inl ⟨hx, rfl⟩
    | negative => exact .inr ⟨hx, rfl⟩

theorem compare_unpack {x y : Float} {v w : Exact} (hv : Exact.ofFloat? x = some v)
    (hw : Exact.ofFloat? y = some w) :
    x.toModel.unpack.compare y.toModel.unpack = some (compare v.value w.value) := by
  have hpos : ∀ {m : Nat} (e : Int), 0 < m → (0 : Rat) < m * 2 ^ e := by
    intro m e hm
    have hm : (0 : Rat) < m := by exact_mod_cast hm
    positivity
  rcases value_of_ofFloat? hv with ⟨s, hx, hxv⟩ | ⟨m, e, hm, hcanonical, ⟨hx, hxv⟩ | ⟨hx, hxv⟩⟩ <;>
    rcases value_of_ofFloat? hw with
      ⟨t, hy, hyv⟩ | ⟨m', e', hm', hcanonical', ⟨hy, hyv⟩ | ⟨hy, hyv⟩⟩ <;>
    rw [hx, hy, hxv, hyv]
  case inl.inl => rw [compare_eq_iff_eq.mpr rfl]; rfl
  case inl.inr.inl => rw [compare_lt_iff_lt.mpr (hpos e' hm')]; rfl
  case inl.inr.inr => rw [compare_gt_iff_gt.mpr (neg_lt_zero.mpr (hpos e' hm'))]; rfl
  case inr.inl.inl => rw [compare_gt_iff_gt.mpr (hpos e hm)]; rfl
  case inr.inl.inr.inl => rw [← compare_significands hcanonical hcanonical']; rfl
  case inr.inl.inr.inr =>
    rw [compare_gt_iff_gt.mpr ((neg_lt_zero.mpr (hpos e' hm')).trans (hpos e hm))]; rfl
  case inr.inr.inl => rw [compare_lt_iff_lt.mpr (neg_lt_zero.mpr (hpos e hm))]; rfl
  case inr.inr.inr.inl =>
    rw [compare_lt_iff_lt.mpr ((neg_lt_zero.mpr (hpos e hm)).trans (hpos e' hm'))]; rfl
  case inr.inr.inr.inr =>
    rw [compare_neg, ← compare_significands hcanonical hcanonical']; rfl

/-- **Finite doubles are in order as the numbers that they denote.** -/
theorem lt_iff_value_lt {x y : Float} {v w : Exact} (hv : Exact.ofFloat? x = some v)
    (hw : Exact.ofFloat? y = some w) : x < y ↔ v.value < w.value := by
  rw [lt_eq, UnpackedFloat.lt, compare_unpack hv hw, ← compare_lt_iff_lt]
  cases compare v.value w.value <;> decide

theorem le_iff_value_le {x y : Float} {v w : Exact} (hv : Exact.ofFloat? x = some v)
    (hw : Exact.ofFloat? y = some w) : x ≤ y ↔ v.value ≤ w.value := by
  rw [le_eq, UnpackedFloat.le, compare_unpack hv hw, Option.any_some, ← compare_le_iff_le]
  cases compare v.value w.value <;> decide

/-! ## Magnitudes -/

/-- the sign is taken off a negative double, and nothing else is done -/
theorem abs_eq_signed {x : Float} {v : Exact} (h : Exact.ofFloat? x = some v) :
    x.abs = signed v.negative x := by
  have hkeep : x.toModel.unpack.abs = x.toModel.unpack → x.abs = x := by
    intro habs
    apply eq_of_unpack
    show (Float.Model.pack x.toModel.unpack.abs).unpack = _
    rw [habs, pack_unpack_model]
  have hflip : x.toModel.unpack.abs = x.toModel.unpack.neg → x.abs = -x := by
    intro habs
    apply eq_of_unpack
    show (Float.Model.pack x.toModel.unpack.abs).unpack = _
    rw [habs, unpack_pack_neg, pack_unpack_model, unpack_neg]
  rcases parts_of_ofFloat? h with ⟨s, hx, rfl⟩ | ⟨s, m, e, hm, hx, -, rfl⟩ <;>
    rw [hx] at hkeep hflip
  all_goals
    cases s with
    | positive => exact hkeep rfl
    | negative => exact hflip rfl

theorem ofFloat?_abs {x : Float} {v : Exact} (h : Exact.ofFloat? x = some v) :
    Exact.ofFloat? x.abs = some { v with negative := false } := by
  rw [abs_eq_signed h]
  obtain ⟨negative, m, e⟩ := v
  cases negative with
  | false => exact h
  | true => exact ofFloat?_neg h

theorem abs_lt_iff_magnitude_lt {x y : Float} {v w : Exact} (hv : Exact.ofFloat? x = some v)
    (hw : Exact.ofFloat? y = some w) : x.abs < y ↔ v.magnitude < w.value :=
  lt_iff_value_lt (ofFloat?_abs hv) hw

theorem le_abs_iff_le_magnitude {x y : Float} {v w : Exact} (hv : Exact.ofFloat? x = some v)
    (hw : Exact.ofFloat? y = some w) : y ≤ x.abs ↔ w.value ≤ v.magnitude :=
  le_iff_value_le hw (ofFloat?_abs hv)

theorem lt_abs_iff_lt_magnitude {x y : Float} {v w : Exact} (hv : Exact.ofFloat? x = some v)
    (hw : Exact.ofFloat? y = some w) : y < x.abs ↔ w.value < v.magnitude :=
  lt_iff_value_lt hw (ofFloat?_abs hv)

end PocketCalc
