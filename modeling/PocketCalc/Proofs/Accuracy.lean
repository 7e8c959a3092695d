import PocketCalc.Proofs.Parts
import PocketCalc.Proofs.Shown

/-!
# Results are accurate and fit the display

What is shown differs from the number by half a unit of its last place at most: of the sixth decimal
place in positional notation, of the third significant digit in scientific notation.

* `IsFixedPoint`, `IsScientificForm`   the two forms a number is shown in;
* `abs_sub_placesDigits_le`            what rounding to decimal places leaves out;
* `natAbs_power_lt`                    powers of ten have three digits at most;
* `length_scientific_le`               and so a text in scientific notation is short;
* `result_accurate`                    length, form and error of every result.
-/

namespace PocketCalc.Format
open Text

/-! ## The two forms -/

/-- digits with a point among or behind them or none, and a minus sign in front or none -/
def IsFixedPoint (t : Text) : Prop :=
  ∃ negative w f, w ≠ [] ∧ IsAsciiDigits w ∧ IsAsciiFraction f ∧ t = withSign negative (w ++ f)

/-- such a numeral and a power of ten -/
def IsScientificForm (t : Text) (e : Int) : Prop :=
  ∃ m, IsFixedPoint m ∧ t = m ++ 'E' :: signedText e

theorem isFixedPoint_places (negative : Bool) {w r : Text} (hw : IsAsciiDigits w) (hne : w ≠ [])
    (hr : IsAsciiDigits r) : IsFixedPoint (withSign negative (w ++ fractionText r)) :=
  ⟨negative, w, fractionText r, hne, hw, isAsciiFraction_fractionText hr, rfl⟩

theorem isFixedPoint_zero : IsFixedPoint ['0'] :=
  ⟨false, ['0'], [], by decide, by decide, .inl rfl, rfl⟩

theorem isFixedPoint_clean_places {n k : Nat} (hn : n ≠ 0) (negative : Bool) (hk : k ≠ 0) :
    IsFixedPoint (clean (withSign negative (placesText n k))) := by
  obtain ⟨w, r, htext, hlength, -, hw, hr, hvalue⟩ := placesText_parts hn k
  have hne : w ≠ [] := by
    rintro rfl
    rw [List.length_nil] at hlength
    omega
  rw [htext, clean_places negative hw hne hr (by rw [hvalue]; exact hk)]
  exact isFixedPoint_places negative hw hne hr

theorem isScientificForm_scientific {v : Exact} {D : Nat} {E : Int} (hv : 0 < v.magnitude)
    (h : HasDigits mantissaPlaces v.magnitude D E) :
    IsScientificForm (scientific v) (E + mantissaPlaces) := by
  obtain ⟨w, r, htext, hone, -, hw, hr, -⟩ := scientific_parts hv h
  refine ⟨withSign v.negative (w ++ fractionText r), isFixedPoint_places v.negative hw ?_ hr, ?_⟩
  · exact List.ne_nil_of_length_pos (by omega)
  · rw [htext, ← List.append_assoc, withSign_append]

/-! ## What rounding leaves out -/

theorem abs_value_sub {d : Decimal} {v : Exact}
    (h : d.negative = v.negative ∨ d.magnitude = 0) :
    |d.value - v.value| = |v.magnitude - d.magnitude| := by
  unfold Decimal.value Exact.value
  rcases h with h | h
  · rw [h]
    cases v.negative with
    | false => exact abs_sub_comm _ _
    | true =>
      show |-d.magnitude - -v.magnitude| = _
      rw [neg_sub_neg]
  · rw [h, neg_zero, ite_self, zero_sub, sub_zero, abs_neg]
    split
    · exact abs_neg _
    · rfl

theorem abs_sub_placesDigits_le {q : Rat} (hq : 0 ≤ q) (n : Nat) :
    |q - placesDigits n q / 10 ^ n| ≤ 1 / 2 / 10 ^ n := by
  have hpow : (0 : Rat) < 10 ^ n := by positivity
  have hhalf := abs_sub_roundHalfEven_le_half (q * 10 ^ n)
  rw [← cast_placesDigits hq, Int.cast_natCast] at hhalf
  have hscale : q - placesDigits n q / 10 ^ n = (q * 10 ^ n - placesDigits n q) / 10 ^ n := by
    field_simp
  rw [hscale, abs_div, abs_of_pos hpow]
  exact div_le_div_of_nonneg_right hhalf hpow.le

/-! ## Lengths -/

theorem length_fractionText_le (r : Text) : (fractionText r).length ≤ r.length + 1 := by
  unfold fractionText
  split
  · exact Nat.zero_le _
  · exact Nat.succ_le_succ (length_trimEndWhile_le _ r)

/-- the power of ten of a double has three digits at most -/
theorem natAbs_power_lt {q : Rat} {D : Nat} {E : Int} (h : HasDigits mantissaPlaces q D E)
    (hpos : 0 < q) (hq : Representable q) (hfinite : q < overflowAt) :
    (E + mantissaPlaces).natAbs < 10 ^ 3 := by
  have hplaces : mantissaPlaces = 2 := rfl
  rw [hplaces] at h ⊢
  have hlow : (10 : Rat) ^ (-400 : Int) < 10 ^ (E + 1 + 2) := by
    obtain ⟨n, rfl⟩ := hq.exists_multiple
    have hn : (1 : Rat) ≤ n := by
      have hne : n ≠ 0 := by
        rintro rfl
        rw [Nat.cast_zero, zero_mul] at hpos
        exact lt_irrefl _ hpos
      exact_mod_cast Nat.one_le_iff_ne_zero.mpr hne
    calc (10 : Rat) ^ (-400 : Int) ≤ 2 ^ (-1075 : Int) := ten_zpow_le_halfLeast
      _ ≤ 2 ^ (-1074 : Int) := zpow_le_zpow_right₀ (by norm_num) (by norm_num)
      _ ≤ n * 2 ^ (-1074 : Int) := le_mul_of_one_le_left (by positivity) hn
      _ < (10 ^ 2 - 1 / 20) * 10 ^ (E + 1) := h.lt_next
      _ ≤ 10 ^ 2 * 10 ^ (E + 1) := by
        apply mul_le_mul_of_nonneg_right (by norm_num)
        positivity
      _ = 10 ^ (E + 1 + 2) := by
        rw [zpow_add₀ (by norm_num) (E + 1), mul_comm]
        rfl
  have hhigh : (10 : Rat) ^ E < 10 ^ (400 : Int) :=
    calc (10 : Rat) ^ E ≤ (10 ^ 2 - 1 / 20) * 10 ^ E := by
          apply le_mul_of_one_le_left (by positivity)
          norm_num
      _ ≤ q := h.order
      _ < overflowAt := hfinite
      _ ≤ 10 ^ (400 : Int) := Decimal.overflowAt_le_ten_zpow le_rfl
  have hlow := (zpow_lt_zpow_iff_right₀ (by norm_num)).mp hlow
  have hhigh := (zpow_lt_zpow_iff_right₀ (by norm_num)).mp hhigh
  omega

theorem length_signedText_le {k : Nat} {e : Int} (hk : 0 < k) (h : e.natAbs < 10 ^ k) :
    (signedText e).length ≤ k + 1 :=
  Nat.succ_le_succ ((Nat.length_toDigits_le_iff (by decide) hk).mpr h)

theorem length_scientific_le {x : Float} {v : Exact} (h : Exact.ofFloat? x = some v)
    (hv : 0 < v.magnitude) : (scientific v).length ≤ 10 := by
  have hdigits := hasDigits_significantDigits mantissaPlaces hv
  obtain ⟨w, r, htext, hone, hplaces, -⟩ := scientific_parts hv hdigits
  have hpower := natAbs_power_lt hdigits hv (representable_of_ofFloat? h)
    (magnitude_lt_overflowAt h)
  have hsigned := length_signedText_le (by decide) hpower
  have hfraction := length_fractionText_le r
  have hsign : v.negative.toNat ≤ 1 := Bool.toNat_le _
  rw [htext, length_withSign, List.length_append, List.length_append, List.length_cons]
  have hplaces : r.length = 2 := hplaces
  omega

/-! ## Results -/

theorem accurate_scientific {x : Float} {v : Exact} (h : Exact.ofFloat? x = some v)
    (hs : Scientific v.magnitude) :
    (result x).length ≤ 14 ∧ ∃ q e, Denotes (result x) v.negative q ∧
      IsScientificForm (result x) e ∧ |v.magnitude - q| ≤ 5 / 1000 * 10 ^ e := by
  have hpos := hs.pos
  have hdigits := hasDigits_significantDigits mantissaPlaces hpos
  generalize (significantDigits (mantissaPlaces + 1) v.magnitude).1 = D at hdigits
  generalize (significantDigits (mantissaPlaces + 1) v.magnitude).2 = E at hdigits
  rw [result_of_scientific h hs]
  refine ⟨(length_scientific_le h hpos).trans (by decide), _, E + mantissaPlaces,
    denotes_scientific hpos hdigits, isScientificForm_scientific hpos hdigits, ?_⟩
  calc |v.magnitude - D * 10 ^ E| ≤ 10 ^ E / 2 := hdigits.abs_sub_le
    _ = 5 / 1000 * 10 ^ (E + mantissaPlaces) := by
      rw [zpow_add₀ (by norm_num), zpow_natCast]
      show 10 ^ E / 2 = 5 / 1000 * (10 ^ E * 10 ^ 2)
      ring

/-- a result in positional notation: its length, its form and what it denotes -/
theorem fixed_form {x : Float} {v : Exact} (h : Exact.ofFloat? x = some v)
    (hs : ¬ Scientific v.magnitude) :
    (result x).length ≤ 13 + v.negative.toNat ∧ IsFixedPoint (result x) ∧
      ∃ b, Denotes (result x) b (units v.magnitude / 10 ^ 6) ∧
        (b = v.negative ∨ units v.magnitude = 0) := by
  rw [result_of_fixed h hs]
  have hunits := units_lt_of_not_scientific v.magnitude_nonneg hs
  generalize units v.magnitude = k at *
  by_cases hzero : k = 0
  · rw [hzero, Nat.cast_zero, zero_div, clean_zero]
    have hdenotes : Denotes ['0'] false 0 := ⟨⟨false, 0, 0⟩, by decide, rfl, zero_mul _⟩
    exact ⟨Nat.le_add_right_of_le (by decide), isFixedPoint_zero, false, hdenotes, .inr rfl⟩
  · exact ⟨length_clean_places (m := 6) (by decide) (by decide) v.negative hunits,
      isFixedPoint_clean_places (by decide) v.negative hzero, v.negative,
      denotes_clean_places (by decide) v.negative hzero, .inl rfl⟩

theorem accurate_fixed {x : Float} {v : Exact} (h : Exact.ofFloat? x = some v)
    (hs : ¬ Scientific v.magnitude) :
    (result x).length ≤ 14 ∧ ∃ b q, Denotes (result x) b q ∧ (b = v.negative ∨ q = 0) ∧
      IsFixedPoint (result x) ∧ |v.magnitude - q| ≤ 5 / 10 ^ 7 := by
  obtain ⟨hlength, hform, b, hdenotes, hb⟩ := fixed_form h hs
  have hsign : v.negative.toNat ≤ 1 := Bool.toNat_le _
  refine ⟨by omega, b, _, hdenotes, hb.imp_right fun hzero => ?_, hform, ?_⟩
  · rw [hzero, Nat.cast_zero, zero_div]
  · calc |v.magnitude - units v.magnitude / 10 ^ 6| ≤ 1 / 2 / 10 ^ 6 :=
          abs_sub_placesDigits_le v.magnitude_nonneg maxPlaces
      _ = 5 / 10 ^ 7 := by norm_num

/-- **Results are accurate and fit the display.**  A result is read as a number, it has a fixed
point or the scientific form, and the decimal that it denotes is off by half a unit of its last
place at most. -/
theorem result_accurate {x : Float} {v : Exact} (h : Exact.ofFloat? x = some v) :
    (result x).length ≤ resultLength ∧
      ∃ d, Decimal.ofNumeral? ((trim (result x)).map pointForComma) = some d ∧
        readNumber (result x) = .ok d.toFloat ∧
        (IsFixedPoint (result x) ∧ |d.value - v.value| ≤ 5 / 10 ^ 7 ∨
          ∃ e, IsScientificForm (result x) e ∧ |d.value - v.value| ≤ 5 / 1000 * 10 ^ e) := by
  have hlimit : resultLength = 15 := rfl
  have hread : ∀ {d}, Decimal.ofNumeral? ((trim (result x)).map pointForComma) = some d →
      readNumber (result x) = .ok d.toFloat := by
    intro d hd
    apply readNumber_of_readNumber?
    rw [readNumber?, hd, Option.map_some]
  by_cases hs : Scientific v.magnitude
  · obtain ⟨hlength, q, e, ⟨d, hd, hsign, rfl⟩, hform, herror⟩ := accurate_scientific h hs
    rw [← abs_value_sub (.inl hsign)] at herror
    exact ⟨by omega, d, hd, hread hd, .inr ⟨e, hform, herror⟩⟩
  · obtain ⟨hlength, b, q, ⟨d, hd, rfl, rfl⟩, hsign, hform, herror⟩ := accurate_fixed h hs
    rw [← abs_value_sub hsign] at herror
    exact ⟨by omega, d, hd, hread hd, .inl ⟨hform, herror⟩⟩

/-- the mantissa of `9.996e-8` carries: the text `1E-7` stands for another power of ten -/
theorem result_accurate_carry :
    Exact.ofFloat? 9.996e-8 = some ⟨false, 7552764058042396, -76⟩ ∧
      (result 9.996e-8).length ≤ resultLength ∧
        ∃ d, Decimal.ofNumeral? ((trim (result 9.996e-8)).map pointForComma) = some d ∧
          readNumber (result 9.996e-8) = .ok d.toFloat ∧
          (IsFixedPoint (result 9.996e-8) ∧
              |d.value - (⟨false, 7552764058042396, -76⟩ : Exact).value| ≤ 5 / 10 ^ 7 ∨
            ∃ e, IsScientificForm (result 9.996e-8) e ∧
              |d.value - (⟨false, 7552764058042396, -76⟩ : Exact).value| ≤ 5 / 1000 * 10 ^ e) :=
  have h : Exact.ofFloat? 9.996e-8 = some ⟨false, 7552764058042396, -76⟩ := by decide +kernel
  ⟨h, result_accurate h⟩

end PocketCalc.Format
