import PocketCalc.Proofs.Comparison
import PocketCalc.Proofs.Denoted
import PocketCalc.Proofs.Significant

/-!
# What the display shows

A number is scientific by its magnitude alone, and what is shown denotes the number of units it was
rounded to: of the sixth decimal place, or of the third significant digit.

* `Scientific`             the magnitudes in scientific notation;
* `isScientific_iff`       the display tells them;
* `units`                  a magnitude in units of the sixth decimal place;
* `placesText_parts`       the digits around the point;
* `denotes_clean_places`   what a positional text denotes;
* `scientific_parts`       the digits of a text in scientific notation;
* `denotes_scientific`     what it denotes;
* `result_of_scientific`, `result_of_fixed`   which of the two is shown.
-/

namespace PocketCalc.Format
open Text

/-! ## The two notations -/

/-- the double next to `10^(-7)`, below it by less than `10^(-23)` -/
def leastFixed : Rat := 7555786372591432 / 2 ^ 76

/-- the magnitudes that are shown in scientific notation -/
def Scientific (q : Rat) : Prop := (0 < q ∧ q < leastFixed) ∨ 10 ^ 6 - 1 / 2 / 10 ^ 6 ≤ q

theorem Scientific.pos {q : Rat} (h : Scientific q) : 0 < q := by
  rcases h with ⟨hpos, -⟩ | hhigh
  · exact hpos
  · exact lt_of_lt_of_le (by norm_num) hhigh

theorem ofFloat?_limits :
    Exact.ofFloat? scientificLow = some ⟨false, 7555786372591432, -76⟩ ∧
      Exact.ofFloat? scientificHigh = some ⟨false, 8589934592000000, -33⟩ := by
  decide +kernel

theorem ofFloat?_zero : Exact.ofFloat? 0 = some ⟨false, 0, 0⟩ := rfl

theorem representable_leastFixed : Representable leastFixed :=
  ⟨7555786372591432, -76, by norm_num, by norm_num, by norm_num [leastFixed]⟩

theorem requiresScientific_iff {x : Float} {v : Exact} (h : Exact.ofFloat? x = some v) :
    requiresScientific x = true ↔
      10 ^ 6 ≤ v.magnitude ∨ (0 < v.magnitude ∧ v.magnitude < leastFixed) := by
  have hlow : (⟨false, 7555786372591432, -76⟩ : Exact).value = leastFixed := by
    norm_num [Exact.value, Exact.magnitude, leastFixed]
  have hhigh : (⟨false, 8589934592000000, -33⟩ : Exact).value = 10 ^ 6 := by
    norm_num [Exact.value, Exact.magnitude]
  have hzero : (⟨false, 0, 0⟩ : Exact).value = 0 := by norm_num [Exact.value, Exact.magnitude]
  unfold requiresScientific
  rw [Bool.or_eq_true, Bool.and_eq_true, decide_eq_true_eq, decide_eq_true_eq, decide_eq_true_eq,
    le_abs_iff_le_magnitude h ofFloat?_limits.2, lt_abs_iff_lt_magnitude h ofFloat?_zero,
    abs_lt_iff_magnitude_lt h ofFloat?_limits.1, hlow, hhigh, hzero]

/-- the largest double below `10^6` -/
def belowHigh : Rat := (2 ^ 20 * 10 ^ 6 - 1) / 2 ^ 20

theorem representable_belowHigh : Representable belowHigh :=
  ⟨2 ^ 20 * 10 ^ 6 - 1, -20, by norm_num, by norm_num, by norm_num [belowHigh]⟩

theorem representable_high : Representable (10 ^ 6) :=
  ⟨10 ^ 6, 0, by norm_num, by norm_num, by norm_num⟩

/-- the number of units of the sixth decimal place -/
def units (q : Rat) : Nat := placesDigits maxPlaces q

theorem cast_placesDigits {q : Rat} (hq : 0 ≤ q) (n : Nat) :
    (placesDigits n q : Int) = roundHalfEven (q * 10 ^ n) := by
  apply Int.toNat_of_nonneg
  rw [le_roundHalfEven_iff (by decide)]
  have hnonneg : 0 ≤ q * 10 ^ n := by positivity
  push_cast
  linarith

theorem cast_units {q : Rat} (hq : 0 ≤ q) : (units q : Int) = roundHalfEven (q * 10 ^ 6) :=
  cast_placesDigits hq maxPlaces

theorem placesDigits_lt_iff {q : Rat} (hq : 0 ≤ q) {m n : Nat} (hpos : 0 < m + n) :
    placesDigits n q < 10 ^ (m + n) ↔ q < 10 ^ m - 1 / 2 / 10 ^ n := by
  have heven : (10 ^ (m + n) : Int) % 2 = 0 :=
    Int.emod_eq_zero_of_dvd (dvd_pow (by decide) hpos.ne')
  have hround := le_roundHalfEven_iff (q := q * 10 ^ n) heven
  have hscale :
      ((10 ^ (m + n) : Int) : Rat) - 1 / 2 ≤ q * 10 ^ n ↔ 10 ^ m - 1 / 2 / 10 ^ n ≤ q := by
    have hpow : (0 : Rat) < 10 ^ n := by positivity
    push_cast
    rw [← div_le_iff₀ hpow, sub_div, pow_add, mul_div_cancel_right₀ _ hpow.ne']
  rw [← not_le, ← not_le, not_iff_not, ← hscale, ← hround, ← cast_placesDigits hq]
  exact_mod_cast Iff.rfl

theorem units_lt_iff {q : Rat} (hq : 0 ≤ q) :
    units q < 10 ^ 12 ↔ q < 10 ^ 6 - 1 / 2 / 10 ^ 6 :=
  placesDigits_lt_iff (m := 6) (n := 6) hq (by decide)

theorem placesDigits_le {q : Rat} (hq : 0 ≤ q) {m n : Nat} (h : q ≤ 10 ^ m) :
    placesDigits n q ≤ 10 ^ (m + n) := by
  have hround := roundHalfEven_le (q * 10 ^ n)
  rw [← cast_placesDigits hq, Int.cast_natCast] at hround
  have hscale : q * 10 ^ n ≤ 10 ^ (m + n) := by
    rw [pow_add]
    exact mul_le_mul_of_nonneg_right h (by positivity)
  have hlt : (placesDigits n q : Rat) < 10 ^ (m + n) + 1 := by linarith
  exact Nat.lt_succ_iff.mp (by exact_mod_cast hlt)

/-- what is not rounded up to `10^6` is read as a double below it -/
theorem roundedMagnitude_units_le {n : Nat} (hn : n < 10 ^ 12) :
    roundedMagnitude (n / 10 ^ 6) ≤ belowHigh := by
  apply roundedMagnitude_le (by positivity) representable_belowHigh
  have hcast : (n : Rat) + 1 ≤ 10 ^ 12 := by exact_mod_cast hn
  unfold belowHigh
  rw [div_le_div_iff₀ (by norm_num) (by norm_num)]
  linarith

/-- and no unit as less than the least double in positional notation -/
theorem leastFixed_le_roundedMagnitude_units {n : Nat} (hn : n ≠ 0) :
    leastFixed ≤ roundedMagnitude (n / 10 ^ 6) := by
  apply le_roundedMagnitude (by positivity) representable_leastFixed
  have hcast : (1 : Rat) ≤ n := by exact_mod_cast Nat.one_le_iff_ne_zero.mpr hn
  calc leastFixed ≤ 1 / 10 ^ 6 := by norm_num [leastFixed]
    _ ≤ n / 10 ^ 6 := by gcongr

theorem units_lt_overflowAt {n : Nat} (hn : n ≤ 10 ^ 12) : (n / 10 ^ 6 : Rat) < overflowAt := by
  have hcast : (n : Rat) ≤ 10 ^ 12 := by exact_mod_cast hn
  calc (n / 10 ^ 6 : Rat) ≤ 10 ^ 12 / 10 ^ 6 := by gcongr
    _ < 2 ^ (20 : Int) := by norm_num
    _ ≤ 2 ^ (1023 : Int) := zpow_le_zpow_right₀ (by norm_num) (by norm_num)
    _ ≤ overflowAt := overflowAt_bounds.1

/-- what is rounded to places needs scientific notation only if it is rounded up to `10^6` -/
theorem requiresScientific_roundPlaces {x : Float} {v : Exact} (h : Exact.ofFloat? x = some v)
    (hv : v.magnitude < 10 ^ 6) :
    requiresScientific (roundPlaces maxPlaces x) = true ↔
      10 ^ 6 - 1 / 2 / 10 ^ 6 ≤ v.magnitude := by
  have hnonneg := v.magnitude_nonneg
  have hmagnitude : (Decimal.mk v.negative (units v.magnitude) (-6)).magnitude =
      units v.magnitude / 10 ^ 6 := by
    rw [Decimal.magnitude, zpow_neg, div_eq_mul_inv]
    rfl
  have hunits : units v.magnitude ≤ 10 ^ 12 := placesDigits_le (m := 6) hnonneg hv.le
  have hfinite := units_lt_overflowAt hunits
  rw [← hmagnitude] at hfinite
  obtain ⟨w, hw, -, hround⟩ := Decimal.ofFloat?_toFloat hfinite
  have hplaces : roundPlaces maxPlaces x =
      (Decimal.mk v.negative (units v.magnitude) (-6)).toFloat := by
    unfold roundPlaces
    rw [h]
    rfl
  rw [hplaces, requiresScientific_iff hw, hround, hmagnitude]
  by_cases hlarge : units v.magnitude < 10 ^ 12
  · have hbelow := roundedMagnitude_units_le hlarge
    have hhigh : belowHigh < 10 ^ 6 := by norm_num [belowHigh]
    refine iff_of_false ?_ (not_le.mpr ((units_lt_iff hnonneg).mp hlarge))
    rintro (hge | ⟨hpos, hlow⟩)
    · linarith
    · by_cases hzero : units v.magnitude = 0
      · rw [hzero, Nat.cast_zero, zero_div, roundedMagnitude_eq le_rfl representable_zero] at hpos
        exact lt_irrefl _ hpos
      · exact absurd hlow (not_lt.mpr (leastFixed_le_roundedMagnitude_units hzero))
  · refine iff_of_true (.inl ?_) (not_lt.mp fun hlt => hlarge ((units_lt_iff hnonneg).mpr hlt))
    apply le_roundedMagnitude (by positivity) representable_high
    have hcast : (10 : Rat) ^ 12 ≤ units v.magnitude := by exact_mod_cast not_lt.mp hlarge
    linarith

/-- **The magnitude tells the notation.** -/
theorem isScientific_iff {x : Float} {v : Exact} (h : Exact.ofFloat? x = some v) :
    isScientific x = true ↔ Scientific v.magnitude := by
  unfold isScientific Scientific
  rw [Bool.or_eq_true, requiresScientific_iff h]
  by_cases hv : v.magnitude < 10 ^ 6
  · rw [requiresScientific_roundPlaces h hv]
    constructor
    · rintro ((hhigh | hlow) | hround)
      · linarith
      · exact .inl hlow
      · exact .inr hround
    · rintro (hlow | hround)
      · exact .inl (.inr hlow)
      · exact .inr hround
  · rw [not_lt] at hv
    exact iff_of_true (.inl (.inl hv)) (.inr (by linarith))

/-! ## Positional texts -/

/-- a number of units is written with a digit before the point at least -/
theorem placesText_parts {n : Nat} (hn : n ≠ 0) (k : Nat) :
    ∃ w r, placesText n k = w ++ '.' :: r ∧ w.length = max 1 (digitCount k - n) ∧ r.length = n ∧
      IsAsciiDigits w ∧ IsAsciiDigits r ∧ ofDigits (digitValues (w ++ r)) = k := by
  unfold placesText
  simp only
  rw [if_neg hn]
  generalize hds : List.replicate (n + 1 - (natText k).length) '0' ++ natText k = ds
  have hascii : IsAsciiDigits ds := by
    rw [← hds]
    exact isAsciiDigits_append.mpr ⟨isAsciiDigits_replicate _, isAsciiDigits_natText k⟩
  have hlength : ds.length = max (n + 1) (digitCount k) := by
    rw [← hds, List.length_append, List.length_replicate]
    show n + 1 - digitCount k + digitCount k = _
    omega
  have hvalue : ofDigits (digitValues ds) = k := by
    rw [← hds, ofDigits_zeros_append, ofDigits_natText]
  refine ⟨_, _, rfl, ?_, ?_, fun c hc => hascii c (List.mem_of_mem_take hc),
    fun c hc => hascii c (List.mem_of_mem_drop hc), ?_⟩
  · rw [List.length_take]
    omega
  · rw [List.length_drop]
    omega
  · rw [List.take_append_drop]
    exact hvalue

theorem withSign_append (negative : Bool) (s t : Text) :
    withSign negative (s ++ t) = withSign negative s ++ t := by
  cases negative <;> rfl

/-- in front of a point stand only digits and a sign -/
theorem ne_of_mem_withSign {negative : Bool} {w : Text} (hw : IsAsciiDigits w) {c : Char}
    (hc : c ∈ withSign negative w) : c ≠ '.' ∧ c ≠ 'E' := by
  cases negative with
  | false => exact ne_of_isAsciiDigit (hw c hc)
  | true =>
    rcases List.mem_cons.mp hc with rfl | hc
    · decide
    · exact ne_of_isAsciiDigit (hw c hc)

theorem denotes_places (negative : Bool) {w r : Text} (hw : IsAsciiDigits w) (hne : w ≠ [])
    (hr : IsAsciiDigits r) :
    Denotes (withSign negative (w ++ fractionText r)) negative
      (ofDigits (digitValues (w ++ r)) / 10 ^ r.length) := by
  have hdenotes := denotes_parts negative hne hw hr isPowerText_nil
  rwa [List.append_nil, zero_sub, zpow_neg, ← div_eq_mul_inv, zpow_natCast] at hdenotes

/-- what is left without the zeros at the end of a fraction, unless that is negative zero -/
theorem clean_pointed (negative : Bool) {w r : Text} (hw : IsAsciiDigits w)
    (hr : IsAsciiDigits r) (hne : w ≠ []) :
    clean (withSign negative (w ++ '.' :: r)) =
      if withSign negative (w ++ fractionText r) = ['-', '0'] then ['0']
      else withSign negative (w ++ fractionText r) := by
  have hpoint : (withSign negative w ++ '.' :: r).contains '.' = true := by simp
  have hpower : (withSign negative w ++ '.' :: r).contains 'E' = false := by
    rw [← Bool.not_eq_true, List.contains_iff_mem, List.mem_append, List.mem_cons]
    rintro (hmem | hmem | hmem)
    · exact (ne_of_mem_withSign hw hmem).2 rfl
    · exact absurd hmem (by decide)
    · exact (ne_of_isAsciiDigit (hr _ hmem)).2 rfl
  have htrim : trimPlaces (withSign negative w ++ '.' :: r) =
      withSign negative w ++ fractionText r :=
    trimPlaces_eq (fun c hc => (ne_of_mem_withSign hw (List.mem_of_mem_getLast? hc)).1) hr
  have hempty : withSign negative w ++ fractionText r ≠ [] := by
    cases negative <;> simp [withSign, hne]
  unfold clean
  rw [withSign_append, withSign_append, hpoint, hpower, Bool.not_false, Bool.and_true, if_pos rfl,
    htrim]
  simp only [hempty, decide_false, Bool.false_or, decide_eq_true_eq]

/-- the zeros at the end of a fraction are left out, and zero has no sign -/
theorem clean_places (negative : Bool) {w r : Text} (hw : IsAsciiDigits w) (hne : w ≠ [])
    (hr : IsAsciiDigits r) (hpos : ofDigits (digitValues (w ++ r)) ≠ 0) :
    clean (withSign negative (w ++ '.' :: r)) = withSign negative (w ++ fractionText r) := by
  have hminus : withSign negative (w ++ fractionText r) ≠ ['-', '0'] := by
    intro heq
    obtain ⟨d, hd, -, hvalue⟩ := denotes_places negative hw hne hr
    have hzero : Decimal.ofNumeral? ((trim ['-', '0']).map pointForComma) = some ⟨true, 0, 0⟩ := by
      decide
    rw [heq, hzero] at hd
    cases hd
    have hfraction : (ofDigits (digitValues (w ++ r)) : Rat) / 10 ^ r.length = 0 := by
      rw [← hvalue, Decimal.magnitude, Nat.cast_zero, zero_mul]
    rw [div_eq_zero_iff, Nat.cast_eq_zero] at hfraction
    exact hfraction.elim hpos (pow_ne_zero _ (by norm_num))
  rw [clean_pointed negative hw hr hne, if_neg hminus]

theorem length_clean_le (t : Text) : (clean t).length ≤ max 1 t.length := by
  have htrim : (trimPlaces t).length ≤ t.length :=
    (length_trimEndWhile_le _ _).trans (length_trimEndWhile_le _ _)
  have hkept : ∀ b : Bool, (if b = true then trimPlaces t else t).length ≤ t.length := by
    intro b
    cases b with
    | false => exact le_rfl
    | true => exact htrim
  have hkept := hkept (t.contains '.' && !t.contains 'E')
  unfold clean
  generalize (if (t.contains '.' && !t.contains 'E') = true then trimPlaces t else t) = u at *
  show (if _ then ['0'] else u).length ≤ _
  split
  · exact le_max_left _ _
  · exact hkept.trans (le_max_right _ _)

theorem length_withSign (negative : Bool) (t : Text) :
    (withSign negative t).length = t.length + negative.toNat := by
  cases negative <;> rfl

/-- the digits before the point and the places behind it, the point and the sign -/
theorem length_clean_places {n m k : Nat} (hn : n ≠ 0) (hm : 0 < m) (negative : Bool)
    (hk : k < 10 ^ (m + n)) :
    (clean (withSign negative (placesText n k))).length ≤ m + n + 1 + negative.toNat := by
  obtain ⟨w, r, htext, hlength, hplaces, -⟩ := placesText_parts hn k
  have hcount : digitCount k ≤ m + n :=
    (Nat.length_toDigits_le_iff (by decide) (by omega)).mpr hk
  have hsigned : (withSign negative (placesText n k)).length ≤ m + n + 1 + negative.toNat := by
    rw [length_withSign, htext, List.length_append, List.length_cons, hlength, hplaces]
    omega
  exact (length_clean_le _).trans (max_le (by omega) hsigned)

theorem denotes_clean_places {n k : Nat} (hn : n ≠ 0) (negative : Bool) (hk : k ≠ 0) :
    Denotes (clean (withSign negative (placesText n k))) negative (k / 10 ^ n) := by
  obtain ⟨w, r, htext, hlength, hplaces, hw, hr, hvalue⟩ := placesText_parts hn k
  have hne : w ≠ [] := by
    rintro rfl
    rw [List.length_nil] at hlength
    omega
  have hdenotes := denotes_places negative hw hne hr
  rw [hvalue, hplaces] at hdenotes
  rw [htext, clean_places negative hw hne hr (by rw [hvalue]; exact hk)]
  exact hdenotes

theorem clean_zero (negative : Bool) :
    clean (withSign negative (placesText maxPlaces 0)) = ['0'] := by
  cases negative <;> decide

/-! ## Texts in scientific notation -/

/-- the length of a number between two powers of ten -/
theorem length_natText {n D : Nat} (hleast : 10 ^ n ≤ D) (hmost : D < 10 ^ (n + 1)) :
    (natText D).length = n + 1 := by
  have hle : (natText D).length ≤ n + 1 :=
    (Nat.length_toDigits_le_iff (by decide) (Nat.succ_pos n)).mpr hmost
  have hge : 10 ^ n < 10 ^ (natText D).length := lt_of_le_of_lt hleast (lt_pow_digitCount D)
  have hlt : n < (natText D).length := (Nat.pow_lt_pow_iff_right (by decide)).mp hge
  omega

theorem scientific_eq {v : Exact} {D : Nat} {E : Int} (hv : 0 < v.magnitude)
    (h : HasDigits mantissaPlaces v.magnitude D E) :
    scientific v = withSign v.negative
      (trimPlaces ((natText D).take 1 ++ '.' :: (natText D).drop 1) ++
        'E' :: signedText (E + mantissaPlaces)) := by
  have hsignificand : v.significand ≠ 0 := by
    intro hzero
    rw [Exact.magnitude, hzero, Nat.cast_zero, zero_mul] at hv
    exact lt_irrefl _ hv
  unfold scientific
  rw [if_neg hsignificand, (significantDigits_eq_iff hv).mpr h]

/-- the parts of a text in scientific notation, one digit before the point -/
theorem scientific_parts {v : Exact} {D : Nat} {E : Int} (hv : 0 < v.magnitude)
    (h : HasDigits mantissaPlaces v.magnitude D E) :
    ∃ w r, scientific v = withSign v.negative
        (w ++ (fractionText r ++ 'E' :: signedText (E + mantissaPlaces))) ∧
      w.length = 1 ∧ r.length = mantissaPlaces ∧ IsAsciiDigits w ∧ IsAsciiDigits r ∧
      ofDigits (digitValues (w ++ r)) = D := by
  have hlength := length_natText h.least h.most
  have hascii := isAsciiDigits_natText D
  have hw : IsAsciiDigits ((natText D).take 1) := fun c hc => hascii c (List.mem_of_mem_take hc)
  have hr : IsAsciiDigits ((natText D).drop 1) := fun c hc => hascii c (List.mem_of_mem_drop hc)
  have hpoint : ∀ c ∈ ((natText D).take 1).getLast?, c ≠ '.' := fun c hc =>
    (ne_of_isAsciiDigit (hw c (List.mem_of_mem_getLast? hc))).1
  refine ⟨(natText D).take 1, (natText D).drop 1, ?_, ?_, ?_, hw, hr, ?_⟩
  · rw [scientific_eq hv h, trimPlaces_eq hpoint hr, List.append_assoc]
  · rw [List.length_take, hlength]
    rfl
  · rw [List.length_drop, hlength]
    rfl
  · rw [List.take_append_drop, ofDigits_natText]

theorem denotes_scientific {v : Exact} {D : Nat} {E : Int} (hv : 0 < v.magnitude)
    (h : HasDigits mantissaPlaces v.magnitude D E) :
    Denotes (scientific v) v.negative (D * 10 ^ E) := by
  obtain ⟨w, r, htext, hone, hplaces, hw, hr, hvalue⟩ := scientific_parts hv h
  have hne : w ≠ [] := List.ne_nil_of_length_pos (by omega)
  have hdenotes := denotes_parts v.negative hne hw hr (isPowerText_signedText (E + mantissaPlaces))
  rw [hvalue, hplaces, add_sub_cancel_right] at hdenotes
  rw [htext]
  exact hdenotes

/-! ## Results -/

theorem result_of_scientific {x : Float} {v : Exact} (h : Exact.ofFloat? x = some v)
    (hs : Scientific v.magnitude) : result x = scientific v := by
  unfold result
  rw [h]
  exact if_pos ((isScientific_iff h).mpr hs)

/-- all units of what is positional have twelve digits at most -/
theorem units_lt_of_not_scientific {q : Rat} (hq : 0 ≤ q) (hs : ¬ Scientific q) :
    units q < 10 ^ 12 :=
  (units_lt_iff hq).mpr (not_le.mp fun hlarge => hs (.inr hlarge))

/-- the text with a number of decimal places -/
theorem fixed_eq {x : Float} {v : Exact} (h : Exact.ofFloat? x = some v) (n : Nat) :
    fixed n x = clean (withSign v.negative (placesText n (placesDigits n v.magnitude))) := by
  unfold fixed writePlaces
  rw [h]
  rfl

/-- what is not scientific has six digits before the point at most, and nothing is cut off -/
theorem result_of_fixed {x : Float} {v : Exact} (h : Exact.ofFloat? x = some v)
    (hs : ¬ Scientific v.magnitude) :
    result x = clean (withSign v.negative (placesText maxPlaces (units v.magnitude))) := by
  have hfixed : fixed maxPlaces x =
      clean (withSign v.negative (placesText maxPlaces (units v.magnitude))) := fixed_eq h maxPlaces
  have hunits := units_lt_of_not_scientific v.magnitude_nonneg hs
  have hshort : (clean (withSign v.negative (placesText maxPlaces (units v.magnitude)))).length ≤
      6 + 6 + 1 + v.negative.toNat := length_clean_places (by decide) (by decide) v.negative hunits
  have hsign : v.negative.toNat ≤ 1 := Bool.toNat_le _
  have hfits : ¬ resultLength < ((fixed maxPlaces x).length : Int) := by
    rw [hfixed]
    show ¬ (15 : Int) < _
    omega
  unfold result
  rw [h]
  simp only
  rw [if_neg (by rw [isScientific_iff h]; exact hs), if_neg hfits, hfixed]

end PocketCalc.Format
