import PocketCalc.Proofs.Accuracy

/-!
# Numbers in the trail

A number stands in the trail in thirteen characters, and one of a million or more in parentheses.
The notation is chosen for six decimal places, and a negative number with six digits before the
point has room for five.  So the rounding to five places may reach the million that the choice of
the notation has ruled out.

* `IsTrailNumber`                what a number in the trail looks like;
* `strict_of_short`, `strict_of_long`   a result that fits, and one that gives up a place;
* `Overruns`                     the numbers that are rounded up to a million;
* `isTrailNumber_strict_iff`     all others have the right notation.
-/

namespace PocketCalc.Format
open Text

/-- scientific notation in parentheses, or a short numeral below a million -/
def IsTrailNumber (t : Text) : Prop :=
  (∃ s e, IsScientificForm s e ∧ t = '(' :: s ++ [')']) ∨
    (t.length ≤ strictLength ∧ IsFixedPoint t ∧ ∃ b q, Denotes t b q ∧ q < 10 ^ 6)

/-- negative numbers that are below a million in six decimal places and not in five -/
def Overruns (v : Exact) : Prop :=
  v.negative = true ∧ 10 ^ 6 - 1 / 2 / 10 ^ 5 ≤ v.magnitude ∧ v.magnitude < 10 ^ 6 - 1 / 2 / 10 ^ 6

/-! ## The text -/

theorem strict_of_scientific {x : Float} {v : Exact} (h : Exact.ofFloat? x = some v)
    (hs : Scientific v.magnitude) : strict x = '(' :: scientific v ++ [')'] := by
  unfold strict
  rw [h]
  exact if_pos ((isScientific_iff h).mpr hs)

/-- a positional result is made shorter only if it is too long -/
theorem strict_of_fixed {x : Float} {v : Exact} (h : Exact.ofFloat? x = some v)
    (hs : ¬ Scientific v.magnitude) :
    strict x = if strictLength < (result x).length ∧ (wholeText v).length < strictLength then
      fixed (strictLength - (wholeText v).length - 1) x else result x := by
  have hresult : result x = fixed maxPlaces x := (result_of_fixed h hs).trans (fixed_eq h _).symm
  rw [hresult]
  unfold strict
  rw [h]
  simp only
  rw [if_neg (by rw [isScientific_iff h]; exact hs)]
  simp only [Bool.and_eq_true, decide_eq_true_eq]

theorem strict_of_short {x : Float} {v : Exact} (h : Exact.ofFloat? x = some v)
    (hs : ¬ Scientific v.magnitude) (hshort : (result x).length ≤ strictLength) :
    strict x = result x := by
  rw [strict_of_fixed h hs, if_neg fun hlong => not_lt.mpr hshort hlong.1]

/-- only a negative number with six digits before the point is too long -/
theorem negative_of_long {x : Float} {v : Exact} (h : Exact.ofFloat? x = some v)
    (hs : ¬ Scientific v.magnitude) (hlong : strictLength < (result x).length) :
    v.negative = true ∧ 10 ^ 5 ≤ v.magnitude := by
  have hlimit : strictLength = 13 := rfl
  have hnegative : v.negative = true := by
    have hlength := (fixed_form h hs).1
    rw [← Bool.not_eq_false]
    intro hsign
    rw [hsign] at hlength
    have hsign : false.toNat = 0 := rfl
    omega
  refine ⟨hnegative, not_lt.mp fun hsmall => ?_⟩
  rw [result_of_fixed h hs, hnegative] at hlong
  have hunits : units v.magnitude ≤ 10 ^ 11 :=
    placesDigits_le (m := 5) (n := 6) v.magnitude_nonneg hsmall.le
  rcases hunits.lt_or_eq with hlt | heq
  · have hlength := length_clean_places (m := 5) (n := 6) (by decide) (by decide) true hlt
    have hsign : true.toNat = 1 := rfl
    have hplaces : maxPlaces = 6 := rfl
    rw [hplaces] at hlong
    omega
  · rw [heq] at hlong
    exact absurd hlong (by decide)

/-- a minus sign and the digits of a number between two powers of ten -/
theorem length_wholeText {v : Exact} {n : Nat} (hnegative : v.negative = true)
    (hleast : 10 ^ n ≤ v.magnitude) (hmost : v.magnitude < 10 ^ (n + 1)) :
    (wholeText v).length = n + 2 := by
  have hfloor : ((10 ^ n : Nat) : Int) ≤ v.magnitude.floor := by
    rw [Rat.le_floor_iff]
    exact_mod_cast hleast
  have hfloor' : v.magnitude.floor < ((10 ^ (n + 1) : Nat) : Int) := by
    rw [Rat.floor_lt_iff]
    exact_mod_cast hmost
  have hpos : 0 < 10 ^ n := by positivity
  have htext : wholeText v = '-' :: natText (-v.magnitude.floor).natAbs := by
    unfold wholeText Exact.wholePart
    rw [if_pos hnegative]
    exact if_pos (by omega)
  rw [htext, List.length_cons, length_natText (n := n) (by omega) (by omega)]

theorem strict_of_long {x : Float} {v : Exact} (h : Exact.ofFloat? x = some v)
    (hs : ¬ Scientific v.magnitude) (hlong : strictLength < (result x).length) :
    strict x = clean (withSign true (placesText 5 (placesDigits 5 v.magnitude))) := by
  obtain ⟨hnegative, hlarge⟩ := negative_of_long h hs hlong
  have hsmall : v.magnitude < 10 ^ 6 := by
    have hbound := not_le.mp fun hle => hs (.inr hle)
    linarith
  have hwhole := length_wholeText hnegative hlarge hsmall
  rw [strict_of_fixed h hs, if_pos ⟨hlong, by rw [hwhole]; decide⟩, hwhole, ← hnegative]
  exact fixed_eq h 5

/-! ## The notation -/

theorem isTrailNumber_scientific {x : Float} {v : Exact} (h : Exact.ofFloat? x = some v)
    (hs : Scientific v.magnitude) : IsTrailNumber (strict x) :=
  .inl ⟨scientific v, _,
    isScientificForm_scientific hs.pos (hasDigits_significantDigits mantissaPlaces hs.pos),
    strict_of_scientific h hs⟩

theorem isTrailNumber_short {x : Float} {v : Exact} (h : Exact.ofFloat? x = some v)
    (hs : ¬ Scientific v.magnitude) (hshort : (result x).length ≤ strictLength) :
    IsTrailNumber (strict x) := by
  obtain ⟨-, hform, b, hdenotes, -⟩ := fixed_form h hs
  have hunits : (units v.magnitude : Rat) < 10 ^ 12 := by
    exact_mod_cast units_lt_of_not_scientific v.magnitude_nonneg hs
  rw [strict_of_short h hs hshort]
  exact .inr ⟨hshort, hform, b, _, hdenotes, by linarith⟩

theorem isTrailNumber_clean_places {k : Nat} (hk : k ≠ 0) (hlt : k < 10 ^ 11) :
    IsTrailNumber (clean (withSign true (placesText 5 k))) := by
  have hlength : (clean (withSign true (placesText 5 k))).length ≤ 6 + 5 + 1 + 1 :=
    length_clean_places (by decide) (by decide) true hlt
  have hlimit : strictLength = 13 := rfl
  have hvalue : (k : Rat) < 10 ^ 11 := by exact_mod_cast hlt
  exact .inr ⟨by omega, isFixedPoint_clean_places (by decide) true hk, true, _,
    denotes_clean_places (by decide) true hk, by linarith⟩

theorem not_isTrailNumber_million : ¬ IsTrailNumber "-1000000".toList := by
  rintro (⟨s, e, -, hs⟩ | ⟨-, -, b, q, ⟨d, hd, -, hq⟩, hlt⟩)
  · exact absurd (List.cons.inj hs).1 (by decide)
  · have hnumeral : Decimal.ofNumeral? ((trim "-1000000".toList).map pointForComma) =
        some ⟨true, 1000000, 0⟩ := by decide
    rw [hnumeral] at hd
    cases hd
    rw [← hq] at hlt
    exact absurd hlt (by norm_num [Decimal.magnitude])

/-- what overruns does not fit in six decimal places -/
theorem Overruns.long {x : Float} {v : Exact} (h : Exact.ofFloat? x = some v) (hv : Overruns v) :
    ¬ Scientific v.magnitude ∧ strictLength < (result x).length := by
  obtain ⟨hnegative, hleast, hmost⟩ := hv
  have hlow : leastFixed < 1 := by norm_num [leastFixed]
  have hs : ¬ Scientific v.magnitude := by
    rintro (⟨-, hlt⟩ | hle) <;> linarith
  have hunits := units_lt_of_not_scientific v.magnitude_nonneg hs
  have hround := le_roundHalfEven (v.magnitude * 10 ^ 6)
  rw [← cast_units v.magnitude_nonneg, Int.cast_natCast] at hround
  have hcast : ((10 ^ 12 - 6 : Nat) : Rat) < units v.magnitude := by
    push_cast
    linarith
  have hcast : 10 ^ 12 - 6 < units v.magnitude := by exact_mod_cast hcast
  refine ⟨hs, ?_⟩
  rw [result_of_fixed h hs, hnegative]
  -- five numbers of units are left, and none ends in a zero
  generalize units v.magnitude = k at *
  interval_cases k <;> decide

theorem strict_of_overruns {x : Float} {v : Exact} (h : Exact.ofFloat? x = some v)
    (hv : Overruns v) : strict x = "-1000000".toList := by
  obtain ⟨hs, hlong⟩ := hv.long h
  have hle : placesDigits 5 v.magnitude ≤ 10 ^ 11 :=
    placesDigits_le (m := 6) v.magnitude_nonneg (by linarith [hv.2.2])
  have hge : ¬ placesDigits 5 v.magnitude < 10 ^ 11 := by
    rw [placesDigits_lt_iff (m := 6) v.magnitude_nonneg (by decide), not_lt]
    exact hv.2.1
  rw [strict_of_long h hs hlong, le_antisymm hle (not_lt.mp hge)]
  decide

/-- **Numbers in the trail have the right notation**, those excepted that give up a decimal place
for their sign and are rounded up to a million by that. -/
theorem isTrailNumber_strict_iff {x : Float} {v : Exact} (h : Exact.ofFloat? x = some v) :
    IsTrailNumber (strict x) ↔ ¬ Overruns v := by
  constructor
  · intro htrail hv
    rw [strict_of_overruns h hv] at htrail
    exact not_isTrailNumber_million htrail
  · intro hv
    by_cases hs : Scientific v.magnitude
    · exact isTrailNumber_scientific h hs
    by_cases hlong : strictLength < (result x).length
    · obtain ⟨hnegative, hlarge⟩ := negative_of_long h hs hlong
      have hsix := not_le.mp fun hle => hs (.inr hle)
      have hfive := not_le.mp fun hle => hv ⟨hnegative, hle, hsix⟩
      have hmost := (placesDigits_lt_iff v.magnitude_nonneg (m := 6) (by decide)).mpr hfive
      have hleast : ¬ placesDigits 5 v.magnitude < 10 ^ (0 + 5) := by
        rw [placesDigits_lt_iff v.magnitude_nonneg (by decide)]
        linarith
      rw [strict_of_long h hs hlong]
      exact isTrailNumber_clean_places (by omega) hmost
    · exact isTrailNumber_short h hs (not_lt.mp hlong)

/-- `-123456.123456` gives up a place and is shown as `-123456.12346` -/
theorem isTrailNumber_strict_places :
    Exact.ofFloat? (-123456.123456) = some ⟨true, 8483840203751336, -36⟩ ∧
      IsTrailNumber (strict (-123456.123456)) := by
  have h : Exact.ofFloat? (-123456.123456) = some ⟨true, 8483840203751336, -36⟩ := by
    decide +kernel
  have hv : ¬ Overruns ⟨true, 8483840203751336, -36⟩ := fun hv =>
    absurd hv.2.1 (by norm_num [Exact.magnitude])
  exact ⟨h, (isTrailNumber_strict_iff h).mpr hv⟩

/-- `-999999.999999` is shown as a million without parentheses -/
theorem strict_million :
    (-999999.999999 : Float).isFinite = true ∧
      strict (-999999.999999) = "-1000000".toList ∧
      ¬ IsTrailNumber (strict (-999999.999999)) := by
  have hstrict : strict (-999999.999999) = "-1000000".toList := by decide +kernel
  refine ⟨by decide +kernel, hstrict, ?_⟩
  rw [hstrict]
  exact not_isTrailNumber_million

end PocketCalc.Format
