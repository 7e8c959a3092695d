import PocketCalc.Format
import PocketCalc.Log.History
import PocketCalc.Proofs.Operations

/-!
# The mean lies between the extremes

The extremes of a history are found by comparing doubles, its mean is computed with the numbers that
they denote and rounded once.  Finite doubles are in order as these numbers, and rounding does not
pass a number that is a double itself, so the mean stays between the extremes, whatever their signs
and however large the sum is.

* `exactValue`               the number that a finite double denotes;
* `roundedValue`             what a number is rounded to;
* `le_roundedValue`, `roundedValue_le`   rounding passes no double, on either side of zero;
* `foldl_keep_mem`, `foldl_keep_le`   a fold that keeps the better one of two ends with the least;
* `extremes_of_results`      what the minimum and the maximum of a history are;
* `mean_eq`                  the mean is the exact one, rounded once;
* `average_between`          it is between the extremes.
-/

namespace PocketCalc

/-! ## The numbers denoted -/

/-- the number that a finite double denotes -/
def exactValue (x : Float) : Rat := ((Exact.ofFloat? x).map Exact.value).getD 0

theorem exists_exactValue {x : Float} (h : x.isFinite = true) :
    ∃ v, Exact.ofFloat? x = some v ∧ exactValue x = v.value := by
  rw [Format.isFinite_eq, Option.isSome_iff_exists] at h
  obtain ⟨v, hv⟩ := h
  exact ⟨v, hv, by rw [exactValue, hv]; rfl⟩

theorem lt_iff_exactValue_lt {x y : Float} (hx : x.isFinite = true) (hy : y.isFinite = true) :
    x < y ↔ exactValue x < exactValue y := by
  obtain ⟨v, hv, hxv⟩ := exists_exactValue hx
  obtain ⟨w, hw, hyw⟩ := exists_exactValue hy
  rw [hxv, hyw]
  exact lt_iff_value_lt hv hw

theorem le_iff_exactValue_le {x y : Float} (hx : x.isFinite = true) (hy : y.isFinite = true) :
    x ≤ y ↔ exactValue x ≤ exactValue y := by
  obtain ⟨v, hv, hxv⟩ := exists_exactValue hx
  obtain ⟨w, hw, hyw⟩ := exists_exactValue hy
  rw [hxv, hyw]
  exact le_iff_value_le hv hw

/-- the number is of 53 bits and not too large -/
theorem representable_exactValue {x : Float} (h : x.isFinite = true) :
    Representable |exactValue x| ∧ |exactValue x| < overflowAt := by
  obtain ⟨v, hv, hxv⟩ := exists_exactValue h
  rw [hxv, v.abs_value]
  exact ⟨representable_of_ofFloat? hv, magnitude_lt_overflowAt hv⟩

/-! ## Rounding once -/

/-- what a number is rounded to: its sign, and its rounded magnitude -/
def roundedValue (q : Rat) : Rat := signedRat (q < 0) (roundedMagnitude |q|)

theorem roundedValue_of_nonneg {q : Rat} (h : 0 ≤ q) : roundedValue q = roundedMagnitude q := by
  rw [roundedValue, decide_eq_false (not_lt.mpr h), abs_of_nonneg h]
  rfl

theorem roundedValue_neg (q : Rat) : roundedValue (-q) = -roundedValue q := by
  rcases lt_trichotomy q 0 with h | rfl | h
  · rw [roundedValue_of_nonneg (neg_nonneg.mpr h.le), roundedValue, decide_eq_true h,
      abs_of_neg h]
    exact (neg_neg _).symm
  · rw [neg_zero, roundedValue_of_nonneg le_rfl, roundedMagnitude_eq le_rfl representable_zero,
      neg_zero]
  · rw [roundedValue_of_nonneg h.le, roundedValue, decide_eq_true (neg_neg_of_pos h), abs_neg,
      abs_of_pos h]
    rfl

/-- **Rounding passes no double.**  Below zero that is because it does not pass the magnitude. -/
theorem le_roundedValue {w q : Rat} (hw : Representable |w|) (h : w ≤ q) : w ≤ roundedValue q := by
  rcases le_or_gt 0 q with hq | hq
  · rw [roundedValue_of_nonneg hq]
    rcases le_or_gt 0 w with hnonneg | hneg
    · rw [abs_of_nonneg hnonneg] at hw
      exact le_roundedMagnitude hq hw h
    · exact hneg.le.trans (roundedMagnitude_nonneg hq)
  · rw [abs_of_neg (h.trans_lt hq)] at hw
    rw [← neg_neg q, roundedValue_neg, roundedValue_of_nonneg (neg_nonneg.mpr hq.le), le_neg]
    exact roundedMagnitude_le (neg_nonneg.mpr hq.le) hw (neg_le_neg h)

theorem roundedValue_le {w q : Rat} (hw : Representable |w|) (h : q ≤ w) : roundedValue q ≤ w := by
  have hle : -w ≤ roundedValue (-q) :=
    le_roundedValue (by rw [abs_neg]; exact hw) (neg_le_neg h)
  rw [roundedValue_neg] at hle
  exact neg_le_neg_iff.mp hle

theorem exactValue_nearestRat {q : Rat} (h : |q| < overflowAt) :
    (nearestRat q).isFinite = true ∧ exactValue (nearestRat q) = roundedValue q := by
  obtain ⟨v, hv, hsign, hmagnitude⟩ := ofFloat?_nearest (decide (q < 0)) (abs_nonneg q) h
  rw [nearestRat, rat_abs_eq, Format.isFinite_eq, exactValue, hv]
  refine ⟨rfl, ?_⟩
  show v.value = _
  rw [Exact.value, hsign, hmagnitude]
  rfl

namespace History

/-! ## The extremes -/

/-- a fold that keeps one of two ends with one of them all -/
theorem foldl_keep_mem {r : Float → Float → Prop} [DecidableRel r] (xs : List Float) :
    ∀ m, xs.foldl (fun m x => if r x m then x else m) m ∈ m :: xs := by
  induction xs with
  | nil => exact fun m => List.mem_singleton_self m
  | cons y ys ih =>
    intro m
    rw [List.foldl_cons]
    rcases List.mem_cons.mp (ih (if r y m then y else m)) with heq | hmem
    · rw [heq]
      split
      · exact List.mem_cons_of_mem m List.mem_cons_self
      · exact List.mem_cons_self
    · exact List.mem_cons_of_mem m (List.mem_cons_of_mem y hmem)

/-- A fold that keeps the better one of two ends with the least one, where the better one is that of
the lesser value. -/
theorem foldl_keep_le {f : Float → Rat} {r : Float → Float → Prop} [DecidableRel r]
    (horder : ∀ a b : Float, a.isFinite = true → b.isFinite = true → (r a b ↔ f a < f b))
    (xs : List Float) : ∀ m, (∀ x ∈ m :: xs, x.isFinite = true) →
      ∀ x ∈ m :: xs, f (xs.foldl (fun m x => if r x m then x else m) m) ≤ f x := by
  induction xs with
  | nil => exact fun m _ x hx => (congrArg f (List.mem_singleton.mp hx)).ge
  | cons y ys ih =>
    intro m hfinite x hx
    obtain ⟨hm, hy, hys⟩ : m.isFinite = true ∧ y.isFinite = true ∧ ∀ x ∈ ys, x.isFinite = true := by
      simpa using hfinite
    -- the one that is kept is finite, and as good as both
    have hkept : (if r y m then y else m).isFinite = true := by
      split
      · exact hy
      · exact hm
    have hbetter : f (if r y m then y else m) ≤ f m ∧ f (if r y m then y else m) ≤ f y := by
      split
      · rename_i hless
        exact ⟨((horder y m hy hm).mp hless).le, le_rfl⟩
      · rename_i hless
        exact ⟨le_rfl, not_lt.mp fun hlt => hless ((horder y m hy hm).mpr hlt)⟩
    have hleast := List.forall_mem_cons.mp
      (ih (if r y m then y else m) (List.forall_mem_cons.mpr ⟨hkept, hys⟩))
    rw [List.foldl_cons]
    rcases List.mem_cons.mp hx with rfl | hx
    · exact hleast.1.trans hbetter.1
    rcases List.mem_cons.mp hx with rfl | hx
    · exact hleast.1.trans hbetter.2
    · exact hleast.2 x hx

/-- the extremes are among the results, and no result is beyond them -/
theorem extremes_of_results {h : History} (hne : h.results ≠ [])
    (hfinite : ∀ x ∈ h.results, x.isFinite = true) :
    ∃ lo hi, h.minimum = some lo ∧ h.maximum = some hi ∧ lo ∈ h.results ∧ hi ∈ h.results ∧
      ∀ x ∈ h.results, exactValue lo ≤ exactValue x ∧ exactValue x ≤ exactValue hi := by
  unfold minimum maximum
  cases hresults : h.results with
  | nil => exact absurd hresults hne
  | cons x xs =>
    rw [hresults] at hfinite
    have hleast := foldl_keep_le (f := exactValue) (r := fun a b => a < b)
      (fun _ _ => lt_iff_exactValue_lt) xs x hfinite
    have hgreatest := foldl_keep_le (f := fun a => -exactValue a) (r := fun a b => b < a)
      (fun _ _ ha hb => (lt_iff_exactValue_lt hb ha).trans neg_lt_neg_iff.symm) xs x hfinite
    exact ⟨_, _, rfl, rfl, foldl_keep_mem xs x, foldl_keep_mem xs x,
      fun y hy => ⟨hleast y hy, neg_le_neg_iff.mp (hgreatest y hy)⟩⟩

/-! ## The mean -/

theorem sum_exactValue {xs : List Float} (hfinite : ∀ x ∈ xs, x.isFinite = true) :
    ∀ s : Rat, (xs.filterMap Exact.ofFloat?).foldl (fun s v => s + v.value) s =
      s + (xs.map exactValue).sum := by
  induction xs with
  | nil => exact fun s => (add_zero s).symm
  | cons x xs ih =>
    intro s
    obtain ⟨v, hv, hxv⟩ := exists_exactValue (hfinite x List.mem_cons_self)
    rw [List.filterMap_cons_some hv, List.foldl_cons,
      ih (fun y hy => hfinite y (List.mem_cons_of_mem x hy)), List.map_cons, List.sum_cons, hxv,
      add_assoc]

/-- the mean of finite numbers is the exact one, rounded once -/
theorem mean_eq {xs : List Float} (hfinite : ∀ x ∈ xs, x.isFinite = true) :
    mean xs = nearestRat ((xs.map exactValue).sum / xs.length) := by
  rw [mean, if_pos (List.all_eq_true.mpr hfinite), sum_exactValue hfinite, zero_add]

/-- the exact mean is between any two bounds of the numbers -/
theorem sum_div_length_bounds {xs : List Float} (hne : xs ≠ []) {lo hi : Rat}
    (h : ∀ x ∈ xs, lo ≤ exactValue x ∧ exactValue x ≤ hi) :
    lo ≤ (xs.map exactValue).sum / xs.length ∧ (xs.map exactValue).sum / xs.length ≤ hi := by
  have hpos : (0 : Rat) < xs.length := by exact_mod_cast List.length_pos_of_ne_nil hne
  have hlower : (xs.map exactValue).length • lo ≤ (xs.map exactValue).sum :=
    List.card_nsmul_le_sum _ _ (List.forall_mem_map.mpr fun x hx => (h x hx).1)
  have hupper : (xs.map exactValue).sum ≤ (xs.map exactValue).length • hi :=
    List.sum_le_card_nsmul _ _ (List.forall_mem_map.mpr fun x hx => (h x hx).2)
  rw [List.length_map, nsmul_eq_mul] at hlower hupper
  rw [le_div_iff₀ hpos, div_le_iff₀ hpos, mul_comm lo, mul_comm hi]
  exact ⟨hlower, hupper⟩

/-! ## Main result -/

/-- **The mean lies between the extremes.**  The minimum and the maximum of a history of finite
results that is not empty are results themselves, no result is below the one or above the other, and
neither is the mean: that is the double next to the sum of the numbers that the results denote,
divided by how many there are. -/
theorem average_between (h : History) (hne : h.entries ≠ [])
    (hfinite : ∀ x ∈ h.results, x.isFinite = true) :
    ∃ lo mid hi, h.minimum = some lo ∧ h.average = some mid ∧ h.maximum = some hi ∧
      lo ∈ h.results ∧ hi ∈ h.results ∧ (∀ x ∈ h.results, ¬ x < lo ∧ ¬ hi < x) ∧
      mid = nearestRat ((h.results.map exactValue).sum / h.results.length) ∧
      lo ≤ mid ∧ mid ≤ hi := by
  have hresults : h.results ≠ [] := by
    rw [results, Ne, List.map_eq_nil_iff]
    exact hne
  obtain ⟨lo, hi, hlo, hhi, hlomem, hhimem, hbounds⟩ := extremes_of_results hresults hfinite
  have hlofinite := hfinite lo hlomem
  have hhifinite := hfinite hi hhimem
  have haverage : h.average = some (mean h.results) := by
    rw [average]
    split
    · rename_i hnil
      exact absurd hnil hresults
    · rfl
  obtain ⟨hlower, hupper⟩ := sum_div_length_bounds hresults hbounds
  obtain ⟨hlorep, hlolt⟩ := representable_exactValue hlofinite
  obtain ⟨hhirep, hhilt⟩ := representable_exactValue hhifinite
  have hsmall := (abs_le_max_abs_abs hlower hupper).trans_lt (max_lt hlolt hhilt)
  obtain ⟨hmidfinite, hmid⟩ := exactValue_nearestRat hsmall
  rw [mean_eq hfinite] at haverage
  refine ⟨lo, _, hi, hlo, haverage, hhi, hlomem, hhimem, fun x hx => ?_, rfl, ?_, ?_⟩
  · have hx' := hfinite x hx
    rw [lt_iff_exactValue_lt hx' hlofinite, lt_iff_exactValue_lt hhifinite hx', not_lt, not_lt]
    exact hbounds x hx
  · rw [le_iff_exactValue_le hlofinite hmidfinite, hmid]
    exact le_roundedValue hlorep hlower
  · rw [le_iff_exactValue_le hmidfinite hhifinite, hmid]
    exact roundedValue_le hhirep hupper

/-- The largest double and the one below it: their sum is too large for a double, and their mean is
half way between two. -/
theorem average_between_largest :
    let largest := Float.ofBits 0x7FEFFFFFFFFFFFFF
    let below := Float.ofBits 0x7FEFFFFFFFFFFFFE
    let h : History := ((Log.empty 2 (by decide)).push ⟨['1'], largest, ⟨8, 30, 0⟩⟩).push
      ⟨['2'], below, ⟨8, 31, 0⟩⟩
    h.entries ≠ [] ∧ (∀ x ∈ h.results, x.isFinite = true) ∧ h.minimum = some below ∧
      h.maximum = some largest ∧ ∃ mid, h.average = some mid ∧ below ≤ mid ∧ mid ≤ largest := by
  intro largest below h
  have hne : h.entries ≠ [] := by decide
  have hfinite : ∀ x ∈ h.results, x.isFinite = true := by decide
  obtain ⟨lo, mid, hi, hlo, hmid, hhi, -, -, -, -, hlower, hupper⟩ :=
    average_between h hne hfinite
  have hmin : h.minimum = some below := by decide +kernel
  have hmax : h.maximum = some largest := by decide +kernel
  obtain rfl : lo = below := Option.some.inj (hlo.symm.trans hmin)
  obtain rfl : hi = largest := Option.some.inj (hhi.symm.trans hmax)
  exact ⟨hne, hfinite, hmin, hmax, mid, hmid, hlower, hupper⟩

end History
end PocketCalc
