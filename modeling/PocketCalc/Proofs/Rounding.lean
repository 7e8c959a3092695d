import Mathlib
import PocketCalc.Number.Exact

/-!
# Rounding to the nearest integer

An integer is the rounded number if it is less than a half away, or a half away and even; no two
integers are both.  So nothing but the distance to an integer says whether it is the rounded number.

* `IsNearest`                     the integer next to a number, the even one of two;
* `roundHalfEven_eq_iff`          it is the rounded number;
* `abs_sub_roundHalfEven_le`      no integer is nearer;
* `roundHalfEven_of_abs_sub_le`   what is no further from an integer than a number that goes there
                                  goes there as well;
* `le_roundHalfEven_iff`          what is rounded up to an even number.
-/

namespace PocketCalc

/-- the integer next to a number, the even one of two -/
def IsNearest (n : Int) (q : Rat) : Prop := |q - n| < 1 / 2 ∨ |q - n| = 1 / 2 ∧ n % 2 = 0

theorem IsNearest.abs_sub_le {n : Int} {q : Rat} (h : IsNearest n q) : |q - n| ≤ 1 / 2 := by
  rcases h with h | ⟨h, -⟩
  · exact h.le
  · exact h.le

theorem isNearest_roundHalfEven (q : Rat) : IsNearest (roundHalfEven q) q := by
  have hlow : (q.floor : Rat) ≤ q := Rat.floor_le q
  have hhigh : q < q.floor + 1 := by exact_mod_cast Rat.lt_floor_add_one q
  unfold roundHalfEven IsNearest
  simp only
  generalize q.floor = low at *
  split
  · left
    rw [abs_of_nonneg (by linarith)]
    assumption
  split
  · left
    push_cast
    rw [abs_of_neg (by linarith)]
    linarith
  have hhalf : q - low = 1 / 2 := by linarith
  split
  · rename_i heven
    right
    rw [hhalf]
    exact ⟨by norm_num, heven⟩
  · right
    have hnext : q - ((low + 1 : Int) : Rat) = -(1 / 2) := by
      push_cast
      linarith
    rw [hnext]
    exact ⟨by norm_num, by omega⟩

/-- two integers that are both next to a number are one apart at most, and then both are even -/
theorem IsNearest.unique {m n : Int} {q : Rat} (hm : IsNearest m q) (hn : IsNearest n q) :
    m = n := by
  have hdist : |(m - n : Rat)| ≤ |q - n| + |q - m| := by
    have hsplit : (m - n : Rat) = (q - n) - (q - m) := by ring
    rw [hsplit]
    exact abs_sub _ _
  have hint : ∀ k : Int, |(m - n : Rat)| < k → |m - n| < k := by
    intro k hk
    have hcast : ((|m - n| : Int) : Rat) < k := by
      push_cast
      exact hk
    exact_mod_cast hcast
  by_cases hclose : |(m - n : Rat)| < 1
  · have hone := hint 1 (by exact_mod_cast hclose)
    rw [Int.abs_lt_one_iff] at hone
    omega
  · have hhalves : |q - n| = 1 / 2 ∧ |q - m| = 1 / 2 :=
      ⟨by linarith [hm.abs_sub_le, hn.abs_sub_le], by linarith [hm.abs_sub_le, hn.abs_sub_le]⟩
    have heven : m % 2 = 0 ∧ n % 2 = 0 :=
      ⟨(hm.resolve_left (by rw [hhalves.2]; exact lt_irrefl _)).2,
        (hn.resolve_left (by rw [hhalves.1]; exact lt_irrefl _)).2⟩
    have htwo := hint 2 (by push_cast; linarith)
    rw [abs_lt] at htwo
    omega

theorem roundHalfEven_eq_iff {n : Int} {q : Rat} : roundHalfEven q = n ↔ IsNearest n q := by
  constructor
  · rintro rfl
    exact isNearest_roundHalfEven q
  · exact (isNearest_roundHalfEven q).unique

theorem abs_sub_roundHalfEven_le_half (q : Rat) : |q - roundHalfEven q| ≤ 1 / 2 :=
  (isNearest_roundHalfEven q).abs_sub_le

theorem abs_sub_roundHalfEven_le (q : Rat) (n : Int) : |q - roundHalfEven q| ≤ |q - n| := by
  by_cases h : |q - n| < 1 / 2
  · rw [roundHalfEven_eq_iff.mpr (.inl h)]
  · exact (abs_sub_roundHalfEven_le_half q).trans (not_lt.mp h)

/-- what is no further away from the integer goes to it, too -/
theorem roundHalfEven_of_abs_sub_le {q r : Rat}
    (h : |r - roundHalfEven q| ≤ |q - roundHalfEven q|) :
    roundHalfEven r = roundHalfEven q := by
  rw [roundHalfEven_eq_iff]
  rcases isNearest_roundHalfEven q with hq | ⟨hq, heven⟩
  · exact .inl (h.trans_lt hq)
  · rw [hq] at h
    rcases h.lt_or_eq with hr | hr
    · exact .inl hr
    · exact .inr ⟨hr, heven⟩

theorem roundHalfEven_le (q : Rat) : (roundHalfEven q : Rat) ≤ q + 1 / 2 := by
  have h := abs_le.mp (abs_sub_roundHalfEven_le_half q)
  linarith [h.1]

theorem le_roundHalfEven (q : Rat) : q - 1 / 2 ≤ roundHalfEven q := by
  have h := abs_le.mp (abs_sub_roundHalfEven_le_half q)
  linarith [h.2]

theorem roundHalfEven_mono {q r : Rat} (h : q ≤ r) : roundHalfEven q ≤ roundHalfEven r := by
  by_contra hlt
  have hcast : (roundHalfEven r : Rat) + 1 ≤ roundHalfEven q := by
    exact_mod_cast Int.add_one_le_iff.mpr (not_le.mp hlt)
  have heq : q = r := le_antisymm h (by linarith [roundHalfEven_le q, le_roundHalfEven r])
  rw [heq] at hlt
  exact hlt le_rfl

/-- distances in a unit -/
theorem abs_sub_mul_unit {u : Rat} (hu : 0 < u) (q n : Rat) : |q - n * u| = |q / u - n| * u := by
  have hsplit : q - n * u = (q / u - n) * u := by
    rw [sub_mul, div_mul_cancel₀ q hu.ne']
  rw [hsplit, abs_mul, abs_of_pos hu]

/-- an even number is rounded up to from the middle below it on -/
theorem le_roundHalfEven_iff {q : Rat} {n : Int} (hn : n % 2 = 0) :
    n ≤ roundHalfEven q ↔ (n : Rat) - 1 / 2 ≤ q := by
  constructor
  · intro h
    have hcast : (n : Rat) ≤ roundHalfEven q := by exact_mod_cast h
    linarith [roundHalfEven_le q]
  · intro h
    by_contra hlt
    have hbelow : roundHalfEven q + 1 ≤ n := by omega
    have hcast : (roundHalfEven q : Rat) + 1 ≤ n := by exact_mod_cast hbelow
    -- the middle itself goes to `n`, for the integer below is odd
    have hhalf : |q - roundHalfEven q| = 1 / 2 := by
      refine le_antisymm (abs_sub_roundHalfEven_le_half q) ?_
      exact le_trans (by linarith) (le_abs_self _)
    have hnext : (roundHalfEven q : Rat) + 1 = n := by
      have hup := le_roundHalfEven q
      linarith
    have hnext : roundHalfEven q + 1 = n := by exact_mod_cast hnext
    have heven : roundHalfEven q % 2 = 0 :=
      ((isNearest_roundHalfEven q).resolve_left (by rw [hhalf]; exact lt_irrefl _)).2
    omega

end PocketCalc
