import PocketCalc.Arithmetic.Outcome
import PocketCalc.Format
import PocketCalc.Proofs.Operations

/-!
# What usable operands give

Operands are usable if they are finite and do not divide by what counts as zero.  Then the operation
gives a number, never NaN, and only its size can still be wrong: the check passes exactly the
results that do not overflow.

* `Operator.usable_iff`               usable operands;
* `Operator.magnitude_ne_zero`        no usable divisor is zero;
* `Operator.check_of_isRounded`       a rounded result passes the check unless it overflows;
* `Operator.check_of_usable`          the results of usable operands.
-/

namespace PocketCalc.Operator

theorem usable_iff {op : Operator} {a b : Float} :
    op.usable a b = true ↔ (∃ v, Exact.ofFloat? a = some v) ∧ (∃ w, Exact.ofFloat? b = some w) ∧
      ¬ (op = divide ∧ isZeroDivisor b = true) := by
  rw [usable, Bool.and_eq_true, Bool.and_eq_true, Bool.not_eq_true', Format.isFinite_eq,
    Format.isFinite_eq, Option.isSome_iff_exists, Option.isSome_iff_exists, and_assoc,
    ← Bool.not_eq_true, Bool.and_eq_true, decide_eq_true_iff]

theorem ofFloat?_smallestDivisor :
    Exact.ofFloat? smallestDivisor = some ⟨false, 7737125245533627, -86⟩ := by
  decide +kernel

/-- no usable divisor is zero -/
theorem magnitude_ne_zero {b : Float} {w : Exact} (h : Exact.ofFloat? b = some w)
    (hb : isZeroDivisor b ≠ true) : w.magnitude ≠ 0 := by
  intro hzero
  have hpos : (0 : Rat) < (⟨false, 7737125245533627, -86⟩ : Exact).value := by
    norm_num [Exact.value, Exact.magnitude]
  apply hb
  unfold isZeroDivisor
  rw [decide_eq_true_iff, abs_lt_iff_magnitude_lt h ofFloat?_smallestDivisor, hzero]
  exact hpos

/-- a rounded result passes the check unless it overflows -/
theorem check_of_isRounded {op : Operator} {b x : Float} {q : Rat} (hx : IsRounded x q)
    (hb : ¬ (op = divide ∧ isZeroDivisor b = true)) (d : Option Text) :
    check x (some (.operator op)) (some b) d =
      if |q| < overflowAt then .ok x else .error (.unusable .overflow d) := by
  have hkind : classify x (some (.operator op)) (some b) =
      if x.isInf then some .overflow else none := by
    have hunusable : classify.unusableKind x .math = if x.isInf then some .overflow else none := by
      rw [classify.unusableKind, hx.isNaN]
      rfl
    cases op with
    | divide =>
      rw [classify, if_neg fun hzero => hb ⟨rfl, hzero⟩]
      exact hunusable
    | _ => exact hunusable
  have hinf : x.isInf = true ↔ ¬ |q| < overflowAt := by
    rw [← hx.isFinite_iff, isFinite_eq, hx.isNaN]
    cases x.isInf <;> decide
  unfold check
  rw [hkind]
  by_cases hfinite : |q| < overflowAt
  · rw [if_pos hfinite, if_neg fun h => hinf.mp h hfinite]
  · rw [if_neg hfinite, if_pos (hinf.mpr hfinite)]

/-- **Usable operands give a number**, the one nearest to the exact result, and it passes the check
if and only if it does not overflow. -/
theorem check_of_usable {t : Text} {a b : Float}
    (h : ((ofText? t).any fun op => op.usable a b) = true) (d : Option Text) :
    ∃ op x v w, find t = .ok op ∧ op.calculate a b = .ok x ∧ Exact.ofFloat? a = some v ∧
      Exact.ofFloat? b = some w ∧ IsRounded x (op.exact v.value w.value) ∧
      check x (some (.operator op)) (some b) d =
        if |op.exact v.value w.value| < overflowAt then .ok x
        else .error (.unusable .overflow d) := by
  cases hop : ofText? t with
  | none =>
    rw [hop] at h
    cases h
  | some op =>
    rw [hop, Option.any_some, usable_iff] at h
    obtain ⟨⟨v, hv⟩, ⟨w, hw⟩, hb⟩ := h
    have hrounded := isRounded_apply hv hw fun hdivide =>
      magnitude_ne_zero hw fun hzero => hb ⟨hdivide, hzero⟩
    refine ⟨op, op.apply a b, v, w, ?_, ?_, hv, hw, hrounded, check_of_isRounded hrounded hb d⟩
    · rw [find, hop]
    · rw [calculate, if_neg]
      rwa [Bool.and_eq_true, decide_eq_true_iff]

/-- the quotient of two and three -/
theorem check_of_usable_thirds :
    ((ofText? ['/']).any fun op => op.usable 2 3) = true ∧
      ∃ op x v w, find ['/'] = .ok op ∧ op.calculate 2 3 = .ok x ∧ Exact.ofFloat? 2 = some v ∧
        Exact.ofFloat? 3 = some w ∧ IsRounded x (op.exact v.value w.value) ∧
        check x (some (.operator op)) (some 3) none =
          if |op.exact v.value w.value| < overflowAt then .ok x
          else .error (.unusable .overflow none) :=
  ⟨by decide +kernel, check_of_usable (by decide +kernel) none⟩

/-- the operands of `1e308 + 1e308` are usable, and their sum is not -/
theorem usable_overflow :
    ((ofText? ['+']).any fun op => op.usable 1e308 1e308) = true ∧ find ['+'] = .ok add ∧
      add.calculate 1e308 1e308 = .ok infinity ∧
      check infinity (some (.operator add)) (some 1e308) none =
        .error (.unusable .overflow none) := by
  decide +kernel

end PocketCalc.Operator
