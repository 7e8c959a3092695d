import PocketCalc.Expression.Program
import PocketCalc.Format
import PocketCalc.Proofs.Operations
import PocketCalc.Proofs.Parts

/-!
# Steps of the arithmetic

A number that is read, an operation and a function, step by step, come to what they come to as
functions.  A divisor that counts as zero is refused in front of the division, a break where a
function has no value is caught, and an angle that is finite is next to an integer that is a finite
double again.

* `parse_eq`, `parseIfNumber_eq`      a text taken for a number;
* `calculate_eq`, `compute_eq`        an operation, and its result checked;
* `snap_eq`                           an angle put onto an integer;
* `applyDegrees_eq`, `computeTrig_eq` a function applied, and its result checked.
-/

namespace PocketCalc.Expression.Program

/-! ## Numbers -/

/-- a text that is read as a number is one to take -/
theorem parse_eq (t : Text) : parse t = member (readNumber? t) := by
  unfold parse readNumber
  cases hblank : t.isBlankText with
  | true =>
    rw [readNumber?_of_isBlankText hblank]
    rfl
  | false => cases readNumber? t <;> rfl

/-- what is no number is caught -/
theorem parseIfNumber_eq (t : Text) : parseIfNumber t = pure (readNumber? t) := by
  unfold parseIfNumber
  rw [parse_eq]
  cases readNumber? t <;> rfl

theorem attempt_known {α : Type} (r : Except Fault α) : attempt (known r) = pure r := by
  cases r <;> rfl

/-! ## Operations -/

/-- a quotient is asked for only of what can be divided by -/
theorem divide_eq (a b : Float) : divide a b = pure (a / b) := by
  unfold divide quotient
  split <;> rfl

theorem operate_eq (op : Operator) (a b : Float) : operate op a b = pure (op.apply a b) := by
  unfold operate
  split
  · rename_i hop
    rw [divide_eq, hop]
    rfl
  · rfl

theorem dividesByZero_eq (op : Operator) (b : Float) :
    dividesByZero op (some b) = pure (decide (op = .divide) && Operator.isZeroDivisor b) := by
  unfold dividesByZero
  split
  · rename_i hop
    rw [decide_eq_true hop]
    rfl
  · rename_i hop
    rw [decide_eq_false hop]
    rfl

theorem calculate_eq (op : Operator) (a b : Float) :
    calculate op (some a) (some b) = known (op.calculate a b) := by
  unfold calculate Operator.calculate
  rw [dividesByZero_eq, pure_bind]
  split
  · rfl
  · exact operate_eq op a b

theorem compute_eq (op : Operator) (sign : Text) (a b : Float) :
    compute op sign (some a) (some b) = known (op.compute sign a b) := by
  unfold compute Operator.compute
  rw [calculate_eq]
  cases op.calculate a b <;> rfl

/-! ## Functions -/

theorem eq_notANumber_of_isNaN {x : Float} (h : x.isNaN = true) : x = notANumber := by
  apply eq_of_unpack
  rw [eq_notANumber h]
  rfl

/-- a break where a function has no value is caught -/
theorem evalTrig_eq (lib : TrigLibrary) (f : Trig) (x : Float) :
    evalTrig lib f x = pure (lib.eval f x) := by
  unfold evalTrig callTrig
  split
  · rename_i hnone
    rw [eq_notANumber_of_isNaN (Bool.and_eq_true_iff.mp hnone).1]
    rfl
  · rfl

/-- the integer next to a finite double is not too large for a double -/
theorem isFinite_nearestRat_roundHalfEven {x : Float} {v : Exact} (h : Exact.ofFloat? x = some v) :
    (nearestRat (roundHalfEven v.value)).isFinite = true := by
  have hround := abs_sub_roundHalfEven_le_half v.value
  have hlargest := magnitude_le_largest h
  have habs : |(roundHalfEven v.value : Rat)| ≤ v.magnitude + 1 / 2 := by
    have htriangle := abs_sub_abs_le_abs_sub (roundHalfEven v.value : Rat) v.value
    rw [abs_sub_comm, v.abs_value] at htriangle
    linarith
  rw [nearestRat, isFinite_nearest_iff _ (by rw [rat_abs_eq]; exact abs_nonneg _), rat_abs_eq]
  calc |(roundHalfEven v.value : Rat)| ≤ v.magnitude + 1 / 2 := habs
    _ ≤ (2 ^ 53 - 1) * 2 ^ (971 : Int) + 1 / 2 := by linarith
    _ < (2 ^ 53 - 1 / 2) * 2 ^ (971 : Int) := by
      have hstep : (1 : Rat) < 2 ^ (971 : Int) := one_lt_zpow₀ (by norm_num) (by norm_num)
      generalize (2 : Rat) ^ (971 : Int) = u at hstep
      linarith
    _ = overflowAt := overflowAt_eq.symm

theorem snap_eq (x : Float) : snap x = pure (snapAngle x) := by
  unfold snap snapAngle
  rw [Format.isFinite_eq]
  cases hv : Exact.ofFloat? x with
  | none => rfl
  | some v =>
    have hwhole : wholeOf x = pure (roundHalfEven v.value) := by
      rw [wholeOf, hv]
    have hdouble : doubleOf (roundHalfEven v.value) = pure (nearestRat (roundHalfEven v.value)) :=
      if_pos (isFinite_nearestRat_roundHalfEven hv)
    rw [hwhole, pure_bind, hdouble, pure_bind]
    simp only [Option.isSome_some, if_true]
    split <;> rfl

theorem applyDegrees_eq (lib : TrigLibrary) (f : Trig) (x : Float) (factor : Option Float) :
    applyDegrees lib f (some x) factor = pure (f.applyDegrees lib x factor) := by
  unfold applyDegrees Trig.applyDegrees
  simp only [evalTrig_eq, snap_eq, number]
  split <;> rfl

theorem computeTrig_eq (lib : TrigLibrary) (f : Trig) (word : Text) (x : Float)
    (factor : Option Float) :
    computeTrig lib f word (some x) factor = known (f.compute lib word x factor) := by
  unfold computeTrig
  rw [applyDegrees_eq]
  rfl

end PocketCalc.Expression.Program
