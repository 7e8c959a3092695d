import PocketCalc.Arithmetic.Outcome
import PocketCalc.Format
import PocketCalc.Proofs.Double
import PocketCalc.Proofs.Operations

/-!
# Domains of the functions

No value is computed with a look at the domain.  A function on radians gives NaN where it has no
value, NaN stays NaN in degrees, and the check calls it an error of the domain if the argument lies
outside.  So that a domain says where there is a value is a fact about six functions and all
doubles.

* `TrigLibrary.Documented`       what the functions on radians are documented to give;
* `isFinite_radians`             an angle is finite in radians just where it is in degrees;
* `Trig.isFinite_applyDegrees`, `Trig.isNaN_applyDegrees`   a finite value in the domain, else none;
* `Trig.domain_error_iff`        where the check makes an error of the domain;
* `Trig.arctan_infinity`         an argument outside of the domain that has a value.
-/

namespace PocketCalc
open Float.Model Float.Model.UnpackedFloat

/-! ## Functions on radians -/

/-- What the functions on radians are documented to give.  A direct function gives a finite number
on a finite angle, and no value else.  A sine and a cosine belong to an angle, and no other number
does.  Every number is a tangent, the infinities included; NaN is none. -/
structure TrigLibrary.Documented (lib : TrigLibrary) : Prop where
  direct : ∀ f x, f.isInverse = false → x.isFinite = true → (lib.eval f x).isFinite = true
  direct_outside : ∀ f x, f.isInverse = false → x.isFinite = false → (lib.eval f x).isNaN = true
  arc : ∀ f x, f = .arcsin ∨ f = .arccos → -1 ≤ x → x ≤ 1 →
    -piValue ≤ lib.eval f x ∧ lib.eval f x ≤ piValue
  arc_outside : ∀ f x, f = .arcsin ∨ f = .arccos → ¬ (-1 ≤ x ∧ x ≤ 1) →
    (lib.eval f x).isNaN = true
  arctan : ∀ x, x.isNaN = false → -piValue ≤ lib.arctan x ∧ lib.arctan x ≤ piValue
  arctan_outside : ∀ x, x.isNaN = true → (lib.arctan x).isNaN = true

/-! ## Radians -/

theorem ofFloat?_radian : Exact.ofFloat? (piValue / 180) = some ⟨false, 5030569068109113, -58⟩ := by
  decide +kernel

theorem isInf_radians {x : Float} (h : x.isInf = true) : (radians x).isInf = true := by
  obtain ⟨s, hs⟩ : ∃ s, x.toModel.unpack = .infinity s := by
    have h : x.toModel.unpack.isInf = true := h
    cases hx : x.toModel.unpack with
    | infinity s => exact ⟨s, rfl⟩
    | notANumber | zero | finite =>
      rw [hx] at h
      cases h
  obtain ⟨t, m, e, hm, hradian⟩ :
      ∃ t m e hm, (piValue / 180).toModel.unpack = .finite t m e hm := ⟨_, _, _, _, rfl⟩
  show (x * (piValue / 180)).toModel.unpack.isInf = true
  rw [unpack_mul, hs, hradian, UnpackedFloat.mul, unpack_pack_of_isFinite_eq_false rfl]
  rfl

/-- an angle that is not finite is NaN or an infinity -/
theorem isNaN_or_isInf {x : Float} (h : x.isFinite = false) : x.isNaN = true ∨ x.isInf = true := by
  cases hnan : x.isNaN with
  | true => exact .inl rfl
  | false =>
    rw [isFinite_eq, hnan] at h
    exact .inr (by simpa using h)

/-- A degree is less than a radian, so no angle becomes infinite. -/
theorem isFinite_radians (x : Float) : (radians x).isFinite = x.isFinite := by
  cases hx : x.isFinite with
  | true =>
    obtain ⟨v, hv⟩ : ∃ v, Exact.ofFloat? x = some v := by
      rw [← Option.isSome_iff_exists, ← Format.isFinite_eq, hx]
    have hradian : |(⟨false, 5030569068109113, -58⟩ : Exact).value| ≤ 1 := by
      norm_num [Exact.value, Exact.magnitude]
    rw [radians, (isRounded_mul hv ofFloat?_radian).isFinite_iff, abs_mul]
    exact (mul_le_of_le_one_right (abs_nonneg _) hradian).trans_lt
      ((isRounded_value hv).isFinite_iff.mp hx)
  | false =>
    rw [isFinite_eq]
    rcases isNaN_or_isInf hx with hnan | hinf
    · rw [radians, isNaN_mul_left hnan]
      rfl
    · rw [isInf_radians hinf, Bool.not_true, Bool.and_false]

/-! ## Values and domains -/

namespace Trig

variable {lib : TrigLibrary} {f : Trig} {x : Float}

theorem isFinite_applyDegrees (h : lib.Documented)
    (hx : f.inDomain x = true ∨ f = .arctan ∧ x.isInf = true) :
    (f.applyDegrees lib x none).isFinite = true := by
  have hdirect : f.isInverse = false → x.isFinite = true →
      (f.applyDegrees lib x none).isFinite = true := by
    intro hf hfinite
    rw [applyDegrees, hf]
    exact h.direct f _ hf ((isFinite_radians x).trans hfinite)
  have harc : f = .arcsin ∨ f = .arccos → (-1 ≤ x && x ≤ 1) = true →
      (f.applyDegrees lib x none).isFinite = true := by
    intro hf hin
    simp only [Bool.and_eq_true, decide_eq_true_eq] at hin
    have hinverse : f.isInverse = true := by rcases hf with rfl | rfl <;> rfl
    obtain ⟨hlow, hhigh⟩ := h.arc f x hf hin.1 hin.2
    rw [applyDegrees, if_pos hinverse]
    exact isFinite_snapAngle_degrees hlow hhigh
  cases f with
  | sin | cos | tan =>
    rcases hx with hx | ⟨hne, -⟩
    · exact hdirect rfl hx
    · cases hne
  | arcsin =>
    rcases hx with hx | ⟨hne, -⟩
    · exact harc (.inl rfl) hx
    · cases hne
  | arccos =>
    rcases hx with hx | ⟨hne, -⟩
    · exact harc (.inr rfl) hx
    · cases hne
  | arctan =>
    have hnan : x.isNaN = false := by
      rcases hx with hx | ⟨-, hx⟩
      · exact isNaN_of_isFinite hx
      · cases hnan : x.isNaN with
        | false => rfl
        | true => exact absurd ((isInf_of_isNaN hnan).symm.trans hx) Bool.false_ne_true
    obtain ⟨hlow, hhigh⟩ := h.arctan x hnan
    exact isFinite_snapAngle_degrees hlow hhigh

theorem isNaN_applyDegrees (h : lib.Documented) (hx : f.inDomain x = false)
    (hne : ¬ (f = .arctan ∧ x.isInf = true)) : (f.applyDegrees lib x none).isNaN = true := by
  have hdirect : f.isInverse = false → x.isFinite = false →
      (f.applyDegrees lib x none).isNaN = true := by
    intro hf hinfinite
    rw [applyDegrees, hf]
    exact h.direct_outside f _ hf ((isFinite_radians x).trans hinfinite)
  have harc : f = .arcsin ∨ f = .arccos → (-1 ≤ x && x ≤ 1) = false →
      (f.applyDegrees lib x none).isNaN = true := by
    intro hf hout
    have hinverse : f.isInverse = true := by rcases hf with rfl | rfl <;> rfl
    rw [applyDegrees, if_pos hinverse]
    exact isNaN_snapAngle_degrees (h.arc_outside f x hf (by simpa using hout))
  cases f with
  | sin | cos | tan => exact hdirect rfl hx
  | arcsin => exact harc (.inl rfl) hx
  | arccos => exact harc (.inr rfl) hx
  | arctan =>
    rcases isNaN_or_isInf hx with hnan | hinf
    · exact isNaN_snapAngle_degrees (h.arctan_outside x hnan)
    · exact absurd ⟨rfl, hinf⟩ hne

/-- **The domain says where a function has a value**, but for the arctangent of an infinity.  For
every function and every double the check makes an error of the domain exactly outside of the
domain, that one case apart, and else it returns a finite number. -/
theorem domain_error_iff (h : lib.Documented) (f : Trig) (x : Float) (d : Option Text) :
    let r := check (f.applyDegrees lib x none) (some (.function f)) (some x) d
    (r = .error (.unusable .domain d) ↔
        f.inDomain x = false ∧ ¬ (f = .arctan ∧ x.isInf = true)) ∧
      (r = .error (.unusable .domain d) ∨ ∃ y, r = .ok y ∧ y.isFinite = true) := by
  intro r
  by_cases hx : f.inDomain x = false ∧ ¬ (f = .arctan ∧ x.isInf = true)
  · have hr : r = .error (.unusable .domain d) := by
      show check _ _ _ _ = _
      rw [check_function, if_pos (isNaN_applyDegrees h hx.1 hx.2), hx.1]
      rfl
    exact ⟨iff_of_true hr hx, .inl hr⟩
  · have hvalue : f.inDomain x = true ∨ f = .arctan ∧ x.isInf = true := by
      cases hin : f.inDomain x with
      | true => exact .inl rfl
      | false => exact .inr (by_contra fun hne => hx ⟨hin, hne⟩)
    have hfinite := isFinite_applyDegrees h hvalue
    have hr : r = .ok (f.applyDegrees lib x none) := by
      show check _ _ _ _ = _
      rw [check_function, isNaN_of_isFinite hfinite, isInf_of_isFinite hfinite]
      rfl
    refine ⟨iff_of_false ?_ hx, .inr ⟨_, hr, hfinite⟩⟩
    rw [hr]
    exact nofun

end Trig

/-- a library with the documented domains, and hardly any values -/
def coarse : TrigLibrary where
  sin x := if x.isFinite then 0.5 else 0 / 0
  cos x := if x.isFinite then 0.5 else 0 / 0
  tan x := if x.isFinite then 0.5 else 0 / 0
  arcsin x := if -1 ≤ x && x ≤ 1 then 0.5235987755982989 else 0 / 0
  arccos x := if -1 ≤ x && x ≤ 1 then 1.0471975511965979 else 0 / 0
  arctan x := if x.isNaN then x else if x < 0 then -1.5707963267948966 else 1.5707963267948966

theorem documented_coarse : coarse.Documented := by
  have hnan : (0 / 0 : Float).isNaN = true := by decide +kernel
  have hdirect : ∀ f x, f.isInverse = false →
      coarse.eval f x = if x.isFinite then 0.5 else 0 / 0 := by
    intro f x hf
    cases f with
    | sin | cos | tan => rfl
    | arcsin | arccos | arctan => cases hf
  have harc : ∀ f, f = .arcsin ∨ f = .arccos → ∃ y, (-piValue ≤ y ∧ y ≤ piValue) ∧
      ∀ x, coarse.eval f x = if -1 ≤ x && x ≤ 1 then y else 0 / 0 := by
    rintro f (rfl | rfl)
    · exact ⟨_, by decide +kernel, fun x => rfl⟩
    · exact ⟨_, by decide +kernel, fun x => rfl⟩
  refine ⟨?_, ?_, ?_, ?_, ?_, ?_⟩
  · intro f x hf hx
    rw [hdirect f x hf, if_pos hx]
    decide +kernel
  · intro f x hf hx
    rw [hdirect f x hf, hx]
    exact hnan
  · intro f x hf hlow hhigh
    obtain ⟨y, hy, heval⟩ := harc f hf
    rw [heval, if_pos (by simp [hlow, hhigh])]
    exact hy
  · intro f x hf hout
    obtain ⟨y, -, heval⟩ := harc f hf
    rw [heval, if_neg (by simpa using hout)]
    exact hnan
  · intro x hx
    show -piValue ≤ (if x.isNaN then x else _) ∧ (if x.isNaN then x else _) ≤ piValue
    rw [hx]
    simp only [Bool.false_eq_true, if_false]
    split
    · decide +kernel
    · decide +kernel
  · intro x hx
    show (if x.isNaN then x else _ : Float).isNaN = true
    rw [if_pos hx]
    exact hx

namespace Trig

/-- `arcsin 0.5` has a value, and `arcsin 2` has none -/
theorem domain_error_iff_arcsin :
    let r (x : Float) := check (arcsin.applyDegrees coarse x none) (some (.function .arcsin))
      (some x) none
    coarse.Documented ∧ r 0.5 = .ok 30 ∧ (∃ y, r 0.5 = .ok y ∧ y.isFinite = true) ∧
      r 2 = .error (.unusable .domain none) := by
  intro r
  obtain ⟨hinside, hvalue⟩ := domain_error_iff documented_coarse .arcsin 0.5 none
  obtain ⟨houtside, -⟩ := domain_error_iff documented_coarse .arcsin 2 none
  have hin : arcsin.inDomain 0.5 = true := by decide +kernel
  refine ⟨documented_coarse, by decide +kernel, hvalue.resolve_left ?_,
    houtside.mpr ⟨by decide +kernel, by decide +kernel⟩⟩
  intro herror
  exact absurd (hin.symm.trans (hinside.mp herror).1) Bool.false_ne_true.symm

/-- The arctangent of an infinity is ninety degrees, and no infinity is in its domain. -/
theorem arctan_infinity :
    let x : Float := 1e400
    coarse.Documented ∧ x.isInf = true ∧ arctan.inDomain x = false ∧
      check (arctan.applyDegrees coarse x none) (some (.function .arctan)) (some x) none =
        .ok 90 :=
  ⟨documented_coarse, by decide +kernel, by decide +kernel, by decide +kernel⟩

end Trig
end PocketCalc
