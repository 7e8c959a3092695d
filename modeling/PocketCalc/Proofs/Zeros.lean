import PocketCalc.Arithmetic.Outcome
import PocketCalc.Format
import PocketCalc.Proofs.Operations

/-!
# The two zeros

Comparing doubles as numbers tells all of them apart but the two zeros.  So it matters that no
computation tells these apart either: only a division by zero would, and a divisor close to zero is
an error before anything is divided.

* `SameNumber x y`        the same double, or two zeros; `sameNumber_of_beq`: so they compare;
* `SameNumber.apply`      the operations, the division by zero apart;
* `SameNumber.result`     how a result is written;
* `SameOutcome r r'`      results that are the same number, or errors of one kind;
* `SameNumber.compute`    a checked operation;
* `sameOutcome_compute`   a checked function with a factor in front.
-/

namespace PocketCalc
open Float.Model Float.Model.UnpackedFloat

/-! ## Numbers that compare as equal -/

/-- the same parts, or two zeros -/
def SameParts (f g : UnpackedFloat) : Prop := f = g ∨ ∃ s t, f = .zero s ∧ g = .zero t

/-- the same double, or two zeros -/
def SameNumber (x y : Float) : Prop := SameParts x.toModel.unpack y.toModel.unpack

theorem SameNumber.refl (x : Float) : SameNumber x x := .inl rfl

theorem eq_of_compare_then {e e' : Int} {m m' : Nat}
    (h : (compare e e').then (compare m m') = .eq) : e = e' ∧ m = m' := by
  rw [Ordering.then_eq_eq, compare_eq_iff_eq, compare_eq_iff_eq] at h
  exact h

/-- numbers that compare as equal are the same, or zeros -/
theorem sameNumber_of_beq {x y : Float} (h : (x == y) = true) : SameNumber x y := by
  have h : UnpackedFloat.beq x.toModel.unpack y.toModel.unpack = true := h
  unfold SameNumber
  generalize x.toModel.unpack = f at *
  generalize y.toModel.unpack = g at *
  rw [UnpackedFloat.beq, beq_iff_eq] at h
  cases f with
  | notANumber => cases h
  | infinity s =>
    cases g with
    | infinity t => cases s <;> cases t <;> first | exact .inl rfl | cases h
    | notANumber | zero | finite => cases s <;> cases h
  | zero s =>
    cases g with
    | zero t => exact .inr ⟨s, t, rfl, rfl⟩
    | infinity t | finite t => cases t <;> cases h
    | notANumber => cases h
  | finite s m e hm =>
    cases g with
    | finite t m' e' hm' =>
      have horder : s = t ∧ (compare e e').then (compare m m') = .eq := by
        cases s <;> cases t
        · exact ⟨rfl, Ordering.swap_eq_eq.mp (Option.some.inj h)⟩
        · cases h
        · cases h
        · exact ⟨rfl, Option.some.inj h⟩
      obtain ⟨rfl, horder⟩ := horder
      obtain ⟨rfl, rfl⟩ := eq_of_compare_then horder
      exact .inl rfl
    | infinity t => cases s <;> cases t <;> cases h
    | zero t => cases s <;> cases h
    | notANumber => cases s <;> cases h

/-! ## Operations -/

theorem SameParts.pack {f g : UnpackedFloat} (h : SameParts f g) :
    SameParts (Float.Model.pack f).unpack (Float.Model.pack g).unpack := by
  rcases h with rfl | ⟨s, t, rfl, rfl⟩
  · exact .inl rfl
  · exact .inr ⟨s, t, by cases s <;> rfl, by cases t <;> rfl⟩

/-- the zeros with the sign that a sum of zeros has -/
theorem sameParts_zero_if (b c : Bool) (s t : Sign) :
    SameParts (if b then .zero s else .zero .positive)
      (if c then .zero t else .zero .positive) := by
  cases b <;> cases c <;> exact .inr ⟨_, _, rfl, rfl⟩

theorem SameParts.trans {f g h : UnpackedFloat} (hfg : SameParts f g) (hgh : SameParts g h) :
    SameParts f h := by
  rcases hfg with rfl | ⟨s, t, rfl, rfl⟩
  · exact hgh
  · rcases hgh with rfl | ⟨t', u, -, rfl⟩
    · exact .inr ⟨s, t, rfl, rfl⟩
    · exact .inr ⟨s, u, rfl, rfl⟩

/-- an operation that does not tell the zeros apart on either side -/
theorem SameParts.operation {op : UnpackedFloat → UnpackedFloat → UnpackedFloat}
    (hleft : ∀ s t g, SameParts (op (.zero s) g) (op (.zero t) g))
    (hright : ∀ f s t, SameParts (op f (.zero s)) (op f (.zero t))) {f f' g g' : UnpackedFloat}
    (hf : SameParts f f') (hg : SameParts g g') : SameParts (op f g) (op f' g') := by
  have hfirst : SameParts (op f g) (op f' g) := by
    rcases hf with rfl | ⟨s, t, rfl, rfl⟩
    · exact .inl rfl
    · exact hleft s t g
  have hsecond : SameParts (op f' g) (op f' g') := by
    rcases hg with rfl | ⟨s, t, rfl, rfl⟩
    · exact .inl rfl
    · exact hright f' s t
  exact hfirst.trans hsecond

theorem SameParts.add {f f' g g' : UnpackedFloat} (hf : SameParts f f') (hg : SameParts g g') :
    SameParts (UnpackedFloat.add Format.binary64 f g)
      (UnpackedFloat.add Format.binary64 f' g') := by
  refine .operation (fun s t g => ?_) (fun f s t => ?_) hf hg
  · cases g with
    | notANumber | infinity | finite => exact .inl rfl
    | zero u => exact sameParts_zero_if _ _ _ _
  · cases f with
    | notANumber | infinity | finite => exact .inl rfl
    | zero u => exact sameParts_zero_if _ _ _ _

theorem SameParts.mul {f f' g g' : UnpackedFloat} (hf : SameParts f f') (hg : SameParts g g') :
    SameParts (UnpackedFloat.mul Format.binary64 f g)
      (UnpackedFloat.mul Format.binary64 f' g') := by
  refine .operation (fun s t g => ?_) (fun f s t => ?_) hf hg
  · cases g with
    | notANumber | infinity => exact .inl rfl
    | zero | finite => exact .inr ⟨_, _, rfl, rfl⟩
  · cases f with
    | notANumber | infinity => exact .inl rfl
    | zero | finite => exact .inr ⟨_, _, rfl, rfl⟩

theorem SameParts.div {f f' : UnpackedFloat} (hf : SameParts f f') (g : UnpackedFloat) :
    SameParts (UnpackedFloat.div Format.binary64 f g) (UnpackedFloat.div Format.binary64 f' g) := by
  rcases hf with rfl | ⟨s, s', rfl, rfl⟩
  · exact .inl rfl
  · cases g with
    | notANumber | zero => exact .inl rfl
    | infinity | finite => exact .inr ⟨_, _, rfl, rfl⟩

namespace SameNumber

variable {x x' y y' : Float}

theorem add (hx : SameNumber x x') (hy : SameNumber y y') : SameNumber (x + y) (x' + y') :=
  (SameParts.add hx hy).pack

theorem neg (h : SameNumber x y) : SameNumber (-x) (-y) := by
  unfold SameNumber
  rw [unpack_neg, unpack_neg]
  rcases h with h | ⟨s, t, hx, hy⟩
  · exact .inl (by rw [h])
  · exact .inr ⟨-s, -t, by rw [hx]; rfl, by rw [hy]; rfl⟩

theorem sub (hx : SameNumber x x') (hy : SameNumber y y') : SameNumber (x - y) (x' - y') := by
  rw [float_sub_eq, float_sub_eq]
  exact hx.add hy.neg

theorem mul (hx : SameNumber x x') (hy : SameNumber y y') : SameNumber (x * y) (x' * y') :=
  (SameParts.mul hx hy).pack

theorem div (hx : SameNumber x x') (y : Float) : SameNumber (x / y) (x' / y) :=
  (SameParts.div hx _).pack

theorem eq_or_zeros (h : SameNumber x y) : x = y ∨ (x = 0 ∨ x = -0) ∧ (y = 0 ∨ y = -0) := by
  have hzero : ∀ {z : Float} {s : Sign}, z.toModel.unpack = .zero s → z = 0 ∨ z = -0 := by
    intro z s hz
    cases s with
    | positive => exact .inl (eq_of_unpack hz)
    | negative => exact .inr (eq_of_unpack hz)
  rcases h with h | ⟨s, t, hx, hy⟩
  · exact .inl (eq_of_unpack h)
  · exact .inr ⟨hzero hx, hzero hy⟩

/-- what comes out alike for the zeros comes out alike for numbers that compare as equal -/
theorem congr {α : Type} (φ : Float → α) (hφ : φ 0 = φ (-0)) (h : SameNumber x y) : φ x = φ y := by
  rcases h.eq_or_zeros with rfl | ⟨rfl | rfl, rfl | rfl⟩
  · rfl
  · rfl
  · exact hφ
  · exact hφ.symm
  · rfl

theorem isNaN (h : SameNumber x y) : x.isNaN = y.isNaN :=
  h.congr Float.isNaN (by decide +kernel)

theorem isInf (h : SameNumber x y) : x.isInf = y.isInf :=
  h.congr Float.isInf (by decide +kernel)

theorem isZeroDivisor (h : SameNumber x y) :
    Operator.isZeroDivisor x = Operator.isZeroDivisor y :=
  h.congr Operator.isZeroDivisor (by decide +kernel)

theorem result (h : SameNumber x y) : Format.result x = Format.result y :=
  h.congr Format.result (by decide +kernel)

/-- a divisor is the same, or it is none -/
theorem apply (op : Operator) (hx : SameNumber x x') (hy : SameNumber y y')
    (hdivisor : ¬ (op = .divide ∧ Operator.isZeroDivisor y = true)) :
    SameNumber (op.apply x y) (op.apply x' y') := by
  cases op with
  | add => exact hx.add hy
  | subtract => exact hx.sub hy
  | multiply => exact hx.mul hy
  | divide =>
    have hzeros : Operator.isZeroDivisor 0 = true ∧ Operator.isZeroDivisor (-0) = true := by
      decide +kernel
    rcases hy.eq_or_zeros with rfl | ⟨rfl | rfl, -⟩
    · exact hx.div y
    · exact absurd ⟨rfl, hzeros.1⟩ hdivisor
    · exact absurd ⟨rfl, hzeros.2⟩ hdivisor

end SameNumber

/-! ## Checked results -/

/-- results that are the same number, or errors of one kind -/
inductive SameOutcome : Except Fault Float → Except Fault Float → Prop
  | ok {x y : Float} : SameNumber x y → SameOutcome (.ok x) (.ok y)
  | error {f g : Fault} : f.kind = g.kind → SameOutcome (.error f) (.error g)

theorem SameOutcome.refl (r : Except Fault Float) : SameOutcome r r := by
  cases r with
  | ok x => exact .ok (.refl x)
  | error f => exact .error rfl

theorem sameOutcome_check {x x' : Float} {source : Option Source} {b b' : Option Float}
    (hx : SameNumber x x') (h : classify x source b = classify x' source b')
    (d d' : Option Text) :
    SameOutcome (check x source b d) (check x' source b' d') := by
  unfold check
  rw [← h]
  cases classify x source b with
  | none => exact .ok hx
  | some k => exact .error rfl

theorem classify_operator (x : Float) (op : Operator) (b : Float) :
    classify x (some (.operator op)) (some b) =
      if op = .divide ∧ Operator.isZeroDivisor b = true then some .divisionByZero
      else classify.unusableKind x .math := by
  cases op with
  | divide => simp [classify]
  | add | subtract | multiply => simp [classify]

theorem unusableKind_congr {x x' : Float} (h : SameNumber x x') (k : ErrorKind) :
    classify.unusableKind x k = classify.unusableKind x' k := by
  unfold classify.unusableKind
  rw [h.isNaN, h.isInf]

theorem SameNumber.compute (op : Operator) (t : Text) {a a' b b' : Float} (ha : SameNumber a a')
    (hb : SameNumber b b') : SameOutcome (op.compute t a b) (op.compute t a' b') := by
  by_cases hzero : op = .divide ∧ Operator.isZeroDivisor b = true
  · have hzero' : op = .divide ∧ Operator.isZeroDivisor b' = true :=
      ⟨hzero.1, hb.isZeroDivisor.symm.trans hzero.2⟩
    unfold Operator.compute Operator.calculate
    rw [if_pos (by simpa using hzero), if_pos (by simpa using hzero')]
    exact .error rfl
  · have hzero' : ¬ (op = .divide ∧ Operator.isZeroDivisor b' = true) := by
      rwa [← hb.isZeroDivisor]
    have hvalue := SameNumber.apply op ha hb hzero
    unfold Operator.compute Operator.calculate
    rw [if_neg (by simpa using hzero), if_neg (by simpa using hzero')]
    refine sameOutcome_check hvalue ?_ _ _
    rw [classify_operator, classify_operator, if_neg hzero, if_neg hzero']
    exact unusableKind_congr hvalue .math

/-- a function of a number, with factors in front that compare as equal -/
theorem sameOutcome_compute (lib : TrigLibrary) (f : Trig) (w : Text) (x : Float)
    {v v' : Float} (h : SameNumber v v') :
    SameOutcome (f.compute lib w x (some v)) (f.compute lib w x (some v')) := by
  have hvalue : SameNumber (f.applyDegrees lib x (some v)) (f.applyDegrees lib x (some v')) := by
    rw [Trig.applyDegrees_some, Trig.applyDegrees_some]
    exact h.mul (.refl _)
  refine sameOutcome_check hvalue ?_ _ _
  exact unusableKind_congr hvalue _

end PocketCalc
