import PocketCalc.Arithmetic.Operator
import PocketCalc.Arithmetic.Trig

/-!
# Usable results

* `Source`     the operator or the function a result came from;
* `classify`   the kind of error that a result is, none for a usable number;
* `check`      the result, or the error it is.
-/

namespace PocketCalc

/-- what produced a result -/
inductive Source
  | operator (op : Operator)
  | function (f : Trig)
deriving DecidableEq, Repr

/-- The kind of error that a result is.  The operand is the divisor of an operator and the argument
of a function. -/
def classify (x : Float) (source : Option Source) (operand : Option Float) : Option ErrorKind :=
  match source, operand with
  | some (.operator .divide), some b =>
    if Operator.isZeroDivisor b then some .divisionByZero else unusableKind .math
  | some (.function f), some b => unusableKind (if f.inDomain b then .math else .domain)
  | _, _ => unusableKind .math
where
  /-- the kind of NaN as given, the kind of an infinity, and none for a finite number -/
  unusableKind (nanKind : ErrorKind) : Option ErrorKind :=
    if x.isNaN then some nanKind else if x.isInf then some .overflow else none

/-- the result if it is usable, else an error that names the computation -/
def check (x : Float) (source : Option Source) (operand : Option Float) (detail : Option Text) :
    Except Fault Float :=
  match classify x source operand with
  | none => .ok x
  | some k => .error (.unusable k detail)

/-- a value of a function is usable if it is finite; NaN is an error of the domain outside it -/
theorem check_function (x b : Float) (f : Trig) (d : Option Text) :
    check x (some (.function f)) (some b) d =
      if x.isNaN then .error (.unusable (if f.inDomain b then .math else .domain) d)
      else if x.isInf then .error (.unusable .overflow d)
      else .ok x := by
  unfold check classify classify.unusableKind
  cases x.isNaN <;> cases x.isInf <;> rfl

def operationText (a : Float) (sign : Text) (b : Float) : Text :=
  writeShortest a ++ ' ' :: sign ++ ' ' :: writeShortest b

def applicationText (name : Text) (x : Float) : Text := name ++ '(' :: writeShortest x ++ [')']

namespace Operator

/-- the operation, its result checked; `sign` is how the operator was written -/
def compute (op : Operator) (sign : Text) (a b : Float) : Except Fault Float :=
  match op.calculate a b with
  | .ok x => check x (some (.operator op)) (some b) (some (operationText a sign b))
  | .error f => .error f

end Operator

namespace Trig

/-- the function on degrees, its result checked; `word` is how the function was written -/
def compute (lib : TrigLibrary) (f : Trig) (word : Text) (x : Float) (factor : Option Float) :
    Except Fault Float :=
  check (f.applyDegrees lib x factor) (some (.function f)) (some x) (some (applicationText word x))

end Trig
end PocketCalc
