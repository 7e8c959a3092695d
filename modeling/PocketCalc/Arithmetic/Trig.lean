import PocketCalc.Arithmetic.Constant
import PocketCalc.Number.Exact

/-!
# Trigonometric functions

The functions on radians are a parameter: a `TrigLibrary` holds six of them, and what is built on
top is the same for each.  A function gives NaN where it has no value.

* `Trig`                 the six functions, with names, domains and descriptions;
* `TrigLibrary`          their values on radians; `TrigLibrary.native` are the machine's own;
* `Trig.apply`           the function on radians, scaled;
* `Trig.applyDegrees`    the function on degrees, scaled.
-/

namespace PocketCalc

/-! ## The functions -/

/-- the scientific functions -/
inductive Trig
  | sin
  | cos
  | tan
  | arcsin
  | arccos
  | arctan
deriving DecidableEq, Repr

/-- what a function table says of a function -/
structure TrigInfo where
  name : String
  description : String
  category : String
  domain : String
  range : String
deriving DecidableEq, Repr

namespace Trig

def all : List Trig := [sin, cos, tan, arcsin, arccos, arctan]

def info : Trig → TrigInfo
  | sin => ⟨"sin", "Sine of an angle", "Trigonometric", "ℝ (degrees)", "[-1, 1]"⟩
  | cos => ⟨"cos", "Cosine of an angle", "Trigonometric", "ℝ (degrees)", "[-1, 1]"⟩
  | tan =>
    ⟨"tan", "Tangent of an angle", "Trigonometric", "ℝ \\ \x7b90 + 180k\x7d (degrees)", "ℝ"⟩
  | arcsin =>
    ⟨"arcsin", "Inverse sine", "Inverse trigonometric", "[-1, 1]", "[-90, 90] (degrees)"⟩
  | arccos =>
    ⟨"arccos", "Inverse cosine", "Inverse trigonometric", "[-1, 1]", "[0, 180] (degrees)"⟩
  | arctan =>
    ⟨"arctan", "Inverse tangent", "Inverse trigonometric", "ℝ", "]-90, 90[ (degrees)"⟩

def name (f : Trig) : Text := f.info.name.toList

/-- the function that a word names, capitals counting as small letters -/
def ofText? (t : Text) : Option Trig := all.find? fun f => f.name = t.map Char.toLower

def find (t : Text) : Except Fault Trig :=
  match ofText? t with
  | some f => .ok f
  | none => .error (.unknownFunction t)

def categories : List String := ((all.map fun f => f.info.category).eraseDups).mergeSort

/-- a function that takes a number and gives an angle -/
def isInverse : Trig → Bool
  | sin | cos | tan => false
  | arcsin | arccos | arctan => true

def inDomain : Trig → Float → Bool
  | arcsin, x | arccos, x => -1 ≤ x && x ≤ 1
  | sin, x | cos, x | tan, x | arctan, x => x.isFinite

end Trig

/-! ## Their values -/

/-- six functions on radians, NaN where there is no value -/
structure TrigLibrary where
  sin : Float → Float
  cos : Float → Float
  tan : Float → Float
  arcsin : Float → Float
  arccos : Float → Float
  arctan : Float → Float

namespace TrigLibrary

/-- the functions of the machine -/
def native : TrigLibrary := ⟨Float.sin, Float.cos, Float.tan, Float.asin, Float.acos, Float.atan⟩

def eval (lib : TrigLibrary) : Trig → Float → Float
  | .sin => lib.sin
  | .cos => lib.cos
  | .tan => lib.tan
  | .arcsin => lib.arcsin
  | .arccos => lib.arccos
  | .arctan => lib.arctan

end TrigLibrary

def radians (x : Float) : Float := x * (piValue / 180)

def degrees (x : Float) : Float := x * (180 / piValue)

/-- angles this close to a whole number of degrees are that number -/
def angleTolerance : Float := 1e-9

/-- an angle in degrees, put onto the whole number it is close to -/
def snapAngle (x : Float) : Float :=
  match Exact.ofFloat? x with
  | none => x
  | some v =>
    let whole := nearestRat (roundHalfEven v.value)
    if (x - whole).abs < angleTolerance then whole else x

def scaled (factor : Option Float) (x : Float) : Float :=
  match factor with
  | none => x
  | some k => k * x

namespace Trig

/-- the function on radians, scaled -/
def apply (lib : TrigLibrary) (f : Trig) (x : Float) (factor : Option Float) : Float :=
  scaled factor (lib.eval f x)

/-- The function with its angle in degrees, scaled: the angle is what a direct function takes and
what an inverse one gives. -/
def applyDegrees (lib : TrigLibrary) (f : Trig) (x : Float) (factor : Option Float) : Float :=
  if f.isInverse then scaled factor (snapAngle (degrees (lib.eval f x)))
  else scaled factor (lib.eval f (radians x))

theorem applyDegrees_some (lib : TrigLibrary) (f : Trig) (x k : Float) :
    f.applyDegrees lib x (some k) = k * f.applyDegrees lib x none := by
  unfold applyDegrees
  split <;> rfl

def usable (t : Text) (x : Float) : Bool :=
  match ofText? t with
  | none => false
  | some f => !x.isNaN && f.inDomain x

end Trig
end PocketCalc
