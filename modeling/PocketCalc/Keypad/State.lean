import PocketCalc.Arithmetic.Operator
import PocketCalc.Arithmetic.Trig

/-!
# What the keypad remembers

* `Scope`              the function scope: `sin(` and what is typed behind it;
* `State`              everything remembered between two keys;
* `State.violations`   what a sound state never shows.

Three fields are kept for whoever draws the keypad, and no key looks at them: `justCommitted`,
`Scope.operand` and `Scope.isStarted`.
-/

namespace PocketCalc.Keypad

/-- the one function scope: `factor` is in front of the function, `text` behind the parenthesis -/
structure Scope where
  function : Option Trig := none
  operand : Float := 0
  factor : Option Float := none
  result : Float := 0
  text : Text := []
  /-- a function waits for its operand -/
  isSet : Bool := false
  isOpen : Bool := false
  /-- the parenthesis was closed, and nothing came behind it -/
  isClosed : Bool := false
  isStarted : Bool := false
deriving DecidableEq, Repr

/-- the memory of the keypad; `buffer` is what is being typed -/
structure State where
  result : Float := 0
  first : Float := 0
  second : Float := 0
  operator : Option Operator := none
  scope : Scope := {}
  /-- the last constant, with its sign and the number in front of it -/
  constant : Float := 1
  /-- an operator waits for its right operand -/
  operatorSet : Bool := false
  /-- the entry ends in a constant that was not used yet -/
  constantUsed : Bool := false
  justCommitted : Bool := false
  /-- the result is shown, and nothing came behind it -/
  done : Bool := false
  failed : Bool := false
  buffer : Text := []
  commits : Int := 0
deriving DecidableEq, Repr

namespace State

def violations (s : State) : List String :=
  (if s.operatorSet && s.operator.isNone then ["operator set without an operator"] else []) ++
  (if s.scope.isSet && s.scope.function.isNone then ["function scope set without a function"]
    else []) ++
  (if s.scope.isOpen && s.scope.isClosed then ["scope both open and just closed"] else [])

theorem violations_eq_nil_iff (s : State) :
    s.violations = [] ↔
      (s.operatorSet = true → s.operator.isSome = true) ∧
      (s.scope.isSet = true → s.scope.function.isSome = true) ∧
      ¬ (s.scope.isOpen = true ∧ s.scope.isClosed = true) := by
  simp [violations, Option.isSome_iff_ne_none]

end State
end PocketCalc.Keypad
