import PocketCalc.Error
import PocketCalc.Number.Written

/-!
# Binary operators

* `Operator`                       the four operators, with symbols, synonyms and precedence;
* `Operator.apply`                 the operation on doubles;
* `Operator.calculate`             the operation, refusing to divide by what counts as zero;
* `Operator.usable`                whether that gives a usable number.
-/

namespace PocketCalc

/-- the binary operators -/
inductive Operator
  | add
  | subtract
  | multiply
  | divide
deriving DecidableEq, Repr

namespace Operator

/-! ## Symbols -/

def all : List Operator := [add, subtract, multiply, divide]

def symbol : Operator → Char
  | add => '+'
  | subtract => '-'
  | multiply => '×'
  | divide => '÷'

/-- other signs that are understood -/
def synonyms : List (Char × Operator) := [('*', multiply), ('/', divide), ('−', subtract)]

def ofChar? (c : Char) : Option Operator :=
  match all.find? fun op => op.symbol = c with
  | some op => some op
  | none => synonyms.lookup c

def isSign (c : Char) : Bool := (ofChar? c).isSome

def ofText? : Text → Option Operator
  | [c] => ofChar? c
  | _ => none

def find (t : Text) : Except Fault Operator :=
  match ofText? t with
  | some op => .ok op
  | none => .error (.unknownOperator t)

/-- an operator of higher precedence takes its operands first -/
def precedence : Operator → Nat
  | add | subtract => 1
  | multiply | divide => 2

@[simp]
theorem ofChar?_symbol (op : Operator) : ofChar? op.symbol = some op := by
  cases op <;> rfl

/-! ## Arithmetic -/

/-- a divisor of a smaller magnitude counts as zero -/
def smallestDivisor : Float := 1e-10

def isZeroDivisor (b : Float) : Bool := b.abs < smallestDivisor

/-- the operation on doubles; a division by zero gives an infinity or NaN -/
def apply : Operator → Float → Float → Float
  | add, a, b => a + b
  | subtract, a, b => a - b
  | multiply, a, b => a * b
  | divide, a, b => a / b

/-- the operation, unless it divides by what counts as zero -/
def calculate (op : Operator) (a b : Float) : Except Fault Float :=
  if op = divide && isZeroDivisor b then .error (.zeroDivisor (writeShortest a))
  else .ok (op.apply a b)

/-- whether the operands are finite and the divisor does not count as zero -/
def usable (op : Operator) (a b : Float) : Bool :=
  a.isFinite && b.isFinite && !(op = divide && isZeroDivisor b)

end Operator
end PocketCalc
