import PocketCalc.Expression.Token

/-!
# Reverse Polish order

* `Yard`           the tokens put out and the tokens held back while infix order is undone;
* `Rpn.ofInfix`    the tokens of an infix expression, operators behind their operands;
* `RunError`       why a token list in that order gives no value;
* `Rpn.run`        its value.

Operators of equal precedence are put out from left to right, so `a - b - c` is `(a - b) - c`.  A
token may lack the value or the text that its kind calls for when it does not stem from a text; such
tokens are converted like others, and `Rpn.run` refuses them.
-/

namespace PocketCalc

/-! ## From infix order -/

/-- the state of the conversion: tokens put out, the last one first, and tokens held back, the
latest one first -/
structure Yard where
  output : List Token := []
  held : List Token := []
deriving DecidableEq, Repr

namespace Yard

/-- an operator that binds at least as tightly as precedence `p` asks for -/
def bindsAtLeast (p : Nat) (t : Token) : Bool :=
  t.kind = .operator && (Operator.ofText? t.text).any fun op => p ≤ op.precedence

/-- a token other than an opening parenthesis -/
def isInner (t : Token) : Bool := t.kind ≠ .openParen

/-- put out the tokens that are held back in front of the first one that `p` does not hold of -/
def release (p : Token → Bool) (y : Yard) : Yard :=
  ⟨(y.held.takeWhile p).reverse ++ y.output, y.held.dropWhile p⟩

/-- take up the next token -/
def step (y : Yard) (t : Token) : Except Fault Yard :=
  match t.kind with
  | .number | .constant => .ok { y with output := t :: y.output }
  | .function | .openParen => .ok { y with held := t :: y.held }
  | .operator =>
    match Operator.find t.text with
    | .error f => .error f
    | .ok op =>
      let y := y.release (bindsAtLeast op.precedence)
      .ok { y with held := t :: y.held }
  | .closeParen =>
    let y := y.release isInner
    match y.held with
    | [] => .error .unbalanced
    | _ :: [] => .ok { y with held := [] }
    | _ :: f :: held =>
      if f.kind = .function then .ok ⟨f :: y.output, held⟩ else .ok { y with held := f :: held }

/-- the tokens in their new order, once there are no more to come -/
def finish (y : Yard) : Except Fault (List Token) :=
  if y.held.all isInner then .ok (y.release fun _ => true).output.reverse else .error .unbalanced

end Yard

/-- the tokens of an infix expression, operators and functions behind their operands -/
def Rpn.ofInfix (ts : List Token) : Except Fault (List Token) :=
  match ts.foldlM Yard.step {} with
  | .ok y => y.finish
  | .error f => .error f

/-! ## To a value -/

/-- why a token list has no value -/
inductive RunError
  /-- a fault in the expression -/
  | fault (f : Fault)
  /-- a token whose text does not fit its kind -/
  | unreadable
  /-- a number or constant without a value, used as an operand -/
  | noValue
deriving DecidableEq, Repr

namespace Rpn

def runOperator (t : Token) (a b : Option Float) : Except RunError Float :=
  match Operator.ofText? t.text, a, b with
  | none, _, _ => .error .unreadable
  | some op, some a, some b => (op.compute t.text a b).mapError .fault
  | some op, none, some b =>
    if op = .divide && Operator.isZeroDivisor b then .error (.fault (.zeroDivisor (valueText none)))
    else .error .noValue
  | some _, _, none => .error .noValue

def runFunction (lib : TrigLibrary) (t : Token) (x : Option Float) : Except RunError Float :=
  match Trig.ofText? t.text, x with
  | none, _ => .error .unreadable
  | some _, none => .error .noValue
  | some f, some x => (f.compute lib t.text x none).mapError .fault

/-- take up the next token with the values found so far, the latest one first -/
def step (lib : TrigLibrary) (stack : List (Option Float)) (t : Token) :
    Except RunError (List (Option Float)) :=
  match t.kind, stack with
  | .number, _ | .constant, _ => .ok (t.value :: stack)
  | .operator, b :: a :: stack => (runOperator t a b).map fun x => some x :: stack
  | .operator, _ => .error (.fault (.notEnoughOperands t.text))
  | .function, x :: stack => (runFunction lib t x).map fun x => some x :: stack
  | .function, [] => .error (.fault (.missingOperand t.text))
  | .openParen, _ | .closeParen, _ => .error (.fault (.unexpected t.text))

/-- the value of a token list in reverse Polish order -/
def run (lib : TrigLibrary) (ts : List Token) : Except RunError (Option Float) :=
  match ts.foldlM (step lib) [] with
  | .error e => .error e
  | .ok [x] => .ok x
  | .ok _ => .error (.fault .invalidExpression)

end Rpn
end PocketCalc
