import PocketCalc.Expression.Evaluate

/-!
# Expressions step by step

What becomes of a text, with each step that can break off in its place: a text is taken for a number
or looked up in a table, an element is taken from a stack, a value is computed with that a token may
lack, a number is divided by, an angle becomes an integer and then a double again.  Some breaks are
caught where they arise; a fault is the only one that anybody is told of.

* `Program`, `Break`         programs, and how they break off;
* `Program.tokens`           the tokens of a text;
* `Program.convert`          their conversion to reverse Polish order;
* `Program.compute`, `Program.computeTrig`   an operation and a function, the result checked;
* `Program.run`              the value of a token list in reverse Polish order;
* `Program.rpn`, `Program.evaluate`, `Program.validate`   what is done with a text.
-/

namespace PocketCalc.Expression

/-- how a program breaks off -/
inductive Break
  /-- a fault, which is told -/
  | fault (f : Fault)
  /-- a text or a number that a step cannot take -/
  | unfit
  /-- no value where there has to be one -/
  | missing
  /-- a division by zero -/
  | zeroDivision
  /-- an infinity taken for an integer, or an integer for a double that is too small for it -/
  | tooLarge
  /-- an element taken from an empty stack -/
  | emptyStack
deriving DecidableEq, Repr

/-- a program that can break off -/
abbrev Program := Except Break

namespace Program

variable {α : Type}

/-! ## Steps that can break off -/

def fail (f : Fault) : Program α := .error (.fault f)

/-- what can break off with a fault only -/
def known (r : Except Fault α) : Program α := r.mapError .fault

/-- a program, and what is done instead where it meets something unfit -/
def ifUnfit (p q : Program α) : Program α :=
  match p with
  | .ok a => .ok a
  | .error b => if b = .unfit then q else .error b

/-- a program whose faults are caught, and no other break -/
def attempt (p : Program α) : Program (Except Fault α) :=
  match p with
  | .ok a => pure (.ok a)
  | .error (.fault f) => pure (.error f)
  | .error b => .error b

/-- what is looked up in a table -/
def member : Option α → Program α
  | some a => .ok a
  | none => .error .unfit

def isMember (a : Option α) : Program Bool :=
  ifUnfit
    (do
      let _ ← member a
      pure true)
    (pure false)

/-- a value to compute with -/
def number : Option Float → Program Float
  | some x => .ok x
  | none => .error .missing

/-- the top of a stack, and what is below it -/
def pop : List α → Program (α × List α)
  | a :: as => .ok (a, as)
  | [] => .error .emptyStack

/-! ## Tokens -/

def parse (t : Text) : Program Float :=
  match readNumber t with
  | .ok x => .ok x
  | .error _ => .error .unfit

/-- the number that a text is, if it is one -/
def parseIfNumber (t : Text) : Program (Option Float) :=
  ifUnfit
    (do
      let x ← parse t
      pure (some x))
    (pure none)

def constantValue (t : Text) : Program Float :=
  ifUnfit
    (do
      let c ← member (Constant.ofText? t)
      pure c.value)
    (fail (.unknownConstant t))

/-- the token of a lexeme; white space has none -/
def token (l : Lexeme) : Program (Option Token) :=
  match l.cls with
  | .number =>
    ifUnfit
      (do
        let x ← parse l.text
        pure (some ⟨.number, l.text, some x⟩))
      (fail (.invalidNumber l.text))
  | .sign => pure (some ⟨.operator, l.text, none⟩)
  | .opening => pure (some ⟨.openParen, l.text, none⟩)
  | .closing => pure (some ⟨.closeParen, l.text, none⟩)
  | .space => pure none
  | .word => do
    if ← isMember (Constant.ofText? l.text) then
      let x ← constantValue l.text
      pure (some ⟨.constant, l.text, some x⟩)
    else if ← isMember (Trig.ofText? l.text) then pure (some ⟨.function, l.text, none⟩)
    else fail (.unknownSymbol l.text)

/-- the tokens of a text -/
def tokens : Text → Program (List Token)
  | [] => pure []
  | c :: r =>
    match _h : Lexeme.front? c r with
    | none => fail (.invalidCharacter c)
    | some l => do
      let t ← token l
      let ts ← tokens ((c :: r).drop l.text.length)
      pure (t.toList ++ ts)
termination_by t => t.length
decreasing_by
  have := Lexeme.length_front?_pos ‹Lexeme.front? _ _ = some _›
  simp only [List.length_drop, List.length_cons]
  omega

/-! ## Reverse Polish order -/

def operatorOf (t : Text) : Program Operator :=
  ifUnfit (member (Operator.ofText? t)) (fail (.unknownOperator t))

/-- put out the operators that bind at least as tightly as precedence `p` asks for -/
def releaseBinding (p : Nat) (output : List Token) : List Token → Program Yard
  | [] => pure ⟨output, []⟩
  | t :: held =>
    if t.kind = .operator then do
      let op ← operatorOf t.text
      if p ≤ op.precedence then releaseBinding p (t :: output) held
      else pure ⟨output, t :: held⟩
    else pure ⟨output, t :: held⟩

/-- take up the next token of an infix expression -/
def takeUp (y : Yard) (t : Token) : Program Yard :=
  match t.kind with
  | .number | .constant => pure { y with output := t :: y.output }
  | .function | .openParen => pure { y with held := t :: y.held }
  | .operator => do
    let op ← operatorOf t.text
    let y ← releaseBinding op.precedence y.output y.held
    pure { y with held := t :: y.held }
  | .closeParen =>
    let y := y.release Yard.isInner
    if y.held.isEmpty then fail .unbalanced
    else do
      let (_, held) ← pop y.held
      if held.head?.any fun f => f.kind = .function then
        let (f, held) ← pop held
        pure ⟨f :: y.output, held⟩
      else pure { y with held := held }

def convert (ts : List Token) : Program (List Token) := do
  let y ← ts.foldlM takeUp {}
  known y.finish

/-! ## Values -/

/-- a quotient, which there is none of by zero -/
def quotient (a b : Float) : Program Float :=
  if b == 0 then .error .zeroDivision else pure (a / b)

/-- a division; one by zero is not left to the quotient -/
def divide (a b : Float) : Program Float :=
  if b == 0 then pure (Operator.divide.apply a b) else quotient a b

def operate (op : Operator) (a b : Float) : Program Float :=
  if op = .divide then divide a b else pure (op.apply a b)

/-- whether something is divided by what counts as zero -/
def dividesByZero (op : Operator) (b : Option Float) : Program Bool :=
  if op = .divide then do
    let x ← number b
    pure (Operator.isZeroDivisor x)
  else pure false

/-- the operation, unless it divides by what counts as zero -/
def calculate (op : Operator) (a b : Option Float) : Program Float := do
  if ← dividesByZero op b then fail (.zeroDivisor (valueText a))
  else
    let x ← number a
    let y ← number b
    operate op x y

def notANumber : Float := 0 / 0

/-- a function on radians; where it has no value, it breaks off -/
def callTrig (lib : TrigLibrary) (f : Trig) (x : Float) : Program Float :=
  if (lib.eval f x).isNaN && !x.isNaN then .error .unfit else pure (lib.eval f x)

/-- the function on radians, NaN where it has no value -/
def evalTrig (lib : TrigLibrary) (f : Trig) (x : Float) : Program Float :=
  ifUnfit (callTrig lib f x) (pure notANumber)

/-- the integer next to a double -/
def wholeOf (x : Float) : Program Int :=
  match Exact.ofFloat? x with
  | some v => pure (roundHalfEven v.value)
  | none => .error (if x.isNaN then .unfit else .tooLarge)

/-- the double next to an integer -/
def doubleOf (n : Int) : Program Float :=
  if (nearestRat n).isFinite then pure (nearestRat n) else .error .tooLarge

/-- an angle in degrees, put onto the whole number it is close to -/
def snap (x : Float) : Program Float :=
  if x.isFinite then do
    let n ← wholeOf x
    let whole ← doubleOf n
    if (x - whole).abs < angleTolerance then doubleOf n else pure x
  else pure x

/-- the function with its angle in degrees, scaled -/
def applyDegrees (lib : TrigLibrary) (f : Trig) (x : Option Float) (factor : Option Float) :
    Program Float := do
  let x ← number x
  if f.isInverse then
    let y ← evalTrig lib f x
    let angle ← snap (degrees y)
    pure (scaled factor angle)
  else
    let y ← evalTrig lib f (radians x)
    pure (scaled factor y)

/-- the operation, its result checked; `sign` is how the operator was written -/
def compute (op : Operator) (sign : Text) (a b : Option Float) : Program Float := do
  let x ← calculate op a b
  let detail := valueText a ++ ' ' :: sign ++ ' ' :: valueText b
  known (check x (some (.operator op)) b (some detail))

/-- the function on degrees, its result checked; `word` is how the function was written -/
def computeTrig (lib : TrigLibrary) (f : Trig) (word : Text) (x : Option Float)
    (factor : Option Float) : Program Float := do
  let y ← applyDegrees lib f x factor
  let detail := word ++ '(' :: valueText x ++ [')']
  known (check y (some (.function f)) x (some detail))

def operation (t : Token) (a b : Option Float) : Program Float := do
  let op ← member (Operator.ofText? t.text)
  compute op t.text a b

def application (lib : TrigLibrary) (t : Token) (a : Option Float) : Program Float := do
  let f ← member (Trig.ofText? t.text)
  computeTrig lib f t.text a none

/-- take up the next token of a list in reverse Polish order -/
def step (lib : TrigLibrary) (stack : List (Option Float)) (t : Token) :
    Program (List (Option Float)) :=
  match t.kind with
  | .number | .constant => pure (t.value :: stack)
  | .operator =>
    if stack.length < 2 then fail (.notEnoughOperands t.text)
    else do
      let (b, stack) ← pop stack
      let (a, stack) ← pop stack
      let x ← operation t a b
      pure (some x :: stack)
  | .function =>
    if stack.isEmpty then fail (.missingOperand t.text)
    else do
      let (a, stack) ← pop stack
      let x ← application lib t a
      pure (some x :: stack)
  | .openParen | .closeParen => fail (.unexpected t.text)

/-- the value of a token list in reverse Polish order -/
def run (lib : TrigLibrary) (ts : List Token) : Program (Option Float) := do
  let stack ← ts.foldlM (step lib) []
  if stack.length ≠ 1 then fail .invalidExpression
  else
    let (x, _) ← pop stack
    pure x

/-! ## Texts -/

def rpn (t : Text) : Program (List Token) := do
  if t.isBlankText then fail .emptyExpression
  else
    let ts ← tokens t
    convert ts

def evaluate (lib : TrigLibrary) (t : Text) : Program (Option Float) := do
  let ts ← rpn t
  run lib ts

/-- whether a text has tokens, with matching parentheses; no other break than a fault is caught -/
def validate (t : Text) : Program Bool :=
  if t.isBlankText then pure false
  else
    match tokens t with
    | .ok ts => pure (isBalanced ts)
    | .error (.fault _) => pure false
    | .error b => .error b

end Program
end PocketCalc.Expression
