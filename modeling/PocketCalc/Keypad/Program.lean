import PocketCalc.Expression.Program
import PocketCalc.Keypad.Press

/-!
# The keys step by step

What the keys do, with each step that can break off in its place.  A program that breaks off leaves
the keypad as the steps in front have left it, so here it shows whether a key that is refused has
changed anything, and whether a step is ever taken where it is undefined: reading the end of an
empty text, asking for the function of a scope without one, writing the digits of infinity, or a
step of the arithmetic that an expression would break off at.

An error on display is no break: a number that cannot be computed with is caught where it arises,
and shown.

* `Program`, `Break`        programs on the keypad, and how they break off;
* `Program.handle`          a key of a kind, with the values it was sent with;
* `Program.receive`         an event as a front end sends it;
* `Program.feed`            a text command, its events one after the other.
-/

namespace PocketCalc.Keypad

open Text

/-- how a program breaks off -/
inductive Break
  /-- a fault in what the key carries -/
  | fault (f : Fault)
  /-- a step taken where it is undefined -/
  | undefined
deriving DecidableEq, Repr

/-- a program on the keypad -/
abbrev Program := EStateM Break Keypad

namespace Program

/-! ## Steps that can break off -/

/-- what a key carries, looked up -/
def known {α : Type} : Except Fault α → Program α
  | .ok a => pure a
  | .error f => throw (.fault f)

/-- a number written -/
def written : Except Format.NoDigits Text → Program Text
  | .ok t => pure t
  | .error _ => throw .undefined

/-- the end of a text -/
def lastOf (t : Text) : Program Char :=
  match t.getLast? with
  | some c => pure c
  | none => throw .undefined

/-- the function of the scope -/
def scopeFunction : Program Trig := do
  match (← get).state.scope.function with
  | some f => pure f
  | none => throw .undefined

/-- the number in front of the scope -/
def scopeFactor : Program Float := do
  match (← get).state.scope.factor with
  | some x => pure x
  | none => throw .undefined

/-! ## Arithmetic -/

/-- a step of the arithmetic; what breaks it off other than a fault is undefined here -/
def arithmetic {α : Type} : Expression.Program α → Program α
  | .ok a => pure a
  | .error (.fault f) => throw (.fault f)
  | .error _ => throw .undefined

/-- the number that a text is, if it is one -/
def numberIn (t : Text) : Program (Option Float) := arithmetic (.parseIfNumber t)

/-- an operation, or the fault that it breaks off with -/
def compute (op : Operator) (a b : Float) : Program (Except Fault Float) :=
  arithmetic (.attempt (.compute op [op.symbol] (some a) (some b)))

/-- the value of a scope, or the fault that it breaks off with -/
def scopeValue (s : Settings) (scope : Scope) (f : Trig) (x : Float) :
    Program (Except Fault Float) :=
  arithmetic (.attempt (.computeTrig s.lib f f.name (some x) scope.factor))

/-! ## The preview -/

def resultText (st : State) (x : Float) : Program Text := do
  if st.operatorSet then
    match st.operator with
    | none => pure ErrorKind.syntaxError.message.toList
    | some op =>
      match ← compute op st.first x with
      | .ok y => written (Format.tryResult y)
      | .error f => pure f.message.toList
  else written (Format.tryResult x)

def showResult (st : State) (x : Float) : Program Unit := do
  let t ← resultText st x
  modify (showPreview · t)

def refreshPreview (s : Settings) : Program Unit := do
  let st := (← get).state
  if st.failed || st.done then pure ()
  else
    match ← numberIn st.buffer with
    | some x => showResult st x
    | none =>
      if st.scope.isOpen && st.scope.isSet then
        match ← numberIn st.scope.text with
        | none => pure ()
        | some x =>
          match st.scope.function with
          | none => modify (showPreview · ErrorKind.syntaxError.message.toList)
          | some f =>
            match ← scopeValue s st.scope f x with
            | .ok y => showResult st y
            | .error e => modify (showPreview · e.message.toList)
      else if st.scope.isClosed then showResult st st.scope.result
      else if st.constantUsed then showResult st st.constant
      else do
        let t ← written (Format.tryResult (if st.operatorSet then st.first else st.result))
        modify (showPreview · t)

/-! ## The trail -/

def rewriteNumber (t : Text) : Program Text := do
  match ← numberIn (endingWhile isNumberChar t) with
  | none => pure t
  | some x => do
    let shown ← written (Format.tryStrict x)
    pure (trimEndWhile isNumberChar t ++ shown)

def extendTrail (t : Text) : Program Unit :=
  if t = [] then pure ()
  else do
    let c ← lastOf t
    let shown ←
      if Operator.isSign c then do
        let number ← rewriteNumber t.dropLast
        pure (number ++ [c])
      else rewriteNumber t
    modify fun k => { k with display.trail := k.display.trail ++ shown }

/-! ## Carrying out operations -/

def scopeOperand (st : State) : Program (Option Float) := do
  match ← numberIn st.scope.text with
  | some x => pure (some x)
  | none => pure (if st.constantUsed then some st.constant else none)

def closeScope (s : Settings) : Program Unit := do
  let st := (← get).state
  if !st.scope.isOpen then pure ()
  else do
    modify fun k => { k with state.scope.isOpen := false }
    match st.scope.isSet, st.scope.function with
    | true, some f =>
      match ← scopeOperand st with
      | none => modify fun k => fail k (.nothingToApply f.name) .entry
      | some x =>
        modify fun k => { k with state.scope.operand := x }
        match ← scopeValue s st.scope f x with
        | .error e => modify fun k => fail k e .preview
        | .ok y => modify fun k => markClosed { k with state.scope.result := y }
    | _, _ => modify markClosed

def takeOperand : Program (Option Float) := do
  let st := (← get).state
  match ← numberIn st.buffer with
  | some x => pure (some x)
  | none =>
    if st.scope.isClosed then do
      modify fun k => { k with state.scope.isClosed := false }
      pure (some st.scope.result)
    else if st.constantUsed then do
      modify fun k => { k with state.constantUsed := false }
      pure (some st.constant)
    else do
      modify fun k => fail k (.noOperand st.buffer) .entry
      pure none

def commit : Program Unit := do
  let st := (← get).state
  match st.operator with
  | none => pure ()
  | some op =>
    modify fun k => { k with state.commits := k.state.commits + 1 }
    match ← compute op st.first st.second with
    | .error f => modify fun k => fail { k with state.result := 0 } f .preview
    | .ok x =>
      modify fun k => { k with state.result := x }
      let t ← written (Format.tryResult x)
      modify fun k =>
        { k with
          state.operatorSet := false
          state.justCommitted := true
          display.preview := t }

def continueChain (op : Operator) : Program Unit := do
  let x := (← get).state.result
  modify fun k =>
    { k with
      state := { result := x, first := x, operator := some op, operatorSet := true }
      display := {} }
  let trail ← written (Format.tryStrict x)
  modify fun k => { k with display.trail := trail ++ [op.symbol] }
  let preview ← written (Format.tryResult x)
  modify (showPreview · preview)

def replaceOperator (op : Operator) : Program Unit := do
  let trail := (← get).display.trail
  if trail = [] then pure ()
  else
    let c ← lastOf trail
    if Operator.isSign c then
      modify fun k => { k with display.trail := trail.dropLast ++ [op.symbol] }
  modify fun k => { k with state.operator := some op }

def awaitRight (op : Operator) : Program Unit := do
  modify fun k => { k with state.operator := some op, state.operatorSet := true }
  let entry := (← get).state.buffer
  if entry = [] then pure () else extendTrail (grouped entry ++ [op.symbol])
  modify fun k => { k with state.buffer := [], state.scope.text := [], display.entry := blankLine }

def pressOperator (s : Settings) (op : Operator) : Program Unit := do
  closeScope s
  let st := (← get).state
  if st.failed then pure ()
  else if st.done then continueChain op
  else if st.buffer = [] && st.operatorSet then replaceOperator op
  else
    match ← takeOperand with
    | none => pure ()
    | some x =>
      if !(← get).state.operatorSet then do
        modify fun k => { k with state.first := x }
        awaitRight op
      else do
        modify fun k => { k with state.second := x }
        commit
        if (← get).state.failed then pure ()
        else do
          modify fun k => { k with state.first := k.state.result }
          awaitRight op

def finish (s : Settings) : Program Unit := do
  let k ← get
  let st := k.state
  let x := st.result
  extendTrail (if k.display.trail = [] then st.buffer else grouped st.buffer)
  let shown ← written (Format.tryResult x)
  modify fun k =>
    { k with
      state :=
        { k.state with
          done := true, first := x, operatorSet := false, operator := none, scope.text := [] }
      display := { k.display with preview := shown, entry := shown } }
  if x.isFinite then do
    let entry ← written (Format.tryEntry x)
    modify fun k =>
      { k with state.buffer := entry, history := k.history.record k.display.trail x s.now }
  else modify fun k => { k with state.buffer := [] }

def pressEquals (s : Settings) : Program Unit := do
  if (← get).state.done then pure ()
  else do
    closeScope s
    if (← get).state.failed then pure ()
    else
      match ← takeOperand with
      | none => pure ()
      | some x =>
        if !(← get).state.operatorSet then do
          modify fun k => { k with state.result := x }
          finish s
        else do
          modify fun k => { k with state.second := x }
          commit
          if (← get).state.failed then pure () else finish s

/-! ## Keys -/

def readyForNumber (s : Settings) : Program Unit := do
  let st := (← get).state
  if st.scope.isClosed || st.constantUsed then do
    pressOperator s .multiply
    modify fun k => { k with state.scope.isClosed := false, state.constantUsed := false }
  else pure ()

def pressDigit (s : Settings) (d : Fin 10) : Program Unit := do
  readyForNumber s
  if (← get).state.failed then pure () else modify fun k => k.append s [Nat.digitChar d]

def pressPoint (s : Settings) : Program Unit := do
  readyForNumber s
  if (← get).state.failed then pure ()
  else do
    modify fun k => if k.state.done then k.startOver else k
    let typed := typedText (← get).state
    if typed.contains '.' || typed.contains ',' then pure ()
    else modify fun k => k.append s (if typed = [] then ['0', '.'] else ['.'])

def applyToResult (s : Settings) (f : Trig) : Program Unit := do
  let x := (← get).state.result
  modify fun k => openScope { k with state := { result := x }, display := {} } f
  let shown ← written (Format.tryResult x)
  modify fun k => k.append s shown
  closeScope s
  if (← get).state.failed then pure () else pressEquals s

/-- what is in front of a function or a constant is multiplied where it cannot be a factor -/
def multiplyIf (s : Settings) (b : Bool) : Program Unit :=
  if b then pressOperator s .multiply else pure ()

def openWithFactor (s : Settings) (f : Trig) : Program Unit := do
  let entry := (← get).state.buffer
  if s.maxScope ≤ entry.length + f.name.length + 1 then pure ()
  else do
    let factor ← numberIn entry
    modify fun k => openScope { k with state.scope.factor := factor } f

def pressFunction (s : Settings) (f : Trig) : Program Unit := do
  let st := (← get).state
  multiplyIf s (st.constantUsed || st.scope.isClosed)
  let st := (← get).state
  if st.failed then pure ()
  else if st.done then applyToResult s f
  else if st.scope.isOpen then do
    closeScope s
    if (← get).state.failed then pure ()
    else do
      pressOperator s .multiply
      if (← get).state.failed then pure () else openWithFactor s f
  else openWithFactor s f

/-- the number in front of a constant; a lone sign is minus one -/
def factorOf (t : Text) : Program Float := do
  match ← numberIn t with
  | some x => pure x
  | none => pure (if t = ['-'] then -1 else 1)

def pressConstant (s : Settings) (c : Constant) : Program Unit := do
  let st := (← get).state
  multiplyIf s (st.constantUsed || st.scope.isClosed || st.done)
  let st := (← get).state
  if st.failed then pure ()
  else if s.maxEntry ≤ st.buffer.length then pure ()
  else do
    let factor ← factorOf (typedText st)
    modify fun k =>
      { k with
        state.constant := c.value * factor
        state.buffer := st.buffer ++ [c.symbol]
        state.constantUsed := true }
    if st.scope.isOpen then do
      modify fun k => { k with state.scope.text := k.state.scope.text ++ [c.symbol] }
      closeScope s
      modify fun k => { k with state.constantUsed := false }
    else modify showEntry

def shortenTrail : Program Unit := do
  let trail := (← get).display.trail
  if trail = [] then pure ()
  else do
    let c ← lastOf trail
    if Operator.isSign c then pure ()
    else modify fun k => { k with display.trail := trail.dropLast }

def dropScope : Program Unit := do
  let f ← scopeFunction
  modify fun k =>
    showEntry
      { k with
        state.buffer := k.state.buffer.take (k.state.buffer.length - (f.name.length + 1))
        state.scope := {} }

def pressBackspace : Program Unit := do
  let st := (← get).state
  if st.done then pure ()
  else if st.buffer = [] then shortenTrail
  else if st.scope.isOpen && st.scope.text = [] then dropScope
  else do
    let c ← lastOf st.buffer
    modify (dropChar · c)

/-- the number in front of the scope with its sign changed; nothing in front counts as one -/
def negatedFactor : Program Float := do
  if (← get).state.scope.factor.isNone then pure (-1)
  else do
    let x ← scopeFactor
    pure (-x)

def pressToggleSign : Program Unit := do
  let st := (← get).state
  if st.done then do
    modify fun k => { k with state := { result := -st.result }, display := {} }
    let entry ← written (Format.tryEntry (-st.result))
    modify fun k => showEntry { k with state.buffer := entry }
  else if !st.scope.isOpen && st.scope.isClosed then do
    modify fun k => { k with state.buffer := toggled st.buffer }
    let factor ← negatedFactor
    modify fun k =>
      showEntry
        { k with state.scope.factor := some factor, state.scope.result := -st.scope.result }
  else modify Keypad.pressToggleSign

/-! ## Events -/

/-- the digit of a text of one character -/
def digitOf : Text → Except Fault (Fin 10)
  | [c] => (digitOf? c).elim (.error (.notADigit [c])) .ok
  | t => .error (.notADigit t)

/-- what a kind of key does with the values it was sent with; more or fewer of them than it takes
are undefined -/
def handle (s : Settings) (kind : EventKind) (values : List Text) : Program Unit :=
  match kind, values with
  | .digit, [t] => known (digitOf t) >>= pressDigit s
  | .operator, [t] => known (Operator.find t) >>= pressOperator s
  | .function, [t] => known (Trig.find t) >>= pressFunction s
  | .constant, [t] => known (Constant.find t) >>= pressConstant s
  | .decimalPoint, [] => pressPoint s
  | .equals, [] => pressEquals s
  | .backspace, [] => pressBackspace
  | .clearEntry, [] => modify pressClearEntry
  | .clearAll, [] => modify startOver
  | .signToggle, [] => pressToggleSign
  | _, _ => throw .undefined

/-- an event; an error on display is dismissed whatever the event carries -/
def dispatch (s : Settings) (kind : EventKind) (values : List Text) : Program Unit := do
  if (← get).state.failed then modify acknowledge
  else do
    handle s kind values
    refreshPreview s

/-- the fault that a break is reported as -/
def faultOf (event : Text) : Break → Fault
  | .fault f => f
  | .undefined => .cannotHandle event

/-- a program whose breaks are reported -/
def reporting (event : Text) (p : Program Unit) : EStateM Fault Keypad Unit := fun k =>
  match p.run k with
  | .ok a k' => .ok a k'
  | .error b k' => .error (faultOf event b) k'

/-- an event whose kind is given as a word, which may be none of the known ones -/
def receive (s : Settings) (kind : String) (value : Option Argument) : EStateM Fault Keypad Unit :=
  match EventKind.ofWord? kind with
  | none => reporting (eventText (quoted kind.toList) value) (throw .undefined)
  | some kind =>
    reporting (eventText kind.describe value) (dispatch s kind (value.toList.map Argument.toText))

/-- a text command -/
def feed (s : Settings) (t : Text) : EStateM Fault Keypad Unit :=
  match Command.events t with
  | .error f => throw f
  | .ok es => es.forM fun e => receive s e.kind.word e.value

end Program
end PocketCalc.Keypad
