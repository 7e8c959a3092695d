import PocketCalc.Keypad.Commit
import PocketCalc.Keypad.Event
import PocketCalc.Keypad.Preview

/-!
# Pressing keys

* `Keypad.handle`       what each key does while no error is shown;
* `Keypad.press`        a key: an error that is shown is dismissed, else the key is handled;
* `Keypad.apply`        an event: its key pressed, or the fault in it;
* `Keypad.feed`         a text command: the events of it, one after the other.
-/

namespace PocketCalc.Keypad

open Text

/-! ## Typing -/

/-- the keypad with a text typed, unless the entry is full; behind a result an entry starts anew -/
def append (s : Settings) (k : Keypad) (t : Text) : Keypad :=
  let k := if k.state.done then k.startOver else k
  if s.maxEntry ≤ k.state.buffer.length then k
  else
    let st := k.state
    showEntry
      { k with
        state :=
          { st with
            buffer := st.buffer ++ t
            justCommitted := false
            scope :=
              if st.scope.isOpen then
                { st.scope with text := st.scope.text ++ t, isStarted := true }
              else st.scope } }

/-- the keypad ready for a number: a closed scope or a constant in front of it is multiplied -/
def readyForNumber (s : Settings) (k : Keypad) : Keypad :=
  if k.state.scope.isClosed || k.state.constantUsed then
    { k.pressOperator s .multiply with
      state.scope.isClosed := false
      state.constantUsed := false }
  else k

/-- what is being typed: in an open scope, the text of the scope -/
def typedText (st : State) : Text := if st.scope.isOpen then st.scope.text else st.buffer

def pressDigit (s : Settings) (d : Fin 10) (k : Keypad) : Keypad :=
  let k := k.readyForNumber s
  if k.state.failed then k else k.append s [Nat.digitChar d]

/-- the key for the decimal point, which is typed once in a number -/
def pressPoint (s : Settings) (k : Keypad) : Keypad :=
  let k := k.readyForNumber s
  if k.state.failed then k
  else
    let k := if k.state.done then k.startOver else k
    let typed := typedText k.state
    if typed.contains '.' || typed.contains ',' then k
    else k.append s (if typed = [] then ['0', '.'] else ['.'])

/-! ## Functions and constants -/

/-- a function applied to the result on display, and the result of that displayed -/
def applyToResult (s : Settings) (f : Trig) (k : Keypad) : Keypad :=
  let x := k.state.result
  let k := { k with state := { result := x }, display := {} }
  let k := ((k.openScope f).append s (Format.result x)).closeScope s
  if k.state.failed then k else k.pressEquals s

/-- a function opened behind the entry, which is the number in front of it, if there is room -/
def openWithFactor (s : Settings) (f : Trig) (k : Keypad) : Keypad :=
  if s.maxScope ≤ k.state.buffer.length + f.name.length + 1 then k
  else openScope { k with state.scope.factor := readNumber? k.state.buffer } f

def pressFunction (s : Settings) (f : Trig) (k : Keypad) : Keypad :=
  let k :=
    if k.state.constantUsed || k.state.scope.isClosed then k.pressOperator s .multiply else k
  if k.state.failed then k
  else if k.state.done then k.applyToResult s f
  else if k.state.scope.isOpen then
    let k := k.closeScope s
    if k.state.failed then k
    else
      let k := k.pressOperator s .multiply
      if k.state.failed then k else k.openWithFactor s f
  else k.openWithFactor s f

/-- the number in front of a constant; a lone sign is minus one -/
def factorOf (t : Text) : Float :=
  match readNumber? t with
  | some x => x
  | none => if t = ['-'] then -1 else 1

def pressConstant (s : Settings) (c : Constant) (k : Keypad) : Keypad :=
  let k :=
    if k.state.constantUsed || k.state.scope.isClosed || k.state.done then
      k.pressOperator s .multiply
    else k
  if k.state.failed then k
  else if s.maxEntry ≤ k.state.buffer.length then k
  else
    let st := k.state
    let k :=
      { k with
        state.constant := c.value * factorOf (typedText st)
        state.buffer := st.buffer ++ [c.symbol]
        state.constantUsed := true }
    if st.scope.isOpen then
      { closeScope s { k with state.scope.text := st.scope.text ++ [c.symbol] } with
        state.constantUsed := false }
    else k.showEntry

/-! ## Editing -/

/-- the last character of the trail taken back, unless it is an operator -/
def shortenTrail (k : Keypad) : Keypad :=
  match k.display.trail.getLast? with
  | some c => if Operator.isSign c then k else { k with display.trail := k.display.trail.dropLast }
  | none => k

/-- a scope with nothing in it taken back -/
def dropScope (k : Keypad) : Keypad :=
  let opening := (k.state.scope.function.elim 0 fun f => f.name.length) + 1
  showEntry
    { k with
      state.buffer := k.state.buffer.take (k.state.buffer.length - opening)
      state.scope := {} }

/-- the last character `c` of the entry taken back -/
def dropChar (k : Keypad) (c : Char) : Keypad :=
  let st := { k.state with buffer := k.state.buffer.dropLast }
  if c = ')' then
    showEntry
      { k with
        state :=
          { st with
            scope := { st.scope with isClosed := false, isOpen := true, isSet := true }
            constantUsed := st.scope.text.getLast?.any Constant.isSymbol } }
  else
    let st := if Constant.isSymbol c then { st with constantUsed := false, constant := 1 } else st
    let st :=
      if st.scope.isOpen then
        { st with
          scope :=
            { st.scope with
              text := st.scope.text.dropLast
              isStarted := !st.scope.text.dropLast.isEmpty } }
      else st
    showEntry { k with state := st }

def pressBackspace (k : Keypad) : Keypad :=
  if k.state.done then k
  else
    match k.state.buffer.getLast? with
    | none => k.shortenTrail
    | some c =>
      if k.state.scope.isOpen && k.state.scope.text = [] then k.dropScope else k.dropChar c

def pressClearEntry (k : Keypad) : Keypad :=
  if k.state.done then k
  else
    { k with
      state :=
        { k.state with
          buffer := []
          justCommitted := false
          constantUsed := false
          constant := 1
          scope := {} }
      display.entry := blankLine }

/-- the key that changes the sign of what is being typed, or of the result -/
def pressToggleSign (k : Keypad) : Keypad :=
  let st := k.state
  if st.done then
    showEntry
      { k with
        state := { result := -st.result, buffer := writeEntry (-st.result) }
        display := {} }
  else if st.scope.isOpen then
    if st.scope.text = [] then k
    else
      showEntry
        { k with
          state :=
            { st with
              buffer :=
                st.buffer.take (st.buffer.length - st.scope.text.length) ++ toggled st.scope.text
              scope := { st.scope with text := toggled st.scope.text }
              constant := if st.constantUsed then -st.constant else st.constant } }
  else if st.scope.isClosed then
    showEntry
      { k with
        state :=
          { st with
            buffer := toggled st.buffer
            scope :=
              { st.scope with
                factor := some (st.scope.factor.elim (-1) fun x => -x)
                result := -st.scope.result } } }
  else if st.buffer = [] then k
  else
    showEntry
      { k with
        state :=
          { st with
            buffer := toggled st.buffer
            constant := if st.constantUsed then -st.constant else st.constant } }

/-! ## Keys, events and commands -/

/-- what a key does while no error is shown, the preview apart -/
def handle (s : Settings) (k : Keypad) : Key → Keypad
  | .digit d => k.pressDigit s d
  | .point => k.pressPoint s
  | .operator op => k.pressOperator s op
  | .function f => k.pressFunction s f
  | .constant c => k.pressConstant s c
  | .equals => k.pressEquals s
  | .backspace => k.pressBackspace
  | .clearEntry => k.pressClearEntry
  | .clearAll => k.startOver
  | .toggleSign => k.pressToggleSign

/-- a key; while an error is shown, any key dismisses it and does nothing else -/
def press (s : Settings) (k : Keypad) (key : Key) : Keypad :=
  if k.state.failed then k.acknowledge else (k.handle s key).refreshPreview s

/-- why a key cannot be pressed -/
inductive PressError
  /-- a fault in what the key carries -/
  | fault (f : Fault)
  /-- a key that carries more or less than it can -/
  | wrongCount
deriving DecidableEq, Repr

def pressWith (s : Settings) (k : Keypad) (kind : EventKind) (values : List Text) :
    Except PressError Keypad :=
  if k.state.failed then .ok k.acknowledge
  else
    match Key.ofValues kind values with
    | none => .error .wrongCount
    | some (.error f) => .error (.fault f)
    | some (.ok key) => .ok (k.press s key)

/-- an event; an error on display is dismissed whatever the event carries -/
def apply (s : Settings) (k : Keypad) (e : Event) : Except Fault Keypad :=
  if k.state.failed then .ok k.acknowledge else e.key.map (k.press s)

/-- an event whose kind is given as a word, which may be none of the known ones -/
def applyNamed (s : Settings) (k : Keypad) (kind : String) (value : Option Argument) :
    Except Fault Keypad :=
  match EventKind.ofWord? kind with
  | some kind => k.apply s ⟨kind, value⟩
  | none => .error (.cannotHandle (eventText (quoted kind.toList) value))

/-- a text command -/
def feed (s : Settings) (k : Keypad) (t : Text) : Except Fault Keypad :=
  match Command.events t with
  | .ok es => es.foldlM (apply s) k
  | .error f => .error f

end PocketCalc.Keypad
