import PocketCalc.Keypad.Scope

/-!
# Carrying out operations

Operators are carried out from left to right as soon as the next one is pressed: `5 + 3 × 2 =` is
sixteen.

* `Keypad.takeOperand`     the number that was entered;
* `Keypad.commit`          the pending operation on both operands;
* `Keypad.pressOperator`   an operator key;
* `Keypad.pressEquals`     the `=` key.
-/

namespace PocketCalc.Keypad

/-! ## Operands -/

/-- The number that was entered: a plain number, else the value of the closed scope, else the
constant.  Without any of them there is an error. -/
def takeOperand (k : Keypad) : Keypad × Option Float :=
  match readNumber? k.state.buffer with
  | some x => (k, some x)
  | none =>
    if k.state.scope.isClosed then
      ({ k with state.scope.isClosed := false }, some k.state.scope.result)
    else if k.state.constantUsed then
      ({ k with state.constantUsed := false }, some k.state.constant)
    else (k.fail (.noOperand k.state.buffer) .entry, none)

/-- the pending operation carried out on both operands -/
def commit (k : Keypad) : Keypad :=
  match k.state.operator with
  | none => k
  | some op =>
    let k := { k with state.commits := k.state.commits + 1 }
    match op.compute [op.symbol] k.state.first k.state.second with
    | .error f => fail { k with state.result := 0 } f .preview
    | .ok x =>
      { k with
        state.result := x
        state.operatorSet := false
        state.justCommitted := true
        display.preview := Format.result x }

/-! ## The operator keys -/

/-- an operator behind a result that is shown: the result is the left operand -/
def continueChain (k : Keypad) (op : Operator) : Keypad :=
  let x := k.state.result
  { k with
    state := { result := x, first := x, operator := some op, operatorSet := true }
    display := { preview := Format.result x, trail := Format.strict x ++ [op.symbol] } }

/-- an operator right behind another one takes its place -/
def replaceOperator (k : Keypad) (op : Operator) : Keypad :=
  let trail :=
    match k.display.trail.getLast? with
    | some c =>
      if Operator.isSign c then k.display.trail.dropLast ++ [op.symbol] else k.display.trail
    | none => k.display.trail
  { k with state.operator := some op, display.trail := trail }

/-- an operator behind a left operand: the entry goes into the trail -/
def awaitRight (k : Keypad) (op : Operator) : Keypad :=
  let k := { k with state.operator := some op, state.operatorSet := true }
  let k :=
    if k.state.buffer = [] then k else k.extendTrail (grouped k.state.buffer ++ [op.symbol])
  { k with state.buffer := [], state.scope.text := [], display.entry := blankLine }

/-- an operator key -/
def pressOperator (s : Settings) (op : Operator) (k : Keypad) : Keypad :=
  let k := k.closeScope s
  if k.state.failed then k
  else if k.state.done then k.continueChain op
  else if k.state.buffer = [] && k.state.operatorSet then k.replaceOperator op
  else
    match k.takeOperand with
    | (k, none) => k
    | (k, some x) =>
      if !k.state.operatorSet then awaitRight { k with state.first := x } op
      else
        let k := commit { k with state.second := x }
        if k.state.failed then k else awaitRight { k with state.first := k.state.result } op

/-! ## The `=` key -/

/-- the result on display and, if it is finite, in the history -/
def finish (s : Settings) (k : Keypad) : Keypad :=
  let st := k.state
  let x := st.result
  let k := k.extendTrail (if k.display.trail = [] then st.buffer else grouped st.buffer)
  { k with
    state :=
      { st with
        done := true
        first := x
        operatorSet := false
        operator := none
        scope.text := []
        buffer := if x.isFinite then writeEntry x else [] }
    display := { k.display with preview := Format.result x, entry := Format.result x }
    history := if x.isFinite then k.history.record k.display.trail x s.now else k.history }

/-- the `=` key -/
def pressEquals (s : Settings) (k : Keypad) : Keypad :=
  if k.state.done then k
  else
    let k := k.closeScope s
    if k.state.failed then k
    else
      match k.takeOperand with
      | (k, none) => k
      | (k, some x) =>
        if !k.state.operatorSet then finish s { k with state.result := x }
        else
          let k := commit { k with state.second := x }
          if k.state.failed then k else finish s k

end PocketCalc.Keypad
