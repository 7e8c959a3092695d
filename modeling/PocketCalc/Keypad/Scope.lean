import PocketCalc.Keypad.Basic

/-!
# The function scope

* `Keypad.openScope`    `sin(` behind the entry;
* `Keypad.scopeValue`   the value of the scope on an operand;
* `Keypad.closeScope`   `)` behind the entry, the value computed.

The operand of a scope is the number typed in it or, where there is none, a constant.
-/

namespace PocketCalc.Keypad

/-- the keypad with a function opened behind the entry -/
def openScope (k : Keypad) (f : Trig) : Keypad :=
  showEntry
    { k with
      state.buffer := k.state.buffer ++ f.name ++ ['(']
      state.scope.function := some f
      state.scope.text := []
      state.scope.isSet := true
      state.scope.isOpen := true
      state.scope.isClosed := false
      state.scope.isStarted := false }

/-- the value of a scope: the function of an operand in degrees, times the number in front -/
def scopeValue (s : Settings) (scope : Scope) (f : Trig) (x : Float) : Except Fault Float :=
  f.compute s.lib f.name x scope.factor

/-- what the function of the open scope is applied to -/
def scopeOperand? (st : State) : Option Float :=
  match readNumber? st.scope.text with
  | some x => some x
  | none => if st.constantUsed then some st.constant else none

/-- the keypad with the parenthesis written and the scope marked as closed -/
def markClosed (k : Keypad) : Keypad :=
  showEntry
    { k with
      state.buffer := k.state.buffer ++ [')']
      state.scope.isSet := false
      state.scope.isClosed := true }

/-- the keypad with its open scope closed and computed; where none is open nothing changes -/
def closeScope (s : Settings) (k : Keypad) : Keypad :=
  if !k.state.scope.isOpen then k
  else
    let st := k.state
    let k := { k with state.scope.isOpen := false }
    match st.scope.isSet, st.scope.function with
    | true, some f =>
      match scopeOperand? st with
      | none => k.fail (.nothingToApply f.name) .entry
      | some x =>
        let k := { k with state.scope.operand := x }
        match scopeValue s st.scope f x with
        | .error e => k.fail e .preview
        | .ok y => markClosed { k with state.scope.result := y }
    | _, _ => markClosed k

end PocketCalc.Keypad
