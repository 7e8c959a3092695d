import PocketCalc.Keypad.Scope

/-!
# The preview

Behind every key the preview shows what `=` would give.

* `Keypad.resultText`        what `=` gives for an operand;
* `Keypad.refreshPreview`    the preview after a key.
-/

namespace PocketCalc.Keypad

def showPreview (k : Keypad) (t : Text) : Keypad := { k with display.preview := t }

/-- what `=` gives for an operand: the pending operation on it, or the operand itself -/
def resultText (st : State) (x : Float) : Text :=
  if st.operatorSet then
    match st.operator with
    | none => ErrorKind.syntaxError.message.toList
    | some op =>
      match op.compute [op.symbol] st.first x with
      | .ok y => Format.result y
      | .error f => f.message.toList
  else Format.result x

/-- The keypad with its preview brought up to date.  An open scope without a number leaves the
preview as it was, and so does a result or an error on display. -/
def refreshPreview (s : Settings) (k : Keypad) : Keypad :=
  let st := k.state
  if st.failed || st.done then k
  else
    match readNumber? st.buffer with
    | some x => k.showPreview (resultText st x)
    | none =>
      if st.scope.isOpen && st.scope.isSet then
        match readNumber? st.scope.text, st.scope.function with
        | some x, some f =>
          match scopeValue s st.scope f x with
          | .ok y => k.showPreview (resultText st y)
          | .error e => k.showPreview e.message.toList
        | _, _ => k
      else if st.scope.isClosed then k.showPreview (resultText st st.scope.result)
      else if st.constantUsed then k.showPreview (resultText st st.constant)
      else k.showPreview (Format.result (if st.operatorSet then st.first else st.result))

end PocketCalc.Keypad
