import PocketCalc.Proofs.Keypad.Sound

/-!
# What a relation between two keypads owes

Two keypads on which the same keys are pressed stay related if they agree on what the keys decide
by, and if each step that the keys are made of leaves them related.  That the keys do follows for
all such relations at once.

* `State.Agrees`                  the same in all that keys decide by;
* `Respected s r`                 the steps leave the relation `r`;
* `Respected.pressOperator`, ...  so do the keys that are made of them;
* `Respected.handle`              and so does every key, if a backspace does.
-/

namespace PocketCalc.Keypad

/-- the same in all that keys decide by -/
structure State.Agrees (st st' : State) : Prop where
  failed : st'.failed = st.failed
  done : st'.done = st.done
  operatorSet : st'.operatorSet = st.operatorSet
  constantUsed : st'.constantUsed = st.constantUsed
  isOpen : st'.scope.isOpen = st.scope.isOpen
  isClosed : st'.scope.isClosed = st.scope.isClosed
  buffer : st'.buffer = st.buffer
  typed : typedText st' = typedText st
  result : st'.result = st.result

/-- a relation that the steps of the keys leave -/
structure Respected (s : Settings) (r : Keypad → Keypad → Prop) : Prop where
  agrees : ∀ {k k' : Keypad}, r k k' → k.state.Agrees k'.state
  closeScope : ∀ {k k' : Keypad}, r k k' → r (k.closeScope s) (k'.closeScope s)
  takeOperand : ∀ {k k' : Keypad}, r k k' →
    k'.takeOperand.2 = k.takeOperand.2 ∧ r k.takeOperand.1 k'.takeOperand.1
  commit : ∀ {k k' : Keypad} (x : Float), r k k' →
    r (commit { k with state.second := x }) (commit { k' with state.second := x })
  awaitRight : ∀ {k k' : Keypad} (x : Float) (op : Operator), r k k' →
    r (awaitRight { k with state.first := x } op) (awaitRight { k' with state.first := x } op)
  continueChain : ∀ {k k' : Keypad} (op : Operator), r k k' →
    r (k.continueChain op) (k'.continueChain op)
  replaceOperator : ∀ {k k' : Keypad} (op : Operator), r k k' →
    r (k.replaceOperator op) (k'.replaceOperator op)
  finish : ∀ {k k' : Keypad} (x : Float), r k k' →
    r (finish s { k with state.result := x }) (finish s { k' with state.result := x })
  startOver : ∀ {k k' : Keypad}, r k k' → r k.startOver k'.startOver
  append : ∀ {k k' : Keypad} (t : Text), r k k' → r (k.append s t) (k'.append s t)
  multiplied : ∀ {k k' : Keypad}, r k k' →
    r { k with state.scope.isClosed := false, state.constantUsed := false }
      { k' with state.scope.isClosed := false, state.constantUsed := false }
  unused : ∀ {k k' : Keypad}, r k k' →
    r { k with state.constantUsed := false } { k' with state.constantUsed := false }
  openWithFactor : ∀ {k k' : Keypad} (f : Trig), r k k' →
    r (k.openWithFactor s f) (k'.openWithFactor s f)
  resume : ∀ {k k' : Keypad} (f : Trig), r k k' →
    r (openScope { k with state := { result := k.state.result }, display := {} } f)
      (openScope { k' with state := { result := k'.state.result }, display := {} } f)
  typeConstant : ∀ {k k' : Keypad} (c : Constant), r k k' → k.state.scope.isOpen = true →
    r { k with state := k.state.constantInScope c } { k' with state := k'.state.constantInScope c }
  showConstant : ∀ {k k' : Keypad} (c : Constant) (x : Float), r k k' →
    r (showEntry
        { k with
          state.constant := x
          state.buffer := k.state.buffer ++ [c.symbol]
          state.constantUsed := true })
      (showEntry
        { k' with
          state.constant := x
          state.buffer := k'.state.buffer ++ [c.symbol]
          state.constantUsed := true })
  clearEntry : ∀ {k k' : Keypad}, r k k' → r k.pressClearEntry k'.pressClearEntry
  toggleSign : ∀ {k k' : Keypad}, r k k' → r k.pressToggleSign k'.pressToggleSign

namespace Respected

variable {s : Settings} {r : Keypad → Keypad → Prop} {k k' : Keypad}

/-! ## Operations -/

theorem operation (h : Respected s r) {first : Keypad → Float → Keypad} {last : Keypad → Keypad}
    (hfirst : ∀ {k k' : Keypad} (x : Float), r k k' → r (first k x) (first k' x))
    (hlast : ∀ {k k' : Keypad}, r k k' → r (last k) (last k')) (hr : r k k') :
    r (operation first last k) (operation first last k') :=
  related_operation (fun hr => (h.agrees hr).operatorSet) (fun hr => (h.agrees hr).failed)
    h.takeOperand h.commit hfirst hlast hr

theorem pressOperator (h : Respected s r) (op : Operator) (hr : r k k') :
    r (k.pressOperator s op) (k'.pressOperator s op) := by
  have hr := h.closeScope hr
  have ha := h.agrees hr
  refine related_ite (by rw [ha.failed]) (fun _ => hr) fun _ => ?_
  refine related_ite (by rw [ha.done]) (fun _ => h.continueChain op hr) fun _ => ?_
  refine related_ite (by rw [ha.buffer, ha.operatorSet]) (fun _ => h.replaceOperator op hr)
    fun _ => ?_
  show r
    (Keypad.operation (fun k x => Keypad.awaitRight { k with state.first := x } op)
      (fun k => Keypad.awaitRight { k with state.first := k.state.result } op) (k.closeScope s)) _
  refine h.operation (fun x hr => h.awaitRight x op hr) (fun {k k'} hr => ?_) hr
  rw [(h.agrees hr).result]
  exact h.awaitRight k.state.result op hr

theorem pressEquals (h : Respected s r) (hr : r k k') : r (k.pressEquals s) (k'.pressEquals s) := by
  refine related_ite (by rw [(h.agrees hr).done]) (fun _ => hr) fun _ => ?_
  have hr := h.closeScope hr
  refine related_ite (by rw [(h.agrees hr).failed]) (fun _ => hr) fun _ => ?_
  show r
    (Keypad.operation (fun k x => Keypad.finish s { k with state.result := x }) (Keypad.finish s)
      (k.closeScope s)) _
  refine h.operation h.finish (fun {k k'} hr => ?_) hr
  have hsame : ({ k' with state.result := k.state.result } : Keypad) = k' := by
    rw [← (h.agrees hr).result]
  have hfinish := h.finish k.state.result hr
  rw [hsame] at hfinish
  exact hfinish

/-! ## Typing -/

theorem readyForNumber (h : Respected s r) (hr : r k k') :
    r (k.readyForNumber s) (k'.readyForNumber s) := by
  have ha := h.agrees hr
  refine related_ite (by rw [ha.isClosed, ha.constantUsed]) (fun _ => ?_) fun _ => hr
  exact h.multiplied (h.pressOperator .multiply hr)

theorem pressDigit (h : Respected s r) (d : Fin 10) (hr : r k k') :
    r (k.pressDigit s d) (k'.pressDigit s d) := by
  have hr := h.readyForNumber hr
  exact related_ite (by rw [(h.agrees hr).failed]) (fun _ => hr) fun _ => h.append _ hr

theorem pressPoint (h : Respected s r) (hr : r k k') : r (k.pressPoint s) (k'.pressPoint s) := by
  have hr := h.readyForNumber hr
  simp only [Keypad.pressPoint]
  generalize k.readyForNumber s = k at hr ⊢
  generalize k'.readyForNumber s = k' at hr ⊢
  refine related_ite (by rw [(h.agrees hr).failed]) (fun _ => hr) fun _ => ?_
  have hr : r (if k.state.done then k.startOver else k)
      (if k'.state.done then k'.startOver else k') :=
    related_ite (by rw [(h.agrees hr).done]) (fun _ => h.startOver hr) fun _ => hr
  generalize (if k.state.done then k.startOver else k) = k at hr ⊢
  generalize (if k'.state.done then k'.startOver else k') = k' at hr ⊢
  rw [(h.agrees hr).typed]
  exact related_ite Iff.rfl (fun _ => hr) fun _ => h.append _ hr

/-! ## Functions and constants -/

/-- behind a result a function starts from the result alone -/
theorem applyToResult (h : Respected s r) (f : Trig) (hr : r k k') :
    r (k.applyToResult s f) (k'.applyToResult s f) := by
  have hclosed := h.closeScope (h.append (Format.result k.state.result) (h.resume f hr))
  simp only [Keypad.applyToResult, (h.agrees hr).result] at hclosed ⊢
  exact related_ite (by rw [(h.agrees hclosed).failed]) (fun _ => hclosed)
    fun _ => h.pressEquals hclosed

theorem multiplyIf (h : Respected s r) (b b' : Bool) (hb : b' = b) (hr : r k k') :
    r (if b then k.pressOperator s .multiply else k)
      (if b' then k'.pressOperator s .multiply else k') :=
  related_ite (by rw [hb]) (fun _ => h.pressOperator .multiply hr) fun _ => hr

theorem pressFunction (h : Respected s r) (f : Trig) (hr : r k k') :
    r (k.pressFunction s f) (k'.pressFunction s f) := by
  have ha := h.agrees hr
  have hr := h.multiplyIf (k.state.constantUsed || k.state.scope.isClosed)
    (k'.state.constantUsed || k'.state.scope.isClosed) (by rw [ha.constantUsed, ha.isClosed]) hr
  simp only [Keypad.pressFunction]
  generalize (if k.state.constantUsed || k.state.scope.isClosed then k.pressOperator s .multiply
    else k) = k at hr ⊢
  generalize (if k'.state.constantUsed || k'.state.scope.isClosed then k'.pressOperator s .multiply
    else k') = k' at hr ⊢
  have ha := h.agrees hr
  refine related_ite (by rw [ha.failed]) (fun _ => hr) fun _ => ?_
  refine related_ite (by rw [ha.done]) (fun _ => h.applyToResult f hr) fun _ => ?_
  refine related_ite (by rw [ha.isOpen]) (fun _ => ?_) fun _ => h.openWithFactor f hr
  have hr := h.closeScope hr
  refine related_ite (by rw [(h.agrees hr).failed]) (fun _ => hr) fun _ => ?_
  have hr := h.pressOperator .multiply hr
  exact related_ite (by rw [(h.agrees hr).failed]) (fun _ => hr) fun _ => h.openWithFactor f hr

theorem pressConstant (h : Respected s r) (c : Constant) (hr : r k k') :
    r (k.pressConstant s c) (k'.pressConstant s c) := by
  have ha := h.agrees hr
  have hr := h.multiplyIf (k.state.constantUsed || k.state.scope.isClosed || k.state.done)
    (k'.state.constantUsed || k'.state.scope.isClosed || k'.state.done)
    (by rw [ha.constantUsed, ha.isClosed, ha.done]) hr
  simp only [Keypad.pressConstant]
  generalize (if k.state.constantUsed || k.state.scope.isClosed || k.state.done then
    k.pressOperator s .multiply else k) = k at hr ⊢
  generalize (if k'.state.constantUsed || k'.state.scope.isClosed || k'.state.done then
    k'.pressOperator s .multiply else k') = k' at hr ⊢
  have ha := h.agrees hr
  refine related_ite (by rw [ha.failed]) (fun _ => hr) fun _ => ?_
  refine related_ite (by rw [ha.buffer]) (fun _ => hr) fun _ => ?_
  refine related_ite (by rw [ha.isOpen]) (fun ho => ?_) fun _ => ?_
  · exact h.unused (h.closeScope (h.typeConstant c hr ho))
  · rw [ha.typed]
    exact h.showConstant c _ hr

/-! ## Every key -/

theorem handle (h : Respected s r) (key : Key) (hr : r k k')
    (hback : r k.pressBackspace k'.pressBackspace) : r (k.handle s key) (k'.handle s key) := by
  cases key with
  | digit d => exact h.pressDigit d hr
  | point => exact h.pressPoint hr
  | operator op => exact h.pressOperator op hr
  | function f => exact h.pressFunction f hr
  | constant c => exact h.pressConstant c hr
  | equals => exact h.pressEquals hr
  | backspace => exact hback
  | clearEntry => exact h.clearEntry hr
  | clearAll => exact h.startOver hr
  | toggleSign => exact h.toggleSign hr

end Respected
end PocketCalc.Keypad
