import PocketCalc.Keypad.Field
import PocketCalc.Proofs.Keypad.Undo
import PocketCalc.Proofs.Zeros

/-!
# What is shown is told by the state

Entry and preview are those of the state, and states that are compared field by field, with the two
zeros one number, show the same.  The one exception is an open scope without a number: there the
preview is left over from what was typed before.

* `State.Same st st'`        the fields compare as equal;
* `State.Same.previewText?_eq`   such states have one preview;
* `digit_and_back`           a digit typed into an empty scope and taken back;
* `display_determined`       what the state tells of the display, and what it does not;
* `preview_left_over`        two runs to one state with two previews.
-/

namespace PocketCalc.Keypad
open Text

/-! ## States that compare as equal -/

/-- values that are the same, or compare as equal -/
def Value.Same (v w : Value) : Prop := v = w ∨ v.differs w = false

/-- states with the same values in all fields, but for the sign of a zero -/
def State.Same (st st' : State) : Prop := ∀ f : Field, (st.get f).Same (st'.get f)

theorem State.Same.of_eq {st st' : State} (h : st = st') : st.Same st' :=
  fun f => .inl (congrArg (State.get · f) h)

theorem Value.Same.number {x y : Float} (h : (number x).Same (number y)) : SameNumber x y := by
  rcases h with h | h
  · cases h
    exact .refl x
  · have h : (x != y) = false := h
    rw [bne, Bool.not_eq_false'] at h
    exact sameNumber_of_beq h

theorem Value.Same.maybeNumber {x y : Option Float}
    (h : (Value.maybeNumber x).Same (Value.maybeNumber y)) :
    x = y ∨ ∃ v w, x = some v ∧ y = some w ∧ SameNumber v w := by
  cases x with
  | none =>
    cases y with
    | none => exact .inl rfl
    | some w => rcases h with h | h <;> cases h
  | some v =>
    cases y with
    | none => rcases h with h | h <;> cases h
    | some w =>
      refine .inr ⟨v, w, rfl, rfl, Value.Same.number ?_⟩
      rcases h with h | h
      · cases h
        exact .inl rfl
      · exact .inr h

/-- the fields that numbers stand in -/
def Field.isNumber : Field → Bool
  | result | first | second | scopeOperand | scopeFactor | scopeResult | constant => true
  | operator | scopeFunction | scopeText | operatorSet | scopeSet | scopeOpen | scopeClosed
  | constantUsed | justCommitted | done | failed | scopeStarted | buffer | commits => false

variable {s : Settings} {k k' : Keypad} {st st' : State}

/-- what is no number is compared as it is -/
theorem State.Same.get_eq (h : st.Same st') {f : Field} (hf : f.isNumber = false) :
    st.get f = st'.get f := by
  rcases h f with he | hd
  · exact he
  · cases f with
    | result | first | second | scopeOperand | scopeFactor | scopeResult | constant => cases hf
    | operator | scopeFunction | scopeText | operatorSet | scopeSet | scopeOpen | scopeClosed
    | constantUsed | justCommitted | done | failed | scopeStarted | buffer | commits =>
      simpa [State.get, Value.differs] using hd

/-! ## Previews -/

namespace State.Same

theorem resultText_eq (h : st.Same st') {x x' : Float} (hx : SameNumber x x') :
    resultText st x = resultText st' x' := by
  have hset : st.operatorSet = st'.operatorSet := Value.flag.inj (h.get_eq (f := .operatorSet) rfl)
  have hop : st.operator = st'.operator := Value.operator.inj (h.get_eq (f := .operator) rfl)
  have hfirst : SameNumber st.first st'.first := (h .first).number
  unfold resultText
  rw [← hset, ← hop]
  split
  · cases st.operator with
    | none => rfl
    | some op =>
      have houtcome := SameNumber.compute op [op.symbol] hfirst hx
      simp only
      generalize op.compute [op.symbol] st.first x = r at houtcome ⊢
      generalize op.compute [op.symbol] st'.first x' = r' at houtcome ⊢
      cases houtcome with
      | ok hy => exact hy.result
      | error hkind => exact congrArg (fun k : ErrorKind => k.message.toList) hkind
  · exact hx.result

theorem scopeText_eq (h : st.Same st') (s : Settings) (f : Trig) (x : Float) :
    scopeText s st f x = scopeText s st' f x := by
  have hvalue : SameOutcome (scopeValue s st.scope f x) (scopeValue s st'.scope f x) := by
    unfold scopeValue
    rcases (h .scopeFactor).maybeNumber with hfactor | ⟨v, w, hv, hw, hvw⟩
    · rw [hfactor]
      exact .refl _
    · rw [hv, hw]
      exact sameOutcome_compute s.lib f f.name x hvw
  unfold scopeText
  generalize scopeValue s st.scope f x = r at hvalue ⊢
  generalize scopeValue s st'.scope f x = r' at hvalue ⊢
  cases hvalue with
  | ok hy => exact h.resultText_eq hy
  | error hkind => exact congrArg (fun k : ErrorKind => k.message.toList) hkind

theorem previewText?_eq (h : st.Same st') (s : Settings) :
    previewText? s st = previewText? s st' := by
  have hfailed : st.failed = st'.failed := Value.flag.inj (h.get_eq (f := .failed) rfl)
  have hdone : st.done = st'.done := Value.flag.inj (h.get_eq (f := .done) rfl)
  have hbuffer : st.buffer = st'.buffer := Value.text.inj (h.get_eq (f := .buffer) rfl)
  have hopen : st.scope.isOpen = st'.scope.isOpen := Value.flag.inj (h.get_eq (f := .scopeOpen) rfl)
  have hisSet : st.scope.isSet = st'.scope.isSet := Value.flag.inj (h.get_eq (f := .scopeSet) rfl)
  have hclosed : st.scope.isClosed = st'.scope.isClosed :=
    Value.flag.inj (h.get_eq (f := .scopeClosed) rfl)
  have htext : st.scope.text = st'.scope.text := Value.text.inj (h.get_eq (f := .scopeText) rfl)
  have hfunction : st.scope.function = st'.scope.function :=
    Value.function.inj (h.get_eq (f := .scopeFunction) rfl)
  have hused : st.constantUsed = st'.constantUsed :=
    Value.flag.inj (h.get_eq (f := .constantUsed) rfl)
  have hset : st.operatorSet = st'.operatorSet := Value.flag.inj (h.get_eq (f := .operatorSet) rfl)
  unfold previewText?
  rw [← hfailed, ← hdone, ← hbuffer, ← hopen, ← hisSet, ← hclosed, ← htext, ← hfunction, ← hused,
    ← hset]
  split
  · rfl
  split
  · exact congrArg some (h.resultText_eq (.refl _))
  split
  · split
    · exact congrArg some (h.scopeText_eq s _ _)
    · rfl
  split
  · exact congrArg some (h.resultText_eq (h .scopeResult).number)
  split
  · exact congrArg some (h.resultText_eq (h .constant).number)
  split
  · exact congrArg some (h .first).number.result
  · exact congrArg some (h .result).number.result

end State.Same

/-! ## What is left over -/

theorem digitChar_facts : ∀ d : Fin 10, Nat.digitChar d ≠ ')' ∧
    Constant.isSymbol (Nat.digitChar d) = false := by
  decide

section
variable {f : Trig} {d : Fin 10} {x : Float}

/-- a digit typed into an empty scope -/
theorem state_press_digit (hk : k.state.Keying) (ho : k.state.scope.isOpen = true)
    (ht : k.state.scope.text = []) (hroom : (k.state.buffer.length : Int) < s.maxEntry)
    (d : Fin 10) :
    (k.press s (.digit d)).state =
      { k.state with
        buffer := k.state.buffer ++ [Nat.digitChar d]
        justCommitted := false
        scope.text := [Nat.digitChar d]
        scope.isStarted := true } := by
  have hsame : (if k.state.done then k.startOver else k) = k := if_neg (by simp [hk.done])
  rw [press, if_neg (by simp [hk.failed]), state_refreshPreview]
  simp only [handle, pressDigit, readyForNumber_of_keying hk]
  rw [if_neg (by simp [hk.failed])]
  simp only [append]
  rw [hsame, if_neg (by omega), if_pos ho, state_showEntry, ht, List.nil_append]

/-- the preview shows the scope on that digit -/
theorem preview_press_digit (h : Reached s k) (hk : k.state.Keying)
    (ho : k.state.scope.isOpen = true) (ht : k.state.scope.text = [])
    (hf : k.state.scope.function = some f) (hroom : (k.state.buffer.length : Int) < s.maxEntry)
    (hx : readNumber? [Nat.digitChar d] = some x) :
    (k.press s (.digit d)).display.preview = scopeText s k.state f x := by
  have hs := state_press_digit hk ho ht hroom d
  have ha : (k.press s (.digit d)).state.Active :=
    (h.press (.digit d)).sound.active (by rw [hs]; exact hk.failed)
  have ho₁ : (k.press s (.digit d)).state.scope.isOpen = true := by
    rw [hs]
    exact ho
  apply (h.press (.digit d)).upToDate
  obtain ⟨-, -, -, hset, -⟩ := ha.scope.of_isOpen ho₁
  have hnone := ha.scope.readNumber? (.inl ho₁)
  rw [hs] at hset hnone ⊢
  simp only at hset hnone
  simp only [previewText?, hk.failed, hk.done, hnone, ho, hset, hx, hf, Bool.or_self, Bool.and_self,
    Bool.false_eq_true, if_false, if_true]
  rfl

/-- A digit typed into an empty scope and taken back leaves the preview that it had. -/
theorem digit_and_back (h : Reached s k) (hk : k.state.Keying)
    (ho : k.state.scope.isOpen = true) (ht : k.state.scope.text = [])
    (hf : k.state.scope.function = some f) (hroom : (k.state.buffer.length : Int) < s.maxEntry)
    (hx : readNumber? [Nat.digitChar d] = some x) :
    ((k.press s (.digit d)).press s .backspace).state =
        { k.state with justCommitted := false, scope.isStarted := false } ∧
      ((k.press s (.digit d)).press s .backspace).display.preview = scopeText s k.state f x := by
  obtain ⟨hclosing, hsymbol⟩ := digitChar_facts d
  have hs := state_press_digit hk ho ht hroom d
  have hpreview := preview_press_digit h hk ho ht hf hroom hx
  have h₂ := (h.press (.digit d)).press .backspace
  generalize k.press s (.digit d) = k₁ at hs hpreview h₂ ⊢
  have hf₁ : k₁.state.failed = false := by rw [hs]; exact hk.failed
  have hdrop : k₁.pressBackspace = k₁.dropChar (Nat.digitChar d) := by
    refine pressBackspace_of_getLast? (by rw [hs]; exact hk.done) ?_ ?_
    · rw [hs, List.getLast?_concat]
    · rw [hs]
      exact fun _ => List.cons_ne_nil _ _
  have hstate : (k₁.press s .backspace).state =
      { k.state with justCommitted := false, scope.isStarted := false } := by
    rw [state_press_backspace hf₁, hdrop, state_dropChar hclosing, hs]
    simp only [Scope.dropLast, ho, if_true, hsymbol, Bool.not_false, Bool.true_and,
      List.dropLast_concat, Bool.false_eq_true, if_false]
    rw [ht]
    rfl
  refine ⟨hstate, ?_⟩
  have ha₂ : (k₁.press s .backspace).state.Active :=
    h₂.sound.active (by rw [hstate]; exact hk.failed)
  have hnone : previewText? s (k₁.press s .backspace).state = none := by
    rw [previewText?_eq_none_iff ha₂ (by rw [hstate]; exact hk.done), hstate]
    refine ⟨ho, ?_⟩
    show readNumber? k.state.scope.text = none
    rw [ht]
    rfl
  rw [state_press_backspace hf₁, hdrop] at hnone
  rw [press, if_neg (by simp [hf₁]), handle, hdrop, refreshPreview_eq, hnone, ← hpreview]
  rw [(dropChar_eq_showEntry k₁ (Nat.digitChar d)).1]
  rfl

end

/-! ## Main result -/

/-- **The state tells the display**, but for what is left over in a scope.  Two runs to states that
compare as equal show the same entry, and they show the same preview unless a scope is open without
a number.  There they need not: every digit typed into an empty scope and taken back leads to one
state with the preview of that digit. -/
theorem display_determined (h : Reached s k) (hf : k.state.failed = false)
    (hd : k.state.done = false) :
    (∀ k', Reached s k' → k.state.Same k'.state →
      k'.display.entry = k.display.entry ∧
        (¬ (k.state.scope.isOpen = true ∧ readNumber? k.state.scope.text = none) →
          k'.display.preview = k.display.preview)) ∧
    ∀ f, k.state.scope.isOpen = true → k.state.scope.text = [] → k.state.constantUsed = false →
      k.state.scope.function = some f → (k.state.buffer.length : Int) < s.maxEntry →
      ∀ (d : Fin 10) x, readNumber? [Nat.digitChar d] = some x →
        Reached s ((k.press s (.digit d)).press s .backspace) ∧
        ((k.press s (.digit d)).press s .backspace).state =
          { k.state with justCommitted := false, scope.isStarted := false } ∧
        ((k.press s (.digit d)).press s .backspace).display.preview = scopeText s k.state f x := by
  have ha := h.sound.active hf
  refine ⟨fun k' h' hsame => ?_, fun f ho ht hu hfn hroom d x hx => ?_⟩
  · have hfailed : k.state.failed = k'.state.failed :=
      Value.flag.inj (hsame.get_eq (f := .failed) rfl)
    have hdone : k.state.done = k'.state.done := Value.flag.inj (hsame.get_eq (f := .done) rfl)
    have hbuffer : k.state.buffer = k'.state.buffer :=
      Value.text.inj (hsame.get_eq (f := .buffer) rfl)
    refine ⟨?_, fun hnumber => ?_⟩
    · rw [(h.coherent hf).entry hd, (h'.coherent (hfailed ▸ hf)).entry (hdone ▸ hd), hbuffer]
    · rw [← previewText?_eq_none_iff ha hd, ← ne_eq, Option.ne_none_iff_exists'] at hnumber
      obtain ⟨t, ht⟩ := hnumber
      rw [h.upToDate t ht, h'.upToDate t ((hsame.previewText?_eq s).symm.trans ht)]
  · obtain ⟨-, -, hc, -⟩ := ha.scope.of_isOpen ho
    obtain ⟨hstate, hpreview⟩ := digit_and_back h ⟨hf, hd, hc, hu⟩ ho ht hfn hroom hx
    exact ⟨(h.press _).press _, hstate, hpreview⟩

/-- a library whose sine is that of three degrees -/
def sineOfThree : TrigLibrary where
  sin _ := 0.052335956242943835
  cos x := x
  tan x := x
  arcsin x := x
  arccos x := x
  arctan x := x

/-- `2 × 3`, and the same with another digit that was taken back; and a scope that `3` was typed
into -/
theorem display_determined_product :
    let s : Settings := { lib := sineOfThree }
    let k := run s [.digit 2, .operator .multiply, .digit 3]
    let k' := run s [.digit 2, .operator .multiply, .digit 3, .digit 4, .backspace]
    let k₁ := run s [.function .sin]
    k'.display.entry = k.display.entry ∧ k'.display.preview = k.display.preview ∧
      ((k₁.press s (.digit 3)).press s .backspace).display.preview =
        scopeText s k₁.state .sin 3 := by
  intro s k k' k₁
  have hsame : k.state = k'.state := by decide +kernel
  obtain ⟨hentry, hpreview⟩ := (display_determined (s := s) (k := k) (reached_run _ _)
    (by decide +kernel) (by decide +kernel)).1 k' (reached_run _ _) (.of_eq hsame)
  obtain ⟨-, -, hleft⟩ := (display_determined (s := s) (k := k₁) (reached_run _ _)
    (by decide +kernel) (by decide +kernel)).2 .sin (by decide +kernel) (by decide +kernel)
    (by decide +kernel) (by decide +kernel) (by decide +kernel) 3 3 (by decide +kernel)
  exact ⟨hentry, hpreview (by decide +kernel), hleft⟩

/-- `sin`, and `sin 3` with the digit taken back: one state, and two previews -/
theorem preview_left_over :
    let s : Settings := { lib := sineOfThree }
    let k := run s [.function .sin]
    let k' := run s [.function .sin, .digit 3, .backspace]
    Reached s k ∧ Reached s k' ∧ k'.state = k.state ∧ k.state.failed = false ∧
      k.state.done = false ∧ k.display.preview = ['0'] ∧
      k'.display.preview = "0.052336".toList := by
  intro s k k'
  exact ⟨reached_run _ _, reached_run _ _, by decide +kernel, by decide +kernel,
    by decide +kernel, by decide +kernel, by decide +kernel⟩

end PocketCalc.Keypad
