import PocketCalc.Proofs.Keypad.Run

/-!
# The preview and the `=` key

The preview says what `=` would show.  It is brought up to date behind every key, by a computation
of its own, so there are two things to show: that on every run it holds what that computation gives
(`Reached.upToDate`), and that `=` comes to the same.

* `previewText?`              what the preview is brought up to, if to anything;
* `previewText?_eq_none_iff`  and where it is not;
* `State.awaitsConstant`      an open scope without a number, but with a constant pending;
* `constantText`              what `=` gives there;
* `preview_press_equals`      what `=` makes of the preview;
* `preview_press_equals_iff`  where that is the preview itself.

An open scope takes a pending constant as its operand when `=` closes it.  The preview does not look
at the constant: it stays what it was, and with `sin(-π` on the entry it can be wrong.
-/

namespace PocketCalc.Keypad
open Text

/-! ## What the preview is brought up to -/

/-- what `=` gives for an open scope, applied to an operand -/
def scopeText (s : Settings) (st : State) (f : Trig) (x : Float) : Text :=
  match scopeValue s st.scope f x with
  | .ok y => resultText st y
  | .error e => e.message.toList

/-- what the preview is brought up to; `none` where it is left as it is -/
def previewText? (s : Settings) (st : State) : Option Text :=
  if st.failed || st.done then none
  else
    match readNumber? st.buffer with
    | some x => some (resultText st x)
    | none =>
      if st.scope.isOpen && st.scope.isSet then
        match readNumber? st.scope.text, st.scope.function with
        | some x, some f => some (scopeText s st f x)
        | _, _ => none
      else if st.scope.isClosed then some (resultText st st.scope.result)
      else if st.constantUsed then some (resultText st st.constant)
      else some (Format.result (if st.operatorSet then st.first else st.result))

/-- an open scope that a pending constant will be the operand of -/
def State.awaitsConstant (st : State) : Bool :=
  st.scope.isOpen && (readNumber? st.scope.text).isNone && st.constantUsed

/-- what `=` gives for an open scope, applied to the constant -/
def constantText (s : Settings) (st : State) : Text :=
  match st.scope.function with
  | some f => scopeText s st f st.constant
  | none => []

variable {s : Settings} {k : Keypad}

theorem refreshPreview_eq (s : Settings) (k : Keypad) :
    k.refreshPreview s = (previewText? s k.state).elim k k.showPreview := by
  simp only [refreshPreview, previewText?, scopeText]
  split
  · rfl
  cases readNumber? k.state.buffer with
  | some x => rfl
  | none =>
    simp only
    split
    · cases readNumber? k.state.scope.text with
      | none => rfl
      | some x =>
        cases hf : k.state.scope.function with
        | none => rfl
        | some f =>
          simp only
          cases scopeValue s k.state.scope f x <;> rfl
    · repeat' split
      all_goals rfl

/-- the preview is left as it is just where a scope is open without a number -/
theorem previewText?_eq_none_iff {st : State} (ha : st.Active) (hd : st.done = false) :
    previewText? s st = none ↔ st.scope.isOpen = true ∧ readNumber? st.scope.text = none := by
  have hlive : ¬ (st.failed || st.done) = true := by simp [ha.failed, hd]
  unfold previewText?
  rw [if_neg hlive]
  cases ho : st.scope.isOpen with
  | true =>
    obtain ⟨p, f, -, hset, hfn, -⟩ := ha.scope.of_isOpen ho
    simp only [ha.scope.readNumber? (.inl ho), hset, hfn, Bool.and_self, if_true, true_and]
    cases readNumber? st.scope.text with
    | none => exact iff_of_true rfl rfl
    | some x => exact iff_of_false nofun nofun
  | false =>
    refine iff_of_false ?_ (fun hopen => absurd hopen.1 Bool.false_ne_true)
    cases readNumber? st.buffer with
    | some x => exact nofun
    | none =>
      simp only [Bool.false_and, Bool.false_eq_true, if_false]
      repeat' split
      all_goals exact nofun

/-! ## On every run the preview is up to date -/

/-- the preview says what it would be brought up to -/
def UpToDate (s : Settings) (k : Keypad) : Prop :=
  ∀ t, previewText? s k.state = some t → k.display.preview = t

theorem upToDate_refreshPreview (s : Settings) (k : Keypad) : (k.refreshPreview s).UpToDate s := by
  intro t ht
  rw [state_refreshPreview] at ht
  rw [refreshPreview_eq, ht]
  rfl

theorem upToDate_startOver (s : Settings) (k : Keypad) : k.startOver.UpToDate s := by
  have hzero : Format.result 0 = ['0'] := by decide +kernel
  intro t ht
  have hnone : readNumber? [] = none := rfl
  have ht' : some (Format.result 0) = some t := by
    rw [← ht]
    simp [previewText?, startOver, hnone]
  rw [← Option.some.inj ht', hzero]
  rfl

theorem Reached.upToDate (h : Reached s k) : k.UpToDate s := by
  induction h with
  | fresh history errors => exact upToDate_startOver s (.fresh history errors)
  | @press k key _ _ =>
    unfold Keypad.press
    split
    · rename_i hf
      rw [acknowledge, if_pos hf]
      exact upToDate_startOver s k
    · exact upToDate_refreshPreview s _

/-! ## The `=` key -/

theorem pressEquals_closeScope (h : k.state.Active) (hd : k.state.done = false) :
    (k.closeScope s).pressEquals s = k.pressEquals s := by
  cases ho : k.state.scope.isOpen with
  | false => rw [closeScope_of_isOpen_eq_false ho]
  | true =>
    obtain ⟨p, f, -, hset, hf, -⟩ := h.scope.of_isOpen ho
    have hclosed : (k.closeScope s).state.scope.isOpen = false ∧
        (k.closeScope s).state.done = false := by
      rcases closeScope_cases (s := s) ho hset hf with
        ⟨-, he⟩ | ⟨x, e, -, -, he⟩ | ⟨x, y, -, -, he⟩
      all_goals
        rw [he]
        exact ⟨rfl, hd⟩
    rw [pressEquals, pressEquals, closeScope_of_isOpen_eq_false hclosed.1, hclosed.2, hd]
    rfl

theorem takeOperand_frame {k' : Keypad} {x : Float} (hx : k.takeOperand = (k', some x)) :
    k'.state.first = k.state.first ∧ k'.state.operator = k.state.operator ∧
      k'.state.operatorSet = k.state.operatorSet ∧ k'.state.failed = k.state.failed := by
  rcases takeOperand_cases k with ⟨y, -, he⟩ | ⟨-, -, he⟩ | ⟨-, -, -, he⟩ | ⟨-, -, -, he⟩
  all_goals
    rw [he] at hx
    cases hx
  all_goals exact ⟨rfl, rfl, rfl, rfl⟩

/-- with an operand taken, `=` shows the result of the pending operation, or its error -/
theorem preview_pressEquals_of_takeOperand {k' : Keypad} {x : Float} (h : k.state.Active)
    (hd : k.state.done = false) (ho : k.state.scope.isOpen = false)
    (hx : k.takeOperand = (k', some x)) :
    (k.pressEquals s).display.preview = resultText k.state x := by
  obtain ⟨hfirst, hop, hset, hf⟩ := takeOperand_frame hx
  rw [pressEquals, if_neg (by simp [hd])]
  simp only [closeScope_of_isOpen_eq_false ho, hx]
  rw [if_neg h.not_failed]
  by_cases hos : k'.state.operatorSet = true
  · have hos' : k.state.operatorSet = true := hset.symm.trans hos
    obtain ⟨op, hsome⟩ := Option.isSome_iff_exists.mp (h.operator.symm.trans hos')
    rw [if_neg (by simp [hos]), resultText, if_pos hos', hsome, ← hfirst]
    rcases commit_cases (k := { k' with state.second := x }) (hop.trans hsome) with
      ⟨f, hy, he⟩ | ⟨y, hy, he⟩
    · rw [he, if_pos (by rfl)]
      simp only at hy
      simp only [hy]
      rfl
    · rw [he, if_neg (by simp [hf, h.failed])]
      simp only at hy
      simp only [hy]
      rfl
  · rw [if_pos (by simpa using hos), resultText, if_neg (by rw [← hset]; exact hos)]
    rfl

/-- an open scope is closed first, and what `=` shows is the result with the value of the scope -/
theorem preview_pressEquals_of_isOpen {f : Trig} {x : Float} (h : k.state.Active)
    (hd : k.state.done = false) (ho : k.state.scope.isOpen = true)
    (hf : k.state.scope.function = some f) (hx : scopeOperand? k.state = some x) :
    (k.pressEquals s).display.preview = scopeText s k.state f x := by
  obtain ⟨-, -, -, hset, -⟩ := h.scope.of_isOpen ho
  rw [← pressEquals_closeScope h hd]
  rcases closeScope_cases (s := s) ho hset hf with
    ⟨hnone, -⟩ | ⟨x', e, hx', hy, he⟩ | ⟨x', y, hx', hy, he⟩
  · rw [hx] at hnone
    cases hnone
  · rw [hx] at hx'
    cases hx'
    rw [he, scopeText, hy, pressEquals, if_neg (by simp [fail, hd]),
      closeScope_of_isOpen_eq_false (by rfl)]
    rfl
  · rw [hx] at hx'
    cases hx'
    rw [scopeText, hy]
    rcases sound_closeScope s h with hstop | ⟨hactive, hclosed⟩
    · have hfailed := hstop.failed
      rw [he] at hfailed
      exact absurd hfailed h.not_failed
    rw [he] at hactive hclosed ⊢
    generalize hk' : markClosed _ = k' at hactive hclosed ⊢
    have hc : k'.state.scope.isClosed = true := by rw [← hk']; rfl
    have htake : k'.takeOperand = ({ k' with state.scope.isClosed := false }, some y) := by
      have hresult : k'.state.scope.result = y := by rw [← hk']; rfl
      simp only [takeOperand, hactive.scope.readNumber? (.inr hc), hc, if_true, hresult]
    rw [preview_pressEquals_of_takeOperand hactive (by rw [← hk']; exact hd) hclosed htake, ← hk']
    rfl

/-- an open scope without an operand is an error of the entry, and the preview stays -/
theorem preview_pressEquals_of_scopeOperand?_eq_none {f : Trig} (h : k.state.Active)
    (hd : k.state.done = false) (ho : k.state.scope.isOpen = true)
    (hf : k.state.scope.function = some f) (hx : scopeOperand? k.state = none) :
    (k.pressEquals s).display.preview = k.display.preview := by
  obtain ⟨-, -, -, hset, -⟩ := h.scope.of_isOpen ho
  rw [← pressEquals_closeScope h hd]
  rcases closeScope_cases (s := s) ho hset hf with ⟨-, he⟩ | ⟨x, e, hx', -⟩ | ⟨x, y, hx', -⟩
  · rw [he, pressEquals, if_neg (by simp [fail, hd]), closeScope_of_isOpen_eq_false (by rfl)]
    rfl
  · rw [hx] at hx'
    cases hx'
  · rw [hx] at hx'
    cases hx'

/-- The `=` key leaves the preview as it is where that is up to date and no scope awaits a
constant. -/
theorem preview_pressEquals (h : k.state.Active) (hd : k.state.done = false)
    (hup : k.UpToDate s) :
    (k.pressEquals s).display.preview =
      if k.state.awaitsConstant then constantText s k.state else k.display.preview := by
  cases ho : k.state.scope.isOpen with
  | true =>
    obtain ⟨p, f, -, hset, hf, -⟩ := h.scope.of_isOpen ho
    have hb := h.scope.readNumber? (.inl ho)
    cases ht : readNumber? k.state.scope.text with
    | some x =>
      rw [if_neg (by simp [State.awaitsConstant, ht]),
        preview_pressEquals_of_isOpen h hd ho hf (x := x) (by rw [scopeOperand?, ht])]
      symm
      apply hup
      simp [previewText?, h.failed, hd, hb, ho, hset, ht, hf]
    | none =>
      cases hu : k.state.constantUsed with
      | true =>
        rw [if_pos (by simp [State.awaitsConstant, ho, ht, hu]), constantText, hf]
        exact preview_pressEquals_of_isOpen h hd ho hf (by simp [scopeOperand?, ht, hu])
      | false =>
        rw [if_neg (by simp [State.awaitsConstant, hu])]
        have hx : scopeOperand? k.state = none := by simp [scopeOperand?, ht, hu]
        exact preview_pressEquals_of_scopeOperand?_eq_none h hd ho hf hx
  | false =>
    rw [if_neg (by simp [State.awaitsConstant, ho])]
    rcases takeOperand_cases k with
      ⟨x, hx, he⟩ | ⟨hb, hc, he⟩ | ⟨hb, hc, hu, he⟩ | ⟨-, -, -, he⟩
    · rw [preview_pressEquals_of_takeOperand h hd ho he]
      symm
      apply hup
      simp [previewText?, h.failed, hd, hx]
    · rw [preview_pressEquals_of_takeOperand h hd ho he]
      symm
      apply hup
      simp [previewText?, h.failed, hd, hb, ho, hc]
    · rw [preview_pressEquals_of_takeOperand h hd ho he]
      symm
      apply hup
      simp [previewText?, h.failed, hd, hb, ho, hc, hu]
    · rw [pressEquals, if_neg (by simp [hd])]
      simp only [closeScope_of_isOpen_eq_false ho, he]
      rw [if_neg h.not_failed]
      rfl

/-- On every run `=` shows what the preview said before, unless an open scope awaits a constant:
there it shows what the function makes of the constant, whatever the preview said. -/
theorem preview_press_equals (h : Reached s k) (hf : k.state.failed = false)
    (hd : k.state.done = false) :
    (k.press s .equals).display.preview =
      if k.state.awaitsConstant then constantText s k.state else k.display.preview := by
  have hactive := h.sound.active hf
  rw [press, if_neg hactive.not_failed, ← preview_pressEquals hactive hd h.upToDate, handle]
  have hstays : previewText? s (k.pressEquals s).state = none := by
    rcases sound_pressEquals s hactive with hstop | ⟨-, hdone⟩
    · simp [previewText?, hstop.failed]
    · simp [previewText?, hdone]
  rw [refreshPreview_eq, hstays]
  rfl

/-- **Where the preview is what `=` shows**: on every run, exactly where no open scope awaits a
constant or the preview happens to say what the function makes of it. -/
theorem preview_press_equals_iff (h : Reached s k) (hf : k.state.failed = false)
    (hd : k.state.done = false) :
    (k.press s .equals).display.preview = k.display.preview ↔
      (k.state.awaitsConstant = true → k.display.preview = constantText s k.state) := by
  rw [preview_press_equals h hf hd]
  split
  · rename_i hc
    exact ⟨fun heq _ => heq.symm, fun himp => (himp hc).symm⟩
  · rename_i hc
    exact ⟨fun _ hc' => absurd hc' hc, fun _ => rfl⟩

/-- `5 + 3 =` -/
theorem preview_press_equals_sum :
    let k := run {} [.digit 5, .operator .add, .digit 3]
    k.display.preview = ['8'] ∧ (k.press {} .equals).display.preview = k.display.preview := by
  intro k
  refine ⟨by decide +kernel, ?_⟩
  rw [preview_press_equals_iff (reached_run _ _) (by decide +kernel) (by decide +kernel)]
  intro hc
  exact absurd hc (by decide +kernel)

/-- a library whose sine is `sin π°` or `-sin π°` -/
def sineOfPi : TrigLibrary where
  sin x := if x < 0 then -0.05480366514878953 else 0.05480366514878953
  cos x := x
  tan x := x
  arcsin x := x
  arccos x := x
  arctan x := x

/-- `sin π`, its parenthesis taken back, and the sign changed: the preview still is that of `sin(π`,
and `=` gives `sin(-π)`. -/
theorem stale_preview :
    let s : Settings := { lib := sineOfPi }
    let k := run s [.function .sin, .constant .pi, .backspace, .toggleSign]
    Reached s k ∧ k.state.failed = false ∧ k.state.done = false ∧
      (k.press s .equals).state.done = true ∧ k.display.preview = "0.054804".toList ∧
      (k.press s .equals).display.preview = "-0.054804".toList := by
  intro s k
  exact ⟨reached_run _ _, by decide +kernel, by decide +kernel, by decide +kernel,
    by decide +kernel, by decide +kernel⟩

end PocketCalc.Keypad
