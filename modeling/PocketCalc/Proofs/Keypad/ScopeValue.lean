import PocketCalc.Proofs.Keypad.Run
import PocketCalc.Proofs.Keypad.ScopeShown

/-!
# The value of a scope

The number that is taken of a scope is the factor times the function of the operand that is shown.
The factor is the number in front as it is shown, as long as the function was opened behind a number
or behind nothing.  Behind anything else, a lone minus sign for one, the factor is one where the
text says something else.

* `State.takesScope`       the keys that take the value of a scope;
* `took_handle`            they put it where an operand goes;
* `failed_closeScope`, `takeOperand_closeScope`   what is taken of a scope;
* `OpenedBehind`           what stood in front of a function when it was opened;
* `OpenedBehind.told`      the run lemma;
* `scope_value_shown`      the number taken of a scope, and when it is the one that is shown;
* `lone_sign_dropped`      a run on which it is not.
-/

namespace PocketCalc.Keypad
open Text

variable {s : Settings} {k : Keypad} {p₀ p : Text}

/-! ## What is taken of a scope -/

/-- the operand went to the right of the operator that waited, or else to the left -/
structure State.Took (st : State) (waited : Bool) (x : Float) : Prop where
  first : waited = false → st.first = x
  second : waited = true → st.second = x

/-- the keys that take the value of a scope: one that is typed does so where it cannot be typed in
the scope -/
def State.takesScope (st : State) : Key → Bool
  | .operator _ | .equals | .function _ => true
  | .digit _ | .point | .constant _ => st.scope.isClosed || st.constantUsed
  | .backspace | .clearEntry | .clearAll | .toggleSign => false

section
variable {k' : Keypad} {x : Float}

theorem took_pressOperator (op : Operator) (hd : k.state.done = false)
    (hf : (k.closeScope s).state.failed = false) (hb : (k.closeScope s).state.buffer ≠ [])
    (ht : (k.closeScope s).takeOperand = (k', some x)) :
    (k.pressOperator s op).state.Took k'.state.operatorSet x := by
  simp only [pressOperator]
  rw [if_neg (by simp [hf]), if_neg (by simp [hd]), if_neg (by simp [hb]), ht]
  refine ⟨fun hos => ?_, fun hos => ?_⟩
  all_goals simp only [hos, Bool.not_true, Bool.not_false, Bool.false_eq_true, if_false, if_true]
  · rw [state_awaitRight]
  · split
    · exact second_commit _
    · rw [state_awaitRight]
      exact second_commit _

theorem took_pressEquals (hd : k.state.done = false) (hf : (k.closeScope s).state.failed = false)
    (ht : (k.closeScope s).takeOperand = (k', some x)) :
    (k.pressEquals s).state.Took k'.state.operatorSet x := by
  simp only [pressEquals]
  rw [if_neg (by simp [hd]), if_neg (by simp [hf]), ht]
  refine ⟨fun hos => ?_, fun hos => ?_⟩
  all_goals simp only [hos, Bool.not_true, Bool.not_false, Bool.false_eq_true, if_false, if_true]
  · rfl
  · split <;> exact second_commit _

theorem took_append {w : Bool} (hd : k.state.done = false) (h : k.state.Took w x) (t : Text) :
    (k.append s t).state.Took w x := by
  simp only [append, hd, Bool.false_eq_true, if_false]
  split
  · exact h
  · exact ⟨h.first, h.second⟩

theorem took_openWithFactor {w : Bool} (h : k.state.Took w x) (f : Trig) :
    (k.openWithFactor s f).state.Took w x := by
  unfold openWithFactor
  split
  · exact h
  · exact ⟨h.first, h.second⟩

theorem took_readyForNumber (hready : (k.state.scope.isClosed || k.state.constantUsed) = true)
    (ha : k.state.Active) {w : Bool} (h : (k.pressOperator s .multiply).state.Took w x) :
    (k.readyForNumber s).state.Took w x ∧
      ((k.readyForNumber s).state.failed = false → (k.readyForNumber s).state.done = false) := by
  rw [readyForNumber, if_pos hready]
  refine ⟨⟨h.first, h.second⟩, fun hf => ?_⟩
  exact ((sound_pressOperator s .multiply ha).resolve_left (State.not_stopped hf)).idle.1

theorem took_pressDigit (d : Fin 10)
    (hready : (k.state.scope.isClosed || k.state.constantUsed) = true)
    (ha : k.state.Active) {w : Bool} (h : (k.pressOperator s .multiply).state.Took w x) :
    (k.pressDigit s d).state.Took w x := by
  obtain ⟨h, hd⟩ := took_readyForNumber hready ha h
  simp only [pressDigit]
  split
  · exact h
  · rename_i hf
    exact took_append (hd (by simpa using hf)) h _

theorem took_pressPoint (hready : (k.state.scope.isClosed || k.state.constantUsed) = true)
    (ha : k.state.Active) {w : Bool} (h : (k.pressOperator s .multiply).state.Took w x) :
    (k.pressPoint s).state.Took w x := by
  obtain ⟨h, hd⟩ := took_readyForNumber hready ha h
  simp only [pressPoint]
  split
  · exact h
  rename_i hf
  have hd := hd (by simpa using hf)
  simp only [hd, Bool.false_eq_true, if_false]
  split
  · exact h
  · exact took_append hd h _

theorem took_pressConstant (c : Constant)
    (hready : (k.state.scope.isClosed || k.state.constantUsed) = true)
    (ha : k.state.Active) {w : Bool} (h : (k.pressOperator s .multiply).state.Took w x) :
    (k.pressConstant s c).state.Took w x := by
  have hmultiply : (k.state.constantUsed || k.state.scope.isClosed || k.state.done) = true := by
    rw [Bool.or_comm k.state.constantUsed, hready, Bool.true_or]
  simp only [pressConstant]
  rw [if_pos hmultiply]
  rcases sound_pressOperator s .multiply ha with hstop | hw
  · rw [if_pos hstop.failed]
    exact h
  rw [if_neg hw.active.not_failed]
  split
  · exact h
  · rw [if_neg (by simp [hw.idle.2.1])]
    exact ⟨h.first, h.second⟩

theorem took_pressFunction (f : Trig) (ha : k.state.Active)
    (hsc : k.state.scope.isOpen = true ∨ k.state.scope.isClosed = true)
    (hd : k.state.done = false) (hf : (k.closeScope s).state.failed = false)
    (hb : (k.closeScope s).state.buffer ≠ [])
    (ht : (k.closeScope s).takeOperand = (k', some x)) :
    (k.pressFunction s f).state.Took k'.state.operatorSet x := by
  obtain ⟨ha₁, ho₁⟩ := (sound_closeScope s ha).resolve_left (State.not_stopped hf)
  simp only [pressFunction]
  cases hmultiply : k.state.constantUsed || k.state.scope.isClosed with
  | true =>
    have h := took_pressOperator .multiply hd hf hb ht
    rw [if_pos rfl]
    rcases sound_pressOperator s .multiply ha with hstop | hw
    · rw [if_pos hstop.failed]
      exact h
    · rw [if_neg hw.active.not_failed, if_neg (by simp [hw.idle.1]),
        if_neg (by simp [hw.idle.2.1])]
      exact took_openWithFactor h f
  | false =>
    have ho : k.state.scope.isOpen = true := by
      rw [(Bool.or_eq_false_iff.mp hmultiply).2] at hsc
      simpa using hsc
    simp only [ha.failed, hd, ho, hf, Bool.false_eq_true, if_false, if_true]
    -- the scope is closed first, and a closed scope is not closed again
    have hagain : (k.closeScope s).closeScope s = k.closeScope s :=
      closeScope_of_isOpen_eq_false ho₁
    have h := took_pressOperator (k := k.closeScope s) (s := s) .multiply (by simp [hd])
      (by rw [hagain]; exact hf) (by rw [hagain]; exact hb) (by rw [hagain]; exact ht)
    split
    · exact h
    · exact took_openWithFactor h f

/-- what a key takes of a scope goes where an operand goes -/
theorem took_handle {key : Key} (hkey : k.state.takesScope key = true) (ha : k.state.Active)
    (hsc : k.state.scope.isOpen = true ∨ k.state.scope.isClosed = true)
    (hd : k.state.done = false) (hf : (k.closeScope s).state.failed = false)
    (hb : (k.closeScope s).state.buffer ≠ [])
    (ht : (k.closeScope s).takeOperand = (k', some x)) :
    (k.handle s key).state.Took k'.state.operatorSet x := by
  have hmultiply := took_pressOperator .multiply hd hf hb ht
  cases key with
  | digit d => exact took_pressDigit d hkey ha hmultiply
  | point => exact took_pressPoint hkey ha hmultiply
  | operator op => exact took_pressOperator op hd hf hb ht
  | function f => exact took_pressFunction f ha hsc hd hf hb ht
  | constant c => exact took_pressConstant c hkey ha hmultiply
  | equals => exact took_pressEquals hd hf ht
  | backspace | clearEntry | clearAll | toggleSign => cases hkey

end

/-- closing a scope on the operand shown fails exactly where the value is no finite number -/
theorem failed_closeScope {f : Trig} {x : Float} (ha : k.state.Active) (h : k.state.Told s p₀)
    (hsc : k.state.scope.isOpen = true ∨ k.state.scope.isClosed = true)
    (hf : k.state.scope.function = some f) (hx : shownOperand? k.state.scope.text = some x) :
    (k.closeScope s).state.failed =
      (k.state.scope.isOpen && !(k.state.scope.valueOn s.lib f x).isFinite) := by
  cases ho : k.state.scope.isOpen with
  | false =>
    rw [closeScope_of_isOpen_eq_false ho]
    exact ha.failed
  | true =>
    obtain ⟨-, -, -, hset, -⟩ := ha.scope.of_isOpen ho
    have hoperand := (h.scope hsc).scopeOperand?_eq ho hx
    rw [Bool.true_and]
    rcases closeScope_cases (s := s) ho hset hf with
      ⟨hnone, -⟩ | ⟨y, e, hy, he, hclose⟩ | ⟨y, z, hy, hz, hclose⟩
    · rw [hoperand] at hnone
      cases hnone
    · rw [hoperand] at hy
      cases hy
      rw [hclose, isFinite_of_scopeValue_error he]
      rfl
    · rw [hoperand] at hy
      cases hy
      obtain ⟨rfl, hfinite⟩ := eq_of_scopeValue hz
      rw [hclose, hfinite]
      exact ha.failed

/-- what is taken of a scope, closed on the operand that is shown -/
theorem takeOperand_closeScope {f : Trig} {x : Float} (ha : k.state.Active)
    (h : k.state.Told s p₀)
    (hsc : k.state.scope.isOpen = true ∨ k.state.scope.isClosed = true)
    (hf : k.state.scope.function = some f) (hx : shownOperand? k.state.scope.text = some x)
    (hclosed : (k.closeScope s).state.failed = false) :
    (k.closeScope s).state.buffer ≠ [] ∧
      ∃ k', (k.closeScope s).takeOperand = (k', some (k.state.scope.valueOn s.lib f x)) ∧
        k'.state.operatorSet = k.state.operatorSet := by
  have hactive := ((sound_closeScope s ha).resolve_left (State.not_stopped hclosed)).1
  -- the scope is closed, on the value
  have hresult : (k.closeScope s).state.scope.isClosed = true ∧
      (k.closeScope s).state.scope.result = k.state.scope.valueOn s.lib f x := by
    cases ho : k.state.scope.isOpen with
    | false =>
      have hc : k.state.scope.isClosed = true := by simpa [ho] using hsc
      rw [closeScope_of_isOpen_eq_false ho]
      exact ⟨hc, (h.scope hsc).result hc f x hf hx⟩
    | true =>
      obtain ⟨-, -, -, hset, -⟩ := ha.scope.of_isOpen ho
      have hoperand := (h.scope hsc).scopeOperand?_eq ho hx
      rcases closeScope_cases (s := s) ho hset hf with
        ⟨-, hclose⟩ | ⟨y, e, -, -, hclose⟩ | ⟨y, z, hy, hz, hclose⟩
      · rw [hclose] at hclosed
        cases hclosed
      · rw [hclose] at hclosed
        cases hclosed
      · rw [hoperand] at hy
        cases hy
        rw [hclose]
        exact ⟨rfl, (eq_of_scopeValue hz).1⟩
  obtain ⟨b, sc, hframe⟩ := exists_state_closeScope hclosed
  refine ⟨?_, { k.closeScope s with state.scope.isClosed := false }, ?_, ?_⟩
  · obtain ⟨p, g, -, -, -, -, -, hb⟩ := hactive.scope.of_isClosed hresult.1
    rw [hb]
    simp
  · rw [takeOperand, hactive.scope.readNumber? (.inr hresult.1), hresult.1, ← hresult.2]
    rfl
  · show (k.closeScope s).state.operatorSet = k.state.operatorSet
    rw [hframe]

/-! ## What a function was opened behind -/

/-- `p₀` stood in front of the function that was opened last; where none was opened yet, nothing
did -/
inductive OpenedBehind (s : Settings) : Keypad → Text → Prop
  | fresh (history : History) (errors : ErrorLog) : OpenedBehind s (.fresh history errors) []
  /-- a function key that opens a scope, behind `p` -/
  | function {k : Keypad} {p₀ p : Text} (f : Trig) : OpenedBehind s k p₀ →
      (k.press s (.function f)).state.scope.isOpen = true →
      (k.press s (.function f)).state.buffer = p ++ f.name ++ ['('] →
      OpenedBehind s (k.press s (.function f)) p
  /-- any other key, or a function key that opens none -/
  | press {k : Keypad} {p₀ : Text} (key : Key) : OpenedBehind s k p₀ →
      (∀ f, key = .function f → (k.press s key).state.scope.isOpen = false) →
      OpenedBehind s (k.press s key) p₀

theorem OpenedBehind.reached (h : OpenedBehind s k p₀) : Reached s k := by
  induction h with
  | fresh history errors => exact .fresh history errors
  | function f _ _ _ ih => exact ih.press (.function f)
  | press key _ _ ih => exact ih.press key

/-- no error is shown before and behind a function key that opens a scope -/
theorem OpenedBehind.not_failed_of_opens {f : Trig} (h : OpenedBehind s k p₀)
    (ho : (k.press s (.function f)).state.scope.isOpen = true) :
    k.state.failed = false ∧ (k.press s (.function f)).state.failed = false := by
  constructor
  · cases hf : k.state.failed with
    | false => rfl
    | true =>
      rw [Keypad.press, if_pos hf, acknowledge, if_pos hf] at ho
      cases ho
  · rcases sound_press s (.function f) h.reached.sound with ha | hstop
    · exact ha.failed
    · exact absurd (hstop.isOpen.symm.trans ho) Bool.false_ne_true

/-- on every run the entry tells what the scope goes by -/
theorem OpenedBehind.told (h : OpenedBehind s k p₀) :
    Headed p₀ ∧ (k.state.failed = false → k.state.Told s p₀) := by
  induction h with
  | fresh => exact ⟨headed_nil, fun _ => .of_idle headed_nil headed_nil rfl rfl⟩
  | @function k p₀ p f hbehind ho hb ih =>
    obtain ⟨hf, hfailed⟩ := hbehind.not_failed_of_opens ho
    have hactive := hbehind.reached.sound.active hf
    rw [Keypad.press, if_neg hactive.not_failed, state_refreshPreview] at ho hb hfailed ⊢
    have htold := told_pressFunction_of_isOpen f hactive (ih.2 hf) hfailed ho hb
    exact ⟨htold.opened, fun _ => htold⟩
  | @press k p₀ key hbehind hkey ih =>
    refine ⟨ih.1, ?_⟩
    unfold Keypad.press at hkey ⊢
    split
    · rename_i hf
      rw [acknowledge, if_pos hf]
      exact fun _ => .of_idle headed_nil ih.1 rfl rfl
    · rename_i hf
      rw [if_neg hf, state_refreshPreview] at hkey
      rw [Bool.not_eq_true] at hf
      rw [state_refreshPreview]
      exact fun hf' => told_handle s key (hbehind.reached.sound.active hf) (ih.2 hf) hf' hkey

/-- a function that was just opened stands at the end of the entry -/
theorem exists_front_of_pressFunction {f : Trig} (h : OpenedBehind s k p₀)
    (ho : (k.press s (.function f)).state.scope.isOpen = true) :
    ∃ p, (k.press s (.function f)).state.buffer = p ++ f.name ++ ['('] := by
  obtain ⟨hf, hfailed⟩ := h.not_failed_of_opens ho
  have hactive := h.reached.sound.active hf
  rw [Keypad.press, if_neg hactive.not_failed, state_refreshPreview] at ho hfailed ⊢
  obtain ⟨k₁, -, ho₁, -, he | he⟩ := pressFunction_cases f hactive (h.told.2 hf).entry hfailed
  · exact absurd (ho₁.symm.trans ((congrArg (·.state.scope.isOpen) he).symm.trans ho))
      Bool.false_ne_true
  · exact ⟨k₁.state.buffer, congrArg (·.state.buffer) he⟩

theorem Reached.exists_openedBehind (h : Reached s k) : ∃ p₀, OpenedBehind s k p₀ := by
  induction h with
  | fresh history errors => exact ⟨[], .fresh history errors⟩
  | @press k key hreached ih =>
    obtain ⟨p₀, hbehind⟩ := ih
    by_cases hopens : ∃ f, key = .function f ∧ (k.press s key).state.scope.isOpen = true
    · obtain ⟨f, rfl, ho⟩ := hopens
      obtain ⟨p, hb⟩ := exists_front_of_pressFunction hbehind ho
      exact ⟨p, hbehind.function f ho hb⟩
    · refine ⟨p₀, hbehind.press key ?_⟩
      rintro f rfl
      simpa using fun ho => hopens ⟨f, rfl, ho⟩

/-! ## The value of a scope -/

/-- what stands in front of the function of a scope is plain -/
theorem ScopeShape.plain_front {b : Text} {sc : Scope} {f : Trig} (h : ScopeShape b sc)
    (hsc : sc.isOpen = true ∨ sc.isClosed = true) (hf : sc.function = some f)
    (hb : b = p ++ f.name ++ '(' :: sc.text ++ (if sc.isClosed then [')'] else [])) : Plain p := by
  rcases hsc with ho | hc
  · obtain ⟨q, g, hc, -, hg, hq, -, hb'⟩ := h.of_isOpen ho
    rw [hf] at hg
    cases hg
    rw [hc, hb'] at hb
    have heq : q ++ f.name ++ '(' :: sc.text = p ++ f.name ++ '(' :: sc.text := by simpa using hb
    exact List.append_cancel_right (List.append_cancel_right heq) ▸ hq
  · obtain ⟨q, g, -, -, hg, hq, -, hb'⟩ := h.of_isClosed hc
    rw [hf] at hg
    cases hg
    rw [hc, hb'] at hb
    have heq := List.append_cancel_right (List.append_cancel_right hb)
    exact List.append_cancel_right heq ▸ hq

/-- **A scope goes by what it shows if its function was opened behind a number or behind nothing.**
On every run, while a scope is open or just closed, the entry is the text in front of the function,
the function and what is typed in the scope.  The factor of the scope is the number that stood in
front when the function was opened, with the sign changed where the text has it changed.  It is the
number in front as it is shown exactly where a number stood there, or nothing did.  On the operand
that is shown, closing the scope fails exactly where the value is no finite number; else every key
that takes the value of the scope takes the factor times the function of that operand. -/
theorem scope_value_shown (h : Reached s k) (hf : k.state.failed = false)
    (hsc : k.state.scope.isOpen = true ∨ k.state.scope.isClosed = true) :
    (∃ p₀, OpenedBehind s k p₀) ∧ ∀ p₀, OpenedBehind s k p₀ →
      ∃ p f, k.state.scope.function = some f ∧ Plain p ∧
        k.state.buffer = p ++ f.name ++ '(' :: k.state.scope.text ++
          (if k.state.scope.isClosed then [')'] else []) ∧
        InFront p₀ p k.state.scope.factor ∧
        (shownFactor? p = some (k.state.scope.factor.getD 1) ↔
          p₀ = [] ∨ (readNumber? p₀).isSome = true) ∧
        ∀ x, shownOperand? k.state.scope.text = some x →
          (k.closeScope s).state.failed =
            (k.state.scope.isOpen && !(k.state.scope.valueOn s.lib f x).isFinite) ∧
          ((k.closeScope s).state.failed = false → ∀ key, k.state.takesScope key = true →
            (k.press s key).state.Took k.state.operatorSet
              (k.state.scope.valueOn s.lib f x)) := by
  refine ⟨h.exists_openedBehind, ?_⟩
  intro p₀ hbehind
  have hactive := h.sound.active hf
  have htold := hbehind.told.2 hf
  obtain ⟨p, f, hfn, hfront, hb⟩ := (htold.scope hsc).front
  refine ⟨p, f, hfn, hactive.scope.plain_front hsc hfn hb, hb, hfront,
    hfront.shownFactor?_iff htold.opened, ?_⟩
  intro x hx
  refine ⟨failed_closeScope hactive htold hsc hfn hx, ?_⟩
  intro hclosed key hkey
  obtain ⟨hne, k', htake, hos⟩ := takeOperand_closeScope hactive htold hsc hfn hx hclosed
  have hd : k.state.done = false := by
    cases hd : k.state.done with
    | false => rfl
    | true =>
      obtain ⟨-, ho, hc⟩ := hactive.done hd
      rw [ho, hc] at hsc
      rcases hsc with hsc | hsc <;> cases hsc
  rw [Keypad.press, if_neg hactive.not_failed, state_refreshPreview, ← hos]
  exact took_handle hkey hactive hsc hd hclosed hne htake

/-- `2 sin 30`, changed in sign: `=` gives twice the sine of what is shown in `2sin(-30` -/
theorem scope_value_shown_sine :
    let s : Settings := { lib := ⟨id, id, id, id, id, id⟩ }
    let k := run s [.digit 2, .function .sin, .digit 3, .digit 0, .toggleSign]
    Reached s k ∧ k.state.failed = false ∧ k.state.scope.isOpen = true ∧ OpenedBehind s k ['2'] ∧
      k.state.buffer = "2sin(-30".toList ∧
      ∃ p f x, k.state.buffer = p ++ f.name ++ '(' :: k.state.scope.text ∧
        shownFactor? p = some (k.state.scope.factor.getD 1) ∧
        shownOperand? k.state.scope.text = some x ∧
        (k.press s .equals).state.first = k.state.scope.valueOn s.lib f x := by
  intro s k
  have hfront : OpenedBehind s ((fresh .initial .initial).press s (.digit 2)) [] :=
    (OpenedBehind.fresh .initial .initial).press (.digit 2) nofun
  have hopened : OpenedBehind s
      (((fresh .initial .initial).press s (.digit 2)).press s (.function .sin)) ['2'] :=
    hfront.function .sin (by decide +kernel) (by decide +kernel)
  have hbehind : OpenedBehind s k ['2'] := by
    simp only [k, run, List.foldl_cons, List.foldl_nil]
    exact ((hopened.press (.digit 3) nofun).press (.digit 0) nofun).press .toggleSign nofun
  have hf : k.state.failed = false := by decide +kernel
  have ho : k.state.scope.isOpen = true := by decide +kernel
  have hc : k.state.scope.isClosed = false := by decide +kernel
  obtain ⟨-, hall⟩ := scope_value_shown hbehind.reached hf (.inl ho)
  obtain ⟨p, f, -, -, hb, -, hfactor, hvalue⟩ := hall ['2'] hbehind
  obtain ⟨x, hx⟩ : ∃ x, shownOperand? k.state.scope.text = some x :=
    Option.isSome_iff_exists.mp (by decide +kernel)
  rw [hc] at hb
  refine ⟨hbehind.reached, hf, ho, hbehind, by decide +kernel, p, f, x,
    hb.trans (List.append_nil _), hfactor.mpr (.inr (by decide +kernel)), hx, ?_⟩
  exact ((hvalue x hx).2 (by decide +kernel) .equals rfl).first (by decide +kernel)

/-- `5 ±`, the digit taken back, and `sin 30`: the entry is `-sin(30`, and the sign counts for
nothing. -/
theorem lone_sign_dropped :
    let s : Settings := { lib := ⟨id, id, id, id, id, id⟩ }
    let k := run s [.digit 5, .toggleSign, .backspace, .function .sin, .digit 3, .digit 0]
    Reached s k ∧ k.state.failed = false ∧ k.state.scope.isOpen = true ∧
      k.state.buffer = ['-'] ++ Trig.sin.name ++ '(' :: k.state.scope.text ∧
      k.state.scope.text = "30".toList ∧
      shownFactor? ['-'] = some (-1) ∧ k.state.scope.factor.getD 1 = 1 ∧ (1 : Float) ≠ -1 ∧
      (k.press s .equals).state.result = Trig.sin.applyDegrees s.lib 30 none ∧
      Trig.sin.applyDegrees s.lib 30 none ≠ -1 * Trig.sin.applyDegrees s.lib 30 none := by
  intro s k
  exact ⟨reached_run _ _, by decide +kernel, by decide +kernel, by decide +kernel,
    by decide +kernel, rfl, by decide +kernel, by decide +kernel, by decide +kernel,
    by decide +kernel⟩

end PocketCalc.Keypad
