import PocketCalc.Proofs.Keypad.Factor
import PocketCalc.Proofs.Keypad.Sound

/-!
# What is shown of a scope

An entry such as `2sin(-30` is kept twice: as a text, and as a factor, a function and an operand.
Each key changes both, and here it is shown key by key that they go together.

* `Scope.valueOn`          the number that a scope stands for on an operand;
* `State.ScopeShown`       what is shown of a scope is what it goes by;
* `State.Told`             an entry and what stood in front of its function when that was opened;
* `told_closeScope`, `told_append`, ...   what each transition keeps of it;
* `pressFunction_cases`    what a function key can come to;
* `told_handle`            what each key keeps of it.
-/

namespace PocketCalc.Keypad
open Text

variable {p₀ p : Text}

/-! ## The value -/

/-- the number that a scope stands for on the operand `x` -/
def Scope.valueOn (lib : TrigLibrary) (scope : Scope) (f : Trig) (x : Float) : Float :=
  scope.factor.getD 1 * f.applyDegrees lib x none

theorem applyDegrees_factor (lib : TrigLibrary) (scope : Scope) (f : Trig) (x : Float) :
    f.applyDegrees lib x scope.factor = scope.valueOn lib f x := by
  unfold Scope.valueOn
  cases scope.factor with
  | none => exact (float_one_mul _).symm
  | some v => exact Trig.applyDegrees_some lib f x v

/-- closing a scope comes to its value, where that is a finite number -/
theorem scopeValue_toOption (s : Settings) (scope : Scope) (f : Trig) (x : Float) :
    (scopeValue s scope f x).toOption =
      if (scope.valueOn s.lib f x).isFinite then some (scope.valueOn s.lib f x) else none := by
  rw [scopeValue, Trig.compute, applyDegrees_factor, check_function, isFinite_eq]
  generalize scope.valueOn s.lib f x = y
  cases y.isNaN <;> cases y.isInf <;> rfl

theorem eq_of_scopeValue {s : Settings} {scope : Scope} {f : Trig} {x y : Float}
    (h : scopeValue s scope f x = .ok y) :
    y = scope.valueOn s.lib f x ∧ y.isFinite = true := by
  have hvalue := scopeValue_toOption s scope f x
  rw [h] at hvalue
  split at hvalue
  · rename_i hfinite
    cases hvalue
    exact ⟨rfl, hfinite⟩
  · cases hvalue

theorem isFinite_of_scopeValue_error {s : Settings} {scope : Scope} {f : Trig} {x : Float}
    {e : Fault} (h : scopeValue s scope f x = .error e) :
    (scope.valueOn s.lib f x).isFinite = false := by
  have hvalue := scopeValue_toOption s scope f x
  rw [h] at hvalue
  split at hvalue
  · cases hvalue
  · rename_i hfinite
    simpa using hfinite

/-! ## What is shown of a scope -/

/-- what is shown of an open or closed scope is what it goes by -/
structure State.ScopeShown (s : Settings) (p₀ : Text) (st : State) : Prop where
  front : ∃ p f, st.scope.function = some f ∧ InFront p₀ p st.scope.factor ∧
    st.buffer = p ++ f.name ++ '(' :: st.scope.text ++ (if st.scope.isClosed then [')'] else [])
  text : Headed st.scope.text
  /-- no constant, or one at the end, pending until the scope is closed -/
  operand : NoSymbol st.scope.text ∨ ∃ m c, st.scope.text = m ++ [Constant.symbol c] ∧ NoSymbol m ∧
    (st.scope.isOpen = true → st.constantUsed = true) ∧
    ∀ v, shownFactor? m = some v → st.constant = c.value * v
  result : st.scope.isClosed = true → ∀ f x, st.scope.function = some f →
    shownOperand? st.scope.text = some x → st.scope.result = st.scope.valueOn s.lib f x

/-- an entry that tells what the scope goes by; `p₀` stood in front when the function was opened -/
structure State.Told (s : Settings) (p₀ : Text) (st : State) : Prop where
  entry : Headed st.buffer
  opened : Headed p₀
  scope : st.scope.isOpen = true ∨ st.scope.isClosed = true → st.ScopeShown s p₀

variable {s : Settings} {k : Keypad}

theorem State.Told.of_idle {st : State} (hb : Headed st.buffer) (h₀ : Headed p₀)
    (ho : st.scope.isOpen = false) (hc : st.scope.isClosed = false) : st.Told s p₀ := by
  refine ⟨hb, h₀, ?_⟩
  rintro (ho' | hc')
  · rw [ho] at ho'
    cases ho'
  · rw [hc] at hc'
    cases hc'

theorem State.ScopeShown.front_of_isOpen {st : State} (h : st.ScopeShown s p₀)
    (hc : st.scope.isClosed = false) :
    ∃ p f, st.scope.function = some f ∧ InFront p₀ p st.scope.factor ∧
      st.buffer = p ++ f.name ++ '(' :: st.scope.text := by
  obtain ⟨p, f, hf, hfront, hb⟩ := h.front
  rw [hc] at hb
  exact ⟨p, f, hf, hfront, hb.trans (List.append_nil _)⟩

/-- nothing is said of the value of a scope that is not closed -/
theorem State.ScopeShown.of_isOpen {st : State} {f : Trig} (hc : st.scope.isClosed = false)
    (hf : st.scope.function = some f) (hfront : InFront p₀ p st.scope.factor)
    (hb : st.buffer = p ++ f.name ++ '(' :: st.scope.text) (ht : Headed st.scope.text)
    (hoperand : NoSymbol st.scope.text ∨ ∃ m c, st.scope.text = m ++ [Constant.symbol c] ∧
      NoSymbol m ∧ (st.scope.isOpen = true → st.constantUsed = true) ∧
      ∀ v, shownFactor? m = some v → st.constant = c.value * v) : st.ScopeShown s p₀ := by
  refine ⟨⟨p, f, hf, hfront, ?_⟩, ht, hoperand, ?_⟩
  · rw [hc, hb]
    exact (List.append_nil _).symm
  · intro hc'
    exact absurd (hc.symm.trans hc') Bool.false_ne_true

theorem State.Awaiting.told {st : State} {op : Operator} (hw : st.Awaiting op) (h₀ : Headed p₀) :
    st.Told s p₀ := by
  refine .of_idle ?_ h₀ hw.idle.2.1 hw.idle.2.2
  rw [hw.buffer]
  exact headed_nil

/-- an open scope is applied to the operand that is shown in it -/
theorem State.ScopeShown.scopeOperand?_eq {st : State} {x : Float} (h : st.ScopeShown s p₀)
    (ho : st.scope.isOpen = true) (hx : shownOperand? st.scope.text = some x) :
    scopeOperand? st = some x := by
  unfold scopeOperand?
  rcases h.operand with hno | ⟨m, c, htext, -, hu, hconstant⟩
  · rw [← shownOperand?_of_noSymbol hno, hx]
  · have hends : endsInConstant st.scope.text = true := by
      rw [htext]
      exact (endsInConstant_append m (List.cons_ne_nil _ _)).trans c.isSymbol_symbol
    rw [htext, shownOperand?_append_symbol] at hx
    obtain ⟨v, hv, rfl⟩ := Option.map_eq_some_iff.mp hx
    rw [readNumber?_of_endsInConstant hends, hu ho, hconstant v hv]
    rfl

/-! ## Transitions -/

theorem told_closeScope (ha : k.state.Active) (h : k.state.Told s p₀)
    (hf : (k.closeScope s).state.failed = false) : (k.closeScope s).state.Told s p₀ := by
  cases ho : k.state.scope.isOpen with
  | false =>
    rw [closeScope_of_isOpen_eq_false ho]
    exact h
  | true =>
    obtain ⟨-, f, hc, hset, hfn, -⟩ := ha.scope.of_isOpen ho
    have hsc := h.scope (.inl ho)
    rcases closeScope_cases (s := s) ho hset hfn with
      ⟨-, he⟩ | ⟨x, e, -, -, he⟩ | ⟨x, y, hx, hy, he⟩
    · rw [he] at hf
      cases hf
    · rw [he] at hf
      cases hf
    rw [he]
    refine ⟨headed_append h.entry (bare_cons (by decide) []), h.opened, fun _ => ?_⟩
    refine ⟨?_, hsc.text, ?_, ?_⟩
    · obtain ⟨p, g, hg, hfront, hb⟩ := hsc.front
      refine ⟨p, g, hg, hfront, ?_⟩
      show k.state.buffer ++ [')'] = p ++ g.name ++ '(' :: k.state.scope.text ++ [')']
      rw [hb, hc]
      simp
    · refine hsc.operand.imp_right ?_
      rintro ⟨m, c, htext, hm, -, hconstant⟩
      exact ⟨m, c, htext, hm, nofun, hconstant⟩
    · intro _ g x' hg hx'
      rw [hsc.scopeOperand?_eq ho hx'] at hx
      cases hx
      have hfg : f = g := Option.some.inj (hfn.symm.trans hg)
      rw [← hfg]
      exact (eq_of_scopeValue hy).1

theorem told_pressOperator (op : Operator) (ha : k.state.Active) (h : k.state.Told s p₀)
    (hf : (k.pressOperator s op).state.failed = false) :
    (k.pressOperator s op).state.Told s p₀ := by
  have hw := (sound_pressOperator s op ha).resolve_left (State.not_stopped hf)
  exact hw.told h.opened

/-! ## Typing -/

/-- a result on display gives way to an empty entry -/
theorem told_started {k₁ : Keypad} (hk₁ : (if k.state.done then k.startOver else k) = k₁)
    (h : k.state.Told s p₀) (hc : k.state.scope.isClosed = false)
    (hu : k.state.constantUsed = false) :
    k₁.state.Told s p₀ ∧ k₁.state.scope.isClosed = false ∧ k₁.state.constantUsed = false := by
  subst hk₁
  split
  · exact ⟨.of_idle headed_nil h.opened rfl rfl, rfl, rfl⟩
  · exact ⟨h, hc, hu⟩

/-- where no constant is pending, none stands in the open scope -/
theorem State.ScopeShown.noSymbol {st : State} (h : st.ScopeShown s p₀)
    (ho : st.scope.isOpen = true) (hu : st.constantUsed = false) : NoSymbol st.scope.text := by
  rcases h.operand with hno | ⟨-, -, -, -, hpending, -⟩
  · exact hno
  · exact absurd (hu.symm.trans (hpending ho)) Bool.false_ne_true

theorem told_append (h : k.state.Told s p₀) (hc : k.state.scope.isClosed = false)
    (hu : k.state.constantUsed = false) {t : Text} (ht : Bare t) (hno : NoSymbol t) :
    (k.append s t).state.Told s p₀ := by
  simp only [append]
  generalize hk₁ : (if k.state.done then k.startOver else k) = k₁
  obtain ⟨h, hc, hu⟩ := told_started hk₁ h hc hu
  split
  · exact h
  refine ⟨headed_append h.entry ht, h.opened, ?_⟩
  cases ho : k₁.state.scope.isOpen with
  | false =>
    simp only [Bool.false_eq_true, if_false]
    rintro (ho' | hc')
    · exact absurd (ho.symm.trans ho') Bool.false_ne_true
    · exact absurd (hc.symm.trans hc') Bool.false_ne_true
  | true =>
    simp only [if_true]
    intro _
    have hsc := h.scope (.inl ho)
    obtain ⟨p, f, hf, hfront, hb⟩ := hsc.front_of_isOpen hc
    refine .of_isOpen hc hf hfront ?_ (headed_append hsc.text ht)
      (.inl (noSymbol_append.mpr ⟨hsc.noSymbol ho hu, hno⟩))
    show k₁.state.buffer ++ t = p ++ f.name ++ '(' :: (k₁.state.scope.text ++ t)
    rw [hb, List.append_assoc, List.cons_append]

theorem told_readyForNumber (ha : k.state.Active) (h : k.state.Told s p₀)
    (hf : (k.readyForNumber s).state.failed = false) :
    (k.readyForNumber s).state.Told s p₀ ∧ (k.readyForNumber s).state.scope.isClosed = false := by
  unfold readyForNumber at *
  split
  · rename_i hmultiply
    rw [if_pos hmultiply] at hf
    have hw := (sound_pressOperator s .multiply ha).resolve_left (State.not_stopped hf)
    exact ⟨.of_idle (hw.told (s := s) h.opened).entry h.opened hw.idle.2.1 rfl, rfl⟩
  · rename_i hnot
    simp only [Bool.or_eq_true, not_or, Bool.not_eq_true] at hnot
    exact ⟨h, hnot.1⟩

theorem told_pressDigit (d : Fin 10) (ha : k.state.Active) (h : k.state.Told s p₀)
    (hf : (k.pressDigit s d).state.failed = false) : (k.pressDigit s d).state.Told s p₀ := by
  have hdigit : ∀ d : Fin 10, (Nat.digitChar d ≠ '+' ∧ Nat.digitChar d ≠ '-' ∧
      isBlank (Nat.digitChar d) = false) ∧ Constant.isSymbol (Nat.digitChar d) = false := by
    decide
  revert hf
  simp only [pressDigit]
  split
  · rename_i hfailed
    exact fun hf => absurd (hf.symm.trans hfailed) Bool.false_ne_true
  rename_i hfailed
  obtain ⟨hready, hc⟩ := told_readyForNumber ha h (by simpa using hfailed)
  exact fun _ => told_append hready hc (unused_readyForNumber s k) (bare_cons (hdigit d).1 [])
    (noSymbol_cons.mpr ⟨(hdigit d).2, noSymbol_nil⟩)

theorem told_pressPoint (ha : k.state.Active) (h : k.state.Told s p₀)
    (hf : (k.pressPoint s).state.failed = false) : (k.pressPoint s).state.Told s p₀ := by
  have hpoint : ∀ typed : Text, Bare (if typed = [] then ['0', '.'] else ['.']) ∧
      NoSymbol (if typed = [] then ['0', '.'] else ['.']) := by
    intro typed
    split
    · exact ⟨bare_cons (by decide) _, by decide⟩
    · exact ⟨bare_cons (by decide) _, by decide⟩
  revert hf
  simp only [pressPoint]
  split
  · rename_i hfailed
    exact fun hf => absurd (hf.symm.trans hfailed) Bool.false_ne_true
  rename_i hfailed
  obtain ⟨hready, hc⟩ := told_readyForNumber ha h (by simpa using hfailed)
  have hu := unused_readyForNumber s k
  generalize hk₁ : (if (k.readyForNumber s).state.done then (k.readyForNumber s).startOver
      else k.readyForNumber s) = k₁
  obtain ⟨h, hc, hu⟩ := told_started hk₁ hready hc hu
  split
  · exact fun _ => h
  · exact fun _ => told_append h hc hu (hpoint _).1 (hpoint _).2

/-! ## The `=` key -/

theorem headed_finish (s : Settings) (k : Keypad) : Headed (k.finish s).state.buffer := by
  rw [buffer_finish]
  split
  · exact (writeEntry_ends _).1
  · exact headed_nil

theorem headed_pressEquals (hb : Headed k.state.buffer)
    (hf : (k.pressEquals s).state.failed = false) : Headed (k.pressEquals s).state.buffer := by
  cases hd : k.state.done with
  | true =>
    rw [pressEquals, if_pos hd]
    exact hb
  | false =>
    obtain ⟨k', he⟩ := exists_finish_of_pressEquals hd hf
    rw [he]
    exact headed_finish s k'

theorem told_pressEquals (ha : k.state.Active) (h : k.state.Told s p₀)
    (hf : (k.pressEquals s).state.failed = false) : (k.pressEquals s).state.Told s p₀ := by
  obtain ⟨hactive, hd⟩ := (sound_pressEquals s ha).resolve_left (State.not_stopped hf)
  obtain ⟨-, ho, hc⟩ := hactive.done hd
  exact .of_idle (headed_pressEquals h.entry hf) h.opened ho hc

/-! ## Functions -/

/-- a function applied to the result on display leaves another result -/
theorem idle_applyToResult (f : Trig) (hf : (k.applyToResult s f).state.failed = false) :
    Headed (k.applyToResult s f).state.buffer ∧ (k.applyToResult s f).state.scope.isOpen = false ∧
      (k.applyToResult s f).state.scope.isClosed = false := by
  have ha := (sound_applyToResult s f k).active hf
  obtain ⟨k', he⟩ := exists_finish_of_applyToResult hf
  rw [he] at ha ⊢
  exact ⟨headed_finish s k', (ha.done rfl).2⟩

theorem openWithFactor_cases (s : Settings) (f : Trig) (k : Keypad) :
    k.openWithFactor s f = k ∨
      k.openWithFactor s f =
        openScope { k with state.scope.factor := readNumber? k.state.buffer } f := by
  unfold openWithFactor
  split
  · exact .inl rfl
  · exact .inr rfl

/-- A function key leaves an entry without a scope, or opens its function behind one, with the
number there as the factor. -/
theorem pressFunction_cases (f : Trig) (ha : k.state.Active) (hb : Headed k.state.buffer)
    (hf : (k.pressFunction s f).state.failed = false) :
    ∃ k₁ : Keypad, Headed k₁.state.buffer ∧ k₁.state.scope.isOpen = false ∧
      k₁.state.scope.isClosed = false ∧ (k.pressFunction s f = k₁ ∨ k.pressFunction s f =
        openScope { k₁ with state.scope.factor := readNumber? k₁.state.buffer } f) := by
  have hawaiting : ∀ {k₁ : Keypad}, k₁.state.Awaiting .multiply → Headed k₁.state.buffer :=
    fun hw => hw.buffer ▸ headed_nil
  revert hf
  simp only [pressFunction]
  generalize hk₁ : (if (k.state.constantUsed || k.state.scope.isClosed) = true then
    k.pressOperator s .multiply else k) = k₁
  -- what is in front is multiplied, and nothing is typed any more, or nothing is closed
  have hm : k₁.state.Stopped ∨
      (k₁.state.Active ∧ Headed k₁.state.buffer ∧ k₁.state.scope.isClosed = false) := by
    rcases multiplied_cases hk₁ ha with hstop | ⟨-, -, hw⟩ | ⟨hnot, rfl⟩
    · exact .inl hstop
    · exact .inr ⟨hw.active, hawaiting hw, hw.idle.2.2⟩
    · exact .inr ⟨ha, hb, (Bool.or_eq_false_iff.mp hnot).2⟩
  rcases hm with hstop | ⟨ha, hb, hc⟩
  · rw [if_pos hstop.failed]
    exact fun hf => absurd hstop (State.not_stopped hf)
  rw [if_neg ha.not_failed]
  split
  · intro hf
    obtain ⟨hb', hidle⟩ := idle_applyToResult f hf
    exact ⟨_, hb', hidle.1, hidle.2, .inl rfl⟩
  split
  · rcases sound_closeScope s ha with hstop | ⟨ha₁, -⟩
    · rw [if_pos hstop.failed]
      exact fun hf => absurd hstop (State.not_stopped hf)
    rw [if_neg ha₁.not_failed]
    rcases sound_pressOperator s .multiply ha₁ with hstop | hw
    · rw [if_pos hstop.failed]
      exact fun hf => absurd hstop (State.not_stopped hf)
    rw [if_neg hw.active.not_failed]
    exact fun _ =>
      ⟨_, hawaiting hw, hw.idle.2.1, hw.idle.2.2, openWithFactor_cases s f _⟩
  · rename_i ho
    exact fun _ => ⟨k₁, hb, by simpa using ho, hc, openWithFactor_cases s f k₁⟩

theorem told_pressFunction (f : Trig) (ha : k.state.Active) (h : k.state.Told s p₀)
    (hf : (k.pressFunction s f).state.failed = false)
    (ho : (k.pressFunction s f).state.scope.isOpen = false) :
    (k.pressFunction s f).state.Told s p₀ := by
  obtain ⟨k₁, hb, ho₁, hc₁, he | he⟩ := pressFunction_cases f ha h.entry hf
  · rw [he]
    exact .of_idle hb h.opened ho₁ hc₁
  · rw [he] at ho
    cases ho

/-- what stands in front of a function that was just opened is what it was opened behind -/
theorem told_pressFunction_of_isOpen (f : Trig) (ha : k.state.Active) (h : k.state.Told s p₀)
    (hf : (k.pressFunction s f).state.failed = false)
    (ho : (k.pressFunction s f).state.scope.isOpen = true)
    (hb : (k.pressFunction s f).state.buffer = p ++ f.name ++ ['(']) :
    (k.pressFunction s f).state.Told s p := by
  obtain ⟨k₁, hb₁, ho₁, -, he | he⟩ := pressFunction_cases f ha h.entry hf
  · rw [he, ho₁] at ho
    cases ho
  rw [he] at hb ⊢
  have hp : k₁.state.buffer = p := by
    have hb : k₁.state.buffer ++ f.name ++ ['('] = p ++ f.name ++ ['('] := hb
    exact List.append_cancel_right (List.append_cancel_right hb)
  rw [← hp]
  refine ⟨?_, hb₁, fun _ =>
    .of_isOpen rfl rfl (.inl ⟨rfl, rfl⟩) rfl headed_nil (.inl noSymbol_nil)⟩
  show Headed (k₁.state.buffer ++ f.name ++ ['('])
  rw [List.append_assoc]
  exact headed_append hb₁ (f.bare_name_append _)

/-! ## Constants -/

/-- a constant typed in the open scope is the operand there, with the number in front of it -/
theorem told_constantInScope {st : State} (c : Constant) (ha : st.Active) (h : st.Told s p₀)
    (ho : st.scope.isOpen = true) (hu : st.constantUsed = false) :
    (st.constantInScope c).Told s p₀ := by
  obtain ⟨-, -, hc, -⟩ := ha.scope.of_isOpen ho
  have hsc := h.scope (.inl ho)
  obtain ⟨p, g, hg, hfront, hb⟩ := hsc.front_of_isOpen hc
  refine ⟨headed_append h.entry c.bare_symbol, h.opened, fun _ => .of_isOpen hc hg hfront ?_
    (headed_append hsc.text c.bare_symbol) (.inr ⟨st.scope.text, c, rfl, hsc.noSymbol ho hu,
      fun _ => rfl, ?_⟩)⟩
  · show st.buffer ++ [c.symbol] = p ++ g.name ++ '(' :: (st.scope.text ++ [c.symbol])
    rw [hb, List.append_assoc, List.cons_append]
  · intro v hv
    have htyped : typedText st = st.scope.text := if_pos ho
    show c.value * factorOf (typedText st) = c.value * v
    rw [htyped, factorOf_eq hv]

theorem told_pressConstant (c : Constant) (ha : k.state.Active) (h : k.state.Told s p₀)
    (hf : (k.pressConstant s c).state.failed = false) :
    (k.pressConstant s c).state.Told s p₀ := by
  revert hf
  simp only [pressConstant]
  generalize hk₁ : (if (k.state.constantUsed || k.state.scope.isClosed || k.state.done) = true then
    k.pressOperator s .multiply else k) = k₁
  have hm : k₁.state.Stopped ∨ (k₁.state.Active ∧ k₁.state.Told s p₀ ∧ k₁.state.done = false ∧
      k₁.state.scope.isClosed = false ∧
      (k₁.state.scope.isOpen = true → k₁.state.constantUsed = false)) := by
    rcases multiplied_cases hk₁ ha with hstop | ⟨-, -, hw⟩ | ⟨hnot, rfl⟩
    · exact .inl hstop
    · exact .inr ⟨hw.active, hw.told h.opened, hw.idle.1, hw.idle.2.2,
        fun ho => absurd (hw.idle.2.1.symm.trans ho) Bool.false_ne_true⟩
    · simp only [Bool.or_eq_false_iff] at hnot
      exact .inr ⟨ha, h, hnot.2, hnot.1.2, fun _ => hnot.1.1⟩
  rcases hm with hstop | ⟨ha, h, hd, hc, hu⟩
  · rw [if_pos hstop.failed]
    exact fun hf => absurd hstop (State.not_stopped hf)
  rw [if_neg ha.not_failed]
  split
  · exact fun _ => h
  split
  · rename_i ho
    intro hf
    have hactive := active_constantInScope c ha hd ho
    have hclosed := told_closeScope (k := { k₁ with state := k₁.state.constantInScope c }) hactive
      (told_constantInScope c ha h ho (hu ho)) hf
    obtain ⟨-, ho'⟩ := (sound_closeScope (k := { k₁ with state := k₁.state.constantInScope c }) s
      hactive).resolve_left (State.not_stopped hf)
    -- nothing is pending any more, and the scope that awaited it is not open any more
    refine ⟨hclosed.entry, h.opened, fun hsc => ?_⟩
    obtain ⟨hfront, htext, hoperand, hresult⟩ := hclosed.scope hsc
    refine ⟨hfront, htext, hoperand.imp_right ?_, hresult⟩
    rintro ⟨m, d, hm, hno, -, hconstant⟩
    exact ⟨m, d, hm, hno, fun ho => absurd (ho'.symm.trans ho) Bool.false_ne_true, hconstant⟩
  · rename_i ho
    rw [Bool.not_eq_true] at ho
    exact fun _ => .of_idle (headed_append h.entry c.bare_symbol) h.opened ho hc

/-! ## Editing -/

/-- without the scope the entry is what stood in front of it -/
theorem told_dropScope (ha : k.state.Active) (h : k.state.Told s p₀)
    (ho : k.state.scope.isOpen = true) (ht : k.state.scope.text = []) :
    k.dropScope.state.Told s p₀ := by
  obtain ⟨p, f, -, -, hf, -, -, hb⟩ := ha.scope.of_isOpen ho
  refine .of_idle ?_ h.opened rfl rfl
  show Headed (k.state.buffer.take
    (k.state.buffer.length - ((k.state.scope.function.elim 0 fun f => f.name.length) + 1)))
  have hentry := h.entry
  rw [hb, List.append_assoc] at hentry
  rw [hf, hb, ht]
  simpa using hentry.of_append

/-- A `)` taken back opens the scope again: a constant that it closed is pending once more. -/
theorem told_dropChar_closing (h : k.state.Told s p₀)
    (hc : k.state.scope.isClosed = true) : (k.dropChar ')').state.Told s p₀ := by
  rw [state_dropChar_closing]
  have hsc := h.scope (.inr hc)
  obtain ⟨p, f, hf, hfront, hb⟩ := hsc.front
  refine ⟨h.entry.dropLast, h.opened, fun _ => .of_isOpen rfl hf hfront ?_ hsc.text
    (hsc.operand.imp_right ?_)⟩
  · show k.state.buffer.dropLast = p ++ f.name ++ '(' :: k.state.scope.text
    rw [hb, hc]
    exact List.dropLast_concat
  · rintro ⟨m, c, htext, hm, -, hconstant⟩
    refine ⟨m, c, htext, hm, fun _ => ?_, hconstant⟩
    show k.state.scope.text.getLast?.any Constant.isSymbol = true
    rw [htext, List.getLast?_concat]
    exact c.isSymbol_symbol

/-- any other character is taken back from the entry and from the open scope -/
theorem told_dropChar {c : Char} (hclosing : c ≠ ')') (ha : k.state.Active) (h : k.state.Told s p₀)
    (hlast : k.state.buffer.getLast? = some c)
    (ht : k.state.scope.isOpen = true → k.state.scope.text ≠ []) :
    (k.dropChar c).state.Told s p₀ := by
  rw [state_dropChar hclosing]
  cases ho : k.state.scope.isOpen with
  | false =>
    have hsc : k.state.scope.dropLast = k.state.scope := if_neg (by simp [ho])
    refine .of_idle h.entry.dropLast h.opened ?_ ?_
    · exact (congrArg Scope.isOpen hsc).trans ho
    · refine (congrArg Scope.isClosed hsc).trans ?_
      cases hc : k.state.scope.isClosed with
      | false => rfl
      | true =>
        obtain ⟨p, f, -, -, -, -, -, hb⟩ := ha.scope.of_isClosed hc
        rw [hb, List.getLast?_concat] at hlast
        exact absurd (Option.some.inj hlast).symm hclosing
  | true =>
    have hne := ht ho
    have hsc : k.state.scope.dropLast =
        { k.state.scope with
          text := k.state.scope.text.dropLast
          isStarted := !k.state.scope.text.dropLast.isEmpty } := if_pos ho
    have hshown := h.scope (.inl ho)
    obtain ⟨-, -, hc, -⟩ := ha.scope.of_isOpen ho
    obtain ⟨p, f, hf, hfront, hb⟩ := hshown.front_of_isOpen hc
    refine ⟨h.entry.dropLast, h.opened, fun _ => ?_⟩
    rw [hsc]
    refine .of_isOpen hc hf hfront ?_ hshown.text.dropLast (.inl ?_)
    · show k.state.buffer.dropLast = p ++ f.name ++ '(' :: k.state.scope.text.dropLast
      rw [hb, List.dropLast_append_of_ne_nil (List.cons_ne_nil _ _),
        List.dropLast_cons_of_ne_nil hne]
    · show NoSymbol k.state.scope.text.dropLast
      rcases hshown.operand with hno | ⟨m, d, htext, hm, -⟩
      · exact hno.of_subset (List.dropLast_subset _)
      · rw [htext, List.dropLast_concat]
        exact hm

theorem told_pressBackspace (ha : k.state.Active) (h : k.state.Told s p₀) :
    k.pressBackspace.state.Told s p₀ := by
  unfold pressBackspace
  split
  · exact h
  split
  · rw [state_shortenTrail]
    exact h
  rename_i c hlast
  split
  · rename_i hopen
    simp only [Bool.and_eq_true, decide_eq_true_eq] at hopen
    exact told_dropScope ha h hopen.1 hopen.2
  rename_i hopen
  have ht : k.state.scope.isOpen = true → k.state.scope.text ≠ [] := by
    intro ho hnil
    simp [ho, hnil] at hopen
  by_cases hclosing : c = ')'
  · subst hclosing
    exact told_dropChar_closing h (ha.scope.isClosed_of_getLast? hlast ht)
  · exact told_dropChar hclosing ha h hlast ht

theorem told_pressClearEntry (h : k.state.Told s p₀) : k.pressClearEntry.state.Told s p₀ := by
  unfold pressClearEntry
  split
  · exact h
  · exact .of_idle headed_nil h.opened rfl rfl

/-- the sign changed in an open scope is that of its text, and of a constant pending there -/
theorem told_negatedOperand {st : State} (ha : st.Active) (h : st.Told s p₀)
    (ho : st.scope.isOpen = true) :
    ({ st with
      buffer := st.buffer.take (st.buffer.length - st.scope.text.length) ++ toggled st.scope.text
      scope := { st.scope with text := toggled st.scope.text }
      constant := if st.constantUsed then -st.constant else st.constant } : State).Told s p₀ := by
  have hshown := h.scope (.inl ho)
  obtain ⟨-, -, hc, -⟩ := ha.scope.of_isOpen ho
  obtain ⟨p, f, hf, hfront, hb⟩ := hshown.front_of_isOpen hc
  have hentry : Headed p := by
    have hentry := h.entry
    rw [hb, List.append_assoc] at hentry
    exact hentry.of_append
  have hreplaced := replaced_scope hb (toggled st.scope.text)
  refine ⟨?_, h.opened, fun _ => .of_isOpen hc hf hfront hreplaced (headed_toggled hshown.text) ?_⟩
  · show Headed (st.buffer.take (st.buffer.length - st.scope.text.length) ++ toggled st.scope.text)
    rw [hreplaced, List.append_assoc]
    exact headed_append hentry (f.bare_name_append _)
  rcases hshown.operand with hno | ⟨m, c, htext, hm, hu, hconstant⟩
  · exact .inl (noSymbol_toggled hno)
  refine .inr ⟨toggled m, c, ?_, noSymbol_toggled hm, hu, ?_⟩
  · show toggled st.scope.text = toggled m ++ [c.symbol]
    rw [htext, toggled_append m c.bare_symbol]
  · intro v hv
    have hheaded : Headed m := by
      have htext' := hshown.text
      rw [htext] at htext'
      exact htext'.of_append
    rw [shownFactor?_toggled hheaded] at hv
    obtain ⟨w, hw, rfl⟩ := Option.map_eq_some_iff.mp hv
    show (if st.constantUsed then -st.constant else st.constant) = c.value * -w
    rw [if_pos (hu ho), hconstant w hw, float_mul_neg]

/-- the sign changed behind a closed scope is that of the number in front, and of the value -/
theorem told_negatedFactor {st : State} (ha : st.Active) (h : st.Told s p₀)
    (hc : st.scope.isClosed = true) :
    ({ st with
      buffer := toggled st.buffer
      scope :=
        { st.scope with
          factor := some (st.scope.factor.elim (-1) fun x => -x)
          result := -st.scope.result } } : State).Told s p₀ := by
  have hshown := h.scope (.inr hc)
  obtain ⟨-, -, ho, -⟩ := ha.scope.of_isClosed hc
  obtain ⟨p, f, hf, hfront, hb⟩ := hshown.front
  refine ⟨headed_toggled h.entry, h.opened, fun _ => ⟨⟨toggled p, f, hf,
    hfront.toggled h.opened, ?_⟩, hshown.text, hshown.operand, ?_⟩⟩
  · show toggled st.buffer = toggled p ++ f.name ++ '(' :: st.scope.text ++
      (if st.scope.isClosed then [')'] else [])
    rw [hb, List.append_assoc, List.append_assoc, toggled_append p (f.bare_name_append _),
      ← List.append_assoc, ← List.append_assoc]
  · intro _ g x hg hx
    have hresult := hshown.result hc g x hg hx
    show -st.scope.result = _
    rw [hresult, Scope.valueOn, ← float_neg_mul, ← getD_negated]
    rfl

theorem told_pressToggleSign (ha : k.state.Active) (h : k.state.Told s p₀) :
    k.pressToggleSign.state.Told s p₀ := by
  simp only [pressToggleSign]
  split
  · exact .of_idle (writeEntry_ends _).1 h.opened rfl rfl
  split
  · rename_i ho
    split
    · exact h
    · exact told_negatedOperand ha h ho
  split
  · rename_i hc
    exact told_negatedFactor ha h hc
  · rename_i ho hc
    rw [Bool.not_eq_true] at ho hc
    split
    · exact h
    · exact .of_idle (headed_toggled h.entry) h.opened ho hc

/-! ## Every key -/

theorem told_handle (s : Settings) (key : Key) (ha : k.state.Active) (h : k.state.Told s p₀)
    (hf : (k.handle s key).state.failed = false)
    (hkey : ∀ f, key = .function f → (k.handle s key).state.scope.isOpen = false) :
    (k.handle s key).state.Told s p₀ := by
  cases key with
  | digit d => exact told_pressDigit d ha h hf
  | point => exact told_pressPoint ha h hf
  | operator op => exact told_pressOperator op ha h hf
  | function f => exact told_pressFunction f ha h hf (hkey f rfl)
  | constant c => exact told_pressConstant c ha h hf
  | equals => exact told_pressEquals ha h hf
  | backspace => exact told_pressBackspace ha h
  | clearEntry => exact told_pressClearEntry h
  | clearAll => exact .of_idle headed_nil h.opened rfl rfl
  | toggleSign => exact told_pressToggleSign ha h

end PocketCalc.Keypad
