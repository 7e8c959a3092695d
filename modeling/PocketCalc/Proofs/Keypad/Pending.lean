import PocketCalc.Proofs.Keypad.Preview

/-!
# Pending constants

A constant that was typed is pending until a key takes it as an operand.  Taking it is what unmarks
it, and one path forgets to: an open scope takes its constant on being closed, the value of the
scope is taken as the operand, and the constant stays marked.  Nothing shows it then, and the next
key takes it once more.

* `State.ShowsConstant`           a pending constant is the end of the entry;
* `constantUsed_pressOperator`, ...   what is pending behind a key that takes an operand;
* `leavesConstant`                such a key where the open scope awaits a constant;
* `showsConstant_handle`          every other key keeps a pending constant on display;
* `Tidy`                          the runs without keys that leave a constant;
* `Tidy.constant_shown`           on them a pending constant is shown, and only those keys end that;
* `leftover_constant`             a run on which a constant is taken twice.
-/

namespace PocketCalc.Keypad
open Text

/-! ## What is pending and what is shown -/

/-- a pending constant is the end of the entry, and behind a result none is pending -/
structure State.ShowsConstant (st : State) : Prop where
  entry : st.constantUsed = true → endsInConstant st.buffer = true
  done : st.done = true → st.constantUsed = false

theorem State.ShowsConstant.of_unused {st : State} (h : st.constantUsed = false) :
    st.ShowsConstant := by
  refine ⟨?_, fun _ => h⟩
  intro hu
  rw [h] at hu
  cases hu

/-- an entry that does not end in a constant leaves none pending -/
theorem State.ShowsConstant.unused {st : State} (h : st.ShowsConstant)
    (hb : endsInConstant st.buffer = false) : st.constantUsed = false := by
  cases hu : st.constantUsed with
  | false => rfl
  | true =>
    rw [h.entry hu] at hb
    cases hb

theorem ScopeShape.endsInConstant_of_isClosed {b : Text} {sc : Scope} (h : ScopeShape b sc)
    (hc : sc.isClosed = true) : endsInConstant b = false := by
  obtain ⟨p, f, -, -, -, -, -, rfl⟩ := h.of_isClosed hc
  rw [endsInConstant_append _ (List.cons_ne_nil _ _)]
  decide

/-- the text of an open scope ends as the entry does -/
theorem ScopeShape.endsInConstant_of_isOpen {b : Text} {sc : Scope} (h : ScopeShape b sc)
    (ho : sc.isOpen = true) : endsInConstant b = endsInConstant sc.text := by
  obtain ⟨p, f, -, -, -, -, -, rfl⟩ := h.of_isOpen ho
  rw [endsInConstant_append _ (List.cons_ne_nil _ _)]
  cases ht : sc.text with
  | nil => decide
  | cons c t => exact endsInConstant_append ['('] (List.cons_ne_nil c t)

/-- a constant that is pending in an open scope is what the scope awaits -/
theorem State.awaitsConstant_eq {st : State} (ha : st.Active) (h : st.ShowsConstant) :
    st.awaitsConstant = (st.scope.isOpen && st.constantUsed) := by
  unfold awaitsConstant
  cases ho : st.scope.isOpen with
  | false => rfl
  | true =>
    cases hu : st.constantUsed with
    | false => simp
    | true =>
      have hend := h.entry hu
      rw [ha.scope.endsInConstant_of_isOpen ho] at hend
      rw [readNumber?_of_endsInConstant hend]
      rfl

/-! ## Transitions -/

variable {s : Settings} {k : Keypad}

@[simp]
theorem constantUsed_closeScope (s : Settings) (k : Keypad) :
    (k.closeScope s).state.constantUsed = k.state.constantUsed := by
  unfold closeScope
  simp only
  repeat' split
  all_goals rfl

@[simp]
theorem constantUsed_commit (k : Keypad) : k.commit.state.constantUsed = k.state.constantUsed := by
  unfold commit
  simp only
  repeat' split
  all_goals rfl

/-- A constant stays pending behind an operand taken from a closed scope.  Behind any other operand
none does: it was that operand, or there was none. -/
theorem constantUsed_takeOperand {k' : Keypad} {x : Float}
    (h : k.state.constantUsed = true → readNumber? k.state.buffer = none)
    (hx : k.takeOperand = (k', some x)) :
    k'.state.constantUsed = (k.state.constantUsed && k.state.scope.isClosed) := by
  rcases takeOperand_cases k with ⟨y, hy, he⟩ | ⟨-, hc, he⟩ | ⟨-, hc, hu, he⟩ | ⟨-, -, -, he⟩
  all_goals
    rw [he] at hx
    cases hx
  · cases hu : k.state.constantUsed with
    | false => rfl
    | true =>
      rw [h hu] at hy
      cases hy
  · simp [hc]
  · simp [hc]

/-- behind a closed scope: what is pending there was pending inside -/
theorem pending_closeScope (s : Settings) (ha : k.state.Active) (h : k.state.ShowsConstant)
    (hf : (k.closeScope s).state.failed = false) :
    ((k.closeScope s).state.constantUsed && (k.closeScope s).state.scope.isClosed) =
      k.state.awaitsConstant ∧
    ((k.closeScope s).state.constantUsed = true →
      readNumber? (k.closeScope s).state.buffer = none) ∧
    (endsInConstant (k.closeScope s).state.buffer = false →
      k.state.awaitsConstant = false → (k.closeScope s).state.constantUsed = false) := by
  rw [State.awaitsConstant_eq ha h, constantUsed_closeScope]
  cases ho : k.state.scope.isOpen with
  | false =>
    rw [closeScope_of_isOpen_eq_false ho]
    refine ⟨?_, fun hu => readNumber?_of_endsInConstant (h.entry hu), fun hb _ => h.unused hb⟩
    cases hc : k.state.scope.isClosed with
    | false => simp
    | true => simp [h.unused (ha.scope.endsInConstant_of_isClosed hc)]
  | true =>
    obtain ⟨p, f, -, hset, hfn, -⟩ := ha.scope.of_isOpen ho
    have hclosed : (k.closeScope s).state.scope.isClosed = true := by
      rcases closeScope_cases (s := s) ho hset hfn with
        ⟨-, he⟩ | ⟨x, e, -, -, he⟩ | ⟨x, y, -, -, he⟩
      · rw [he] at hf
        cases hf
      · rw [he] at hf
        cases hf
      · rw [he]
        rfl
    have hactive := ((sound_closeScope s ha).resolve_left (State.not_stopped hf)).1
    rw [hclosed]
    refine ⟨by simp, fun _ => hactive.scope.readNumber? (.inr hclosed), fun _ hu => ?_⟩
    simpa using hu

/-- Behind an operator key a constant is pending exactly where a scope awaited one. -/
theorem constantUsed_pressOperator (s : Settings) (op : Operator) (ha : k.state.Active)
    (h : k.state.ShowsConstant) (hf : (k.pressOperator s op).state.failed = false) :
    (k.pressOperator s op).state.constantUsed = k.state.awaitsConstant := by
  revert hf
  simp only [pressOperator]
  rcases sound_closeScope s ha with hstop | ⟨ha₁, ho₁⟩
  · rw [if_pos hstop.failed]
    exact fun hf => absurd hstop (State.not_stopped hf)
  obtain ⟨hpending, hread, hunused⟩ := pending_closeScope s ha h ha₁.failed
  have hdone : (k.closeScope s).state.done = true → k.state.awaitsConstant = false := by
    intro hd
    rw [← hpending, (ha₁.done hd).2.2, Bool.and_false]
  have hempty : (k.closeScope s).state.buffer = [] →
      (k.closeScope s).state.constantUsed = k.state.awaitsConstant := by
    intro hb
    have hc : (k.closeScope s).state.scope.isClosed = false := by
      have hsc := ha₁.scope
      rw [hb] at hsc
      exact hsc.of_nil.2
    rw [hc, Bool.and_false] at hpending
    rw [← hpending]
    exact hunused (by rw [hb]; rfl) hpending.symm
  generalize k.closeScope s = k₁ at *
  rw [if_neg ha₁.not_failed]
  split
  · rename_i hd
    intro _
    exact (hdone hd).symm
  split
  · rename_i hb
    simp only [Bool.and_eq_true, decide_eq_true_eq] at hb
    intro _
    exact hempty hb.1
  rcases sound_takeOperand ha₁ ho₁ with ⟨k', he, hstop⟩ | ⟨k', x, he, -⟩
  · rw [he]
    exact fun hf => absurd hstop (State.not_stopped hf)
  have hu := (constantUsed_takeOperand hread he).trans hpending
  rw [he]
  simp only
  split
  · intro _
    rw [state_awaitRight]
    exact hu
  split
  · rename_i hfailed
    exact fun hf => absurd (hf.symm.trans hfailed) Bool.false_ne_true
  · intro _
    rw [state_awaitRight]
    exact (constantUsed_commit _).trans hu

theorem endsInConstant_pressEquals (hd : k.state.done = false)
    (hf : (k.pressEquals s).state.failed = false) :
    endsInConstant (k.pressEquals s).state.buffer = false := by
  obtain ⟨k', he⟩ := exists_finish_of_pressEquals hd hf
  rw [he, buffer_finish]
  split
  · exact (writeEntry_ends _).2
  · rfl

/-- Behind `=` a constant is pending exactly where a scope awaited one. -/
theorem constantUsed_pressEquals (s : Settings) (ha : k.state.Active) (h : k.state.ShowsConstant)
    (hd : k.state.done = false) (hf : (k.pressEquals s).state.failed = false) :
    (k.pressEquals s).state.constantUsed = k.state.awaitsConstant := by
  revert hf
  simp only [pressEquals]
  rw [if_neg (by simp [hd])]
  rcases sound_closeScope s ha with hstop | ⟨ha₁, ho₁⟩
  · rw [if_pos hstop.failed]
    exact fun hf => absurd hstop (State.not_stopped hf)
  obtain ⟨hpending, hread, -⟩ := pending_closeScope s ha h ha₁.failed
  generalize k.closeScope s = k₁ at *
  rw [if_neg ha₁.not_failed]
  rcases sound_takeOperand ha₁ ho₁ with ⟨k', he, hstop⟩ | ⟨k', x, he, -⟩
  · rw [he]
    exact fun hf => absurd hstop (State.not_stopped hf)
  have hu := (constantUsed_takeOperand hread he).trans hpending
  rw [he]
  simp only
  split
  · exact fun _ => hu
  split
  · rename_i hfailed
    exact fun hf => absurd (hf.symm.trans hfailed) Bool.false_ne_true
  · exact fun _ => (constantUsed_commit _).trans hu

/-! ## Typing -/

theorem unused_append (s : Settings) (h : k.state.constantUsed = false) (t : Text) :
    (k.append s t).state.constantUsed = false := by
  simp only [append]
  have hstart : (if k.state.done then k.startOver else k).state.constantUsed = false := by
    split
    · rfl
    · exact h
  generalize (if k.state.done then k.startOver else k) = k at hstart ⊢
  split
  · exact hstart
  · exact hstart

theorem unused_pressDigit (s : Settings) (d : Fin 10) (k : Keypad) :
    (k.pressDigit s d).state.constantUsed = false := by
  have hready := unused_readyForNumber s k
  simp only [pressDigit]
  split
  · exact hready
  · exact unused_append s hready _

theorem unused_pressPoint (s : Settings) (k : Keypad) :
    (k.pressPoint s).state.constantUsed = false := by
  have hready := unused_readyForNumber s k
  simp only [pressPoint]
  split
  · exact hready
  have hstart : (if (k.readyForNumber s).state.done then (k.readyForNumber s).startOver
      else k.readyForNumber s).state.constantUsed = false := by
    split
    · rfl
    · exact hready
  generalize (if (k.readyForNumber s).state.done then (k.readyForNumber s).startOver
      else k.readyForNumber s) = k at hstart ⊢
  split
  · exact hstart
  · exact unused_append s hstart _

/-! ## Functions and constants -/

theorem unused_applyToResult (s : Settings) (f : Trig) (k : Keypad)
    (hf : (k.applyToResult s f).state.failed = false) :
    (k.applyToResult s f).state.constantUsed = false := by
  revert hf
  simp only [applyToResult]
  have hactive := active_seeded s f k
  generalize hk₀ : append s _ (Format.result k.state.result) = k₀ at hactive ⊢
  have hunused : k₀.state.constantUsed = false := by
    rw [← hk₀]
    exact unused_append s rfl _
  rcases sound_closeScope s hactive with hstop | ⟨ha, ho⟩
  · rw [if_pos hstop.failed]
    exact fun hf => absurd hstop (State.not_stopped hf)
  have hunused : (k₀.closeScope s).state.constantUsed = false := by
    rw [constantUsed_closeScope]
    exact hunused
  generalize k₀.closeScope s = k₁ at *
  rw [if_neg ha.not_failed]
  intro hf
  cases hd : k₁.state.done with
  | true =>
    rw [pressEquals, if_pos hd]
    exact hunused
  | false =>
    rw [constantUsed_pressEquals s ha (.of_unused hunused) hd hf, State.awaitsConstant, ho]
    rfl

@[simp]
theorem constantUsed_openWithFactor (s : Settings) (f : Trig) (k : Keypad) :
    (k.openWithFactor s f).state.constantUsed = k.state.constantUsed := by
  unfold openWithFactor
  split <;> rfl

theorem endsInConstant_openWithFactor (s : Settings) (f : Trig)
    (hb : endsInConstant k.state.buffer = false) :
    endsInConstant (k.openWithFactor s f).state.buffer = false := by
  unfold openWithFactor
  split
  · exact hb
  · exact endsInConstant_append _ (List.cons_ne_nil '(' [])

/-- Behind a function key a constant is pending exactly where a scope awaited one, and it is not
shown. -/
theorem constantUsed_pressFunction (s : Settings) (f : Trig) (ha : k.state.Active)
    (h : k.state.ShowsConstant) (hf : (k.pressFunction s f).state.failed = false) :
    (k.pressFunction s f).state.constantUsed = k.state.awaitsConstant ∧
      (k.state.awaitsConstant = true →
        endsInConstant (k.pressFunction s f).state.buffer = false) := by
  have hawaits := State.awaitsConstant_eq ha h
  revert hf
  simp only [pressFunction]
  cases hm : k.state.constantUsed || k.state.scope.isClosed with
  | true =>
    simp only [if_true]
    rcases sound_pressOperator s .multiply ha with hstop | hw
    · rw [if_pos hstop.failed]
      exact fun hf => absurd hstop (State.not_stopped hf)
    have hu := constantUsed_pressOperator s .multiply ha h hw.active.failed
    generalize k.pressOperator s .multiply = k₁ at *
    rw [if_neg hw.active.not_failed, if_neg (by simp [hw.idle.1]), if_neg (by simp [hw.idle.2.1])]
    intro _
    refine ⟨(constantUsed_openWithFactor s f k₁).trans hu, fun _ => ?_⟩
    apply endsInConstant_openWithFactor
    rw [hw.buffer]
    rfl
  | false =>
    obtain ⟨hu, -⟩ := Bool.or_eq_false_iff.mp hm
    rw [hu, Bool.and_false] at hawaits
    rw [hawaits]
    simp only [Bool.false_eq_true, if_false, false_implies, and_true]
    rw [if_neg ha.not_failed]
    split
    · exact unused_applyToResult s f k
    split
    · rcases sound_closeScope s ha with hstop | ⟨ha₁, ho₁⟩
      · rw [if_pos hstop.failed]
        exact fun hf => absurd hstop (State.not_stopped hf)
      have hu₁ : (k.closeScope s).state.constantUsed = false := by
        rw [constantUsed_closeScope]
        exact hu
      generalize k.closeScope s = k₁ at *
      rw [if_neg ha₁.not_failed]
      rcases sound_pressOperator s .multiply ha₁ with hstop | hw
      · rw [if_pos hstop.failed]
        exact fun hf => absurd hstop (State.not_stopped hf)
      have hu₂ := constantUsed_pressOperator s .multiply ha₁ (.of_unused hu₁) hw.active.failed
      rw [State.awaitsConstant, ho₁] at hu₂
      rw [if_neg hw.active.not_failed]
      intro _
      exact (constantUsed_openWithFactor s f _).trans hu₂
    · exact fun _ => (constantUsed_openWithFactor s f _).trans hu

/-- A constant is typed at the end of the entry, or closes the scope that it is typed in.  Where
there is no room for one, a constant that a scope awaited is left behind. -/
theorem showsConstant_pressConstant (s : Settings) (c : Constant) (ha : k.state.Active)
    (h : k.state.ShowsConstant) (hroom : s.maxEntry ≤ 0 → k.state.awaitsConstant = false)
    (hf : (k.pressConstant s c).state.failed = false) :
    (k.pressConstant s c).state.ShowsConstant := by
  revert hf
  simp only [pressConstant]
  generalize hk₁ : (if (k.state.constantUsed || k.state.scope.isClosed || k.state.done) = true then
    k.pressOperator s .multiply else k) = k₁
  -- in front of the constant nothing is on display as a result, and where nothing is typed nothing
  -- is pending
  have hm : k₁.state.Stopped ∨ (k₁.state.failed = false ∧ k₁.state.done = false ∧
      (s.maxEntry ≤ k₁.state.buffer.length → k₁.state.constantUsed = false)) := by
    rcases multiplied_cases hk₁ ha with hstop | ⟨-, he, hw⟩ | ⟨hnot, rfl⟩
    · exact .inl hstop
    · refine .inr ⟨hw.active.failed, hw.idle.1, fun hfull => ?_⟩
      rw [hw.buffer] at hfull
      rw [he, constantUsed_pressOperator s .multiply ha h (he ▸ hw.active.failed)]
      exact hroom hfull
    · simp only [Bool.or_eq_false_iff] at hnot
      exact .inr ⟨ha.failed, hnot.2, fun _ => hnot.1.1⟩
  rcases hm with hstop | ⟨hf, hd, hunused⟩
  · rw [if_pos hstop.failed]
    exact fun hf => absurd hstop (State.not_stopped hf)
  rw [if_neg (by simp [hf])]
  split
  · rename_i hfull
    exact fun _ => .of_unused (hunused hfull)
  split
  · exact fun _ => .of_unused rfl
  · intro _
    refine ⟨fun _ => ?_, fun hd' => absurd (hd.symm.trans hd') Bool.false_ne_true⟩
    exact (endsInConstant_append _ (List.cons_ne_nil _ _)).trans c.isSymbol_symbol

/-! ## Editing -/

theorem endsInConstant_of_getLast? {t : Text} {c : Char} (h : t.getLast? = some c) :
    endsInConstant t = Constant.isSymbol c := by
  rw [endsInConstant, h]
  rfl

/-- A constant is pending again with the scope that it closed, and no more once it is taken back. -/
theorem showsConstant_pressBackspace (ha : k.state.Active) (h : k.state.ShowsConstant) :
    k.pressBackspace.state.ShowsConstant := by
  unfold pressBackspace
  split
  · exact h
  rename_i hd
  rw [Bool.not_eq_true] at hd
  split
  · rw [state_shortenTrail]
    exact h
  rename_i c hc
  split
  · rename_i hopen
    simp only [Bool.and_eq_true, decide_eq_true_eq] at hopen
    apply State.ShowsConstant.of_unused
    apply h.unused
    rw [ha.scope.endsInConstant_of_isOpen hopen.1, hopen.2]
    rfl
  rename_i hopen
  by_cases hparen : c = ')'
  · have hactive : (k.dropChar c).state.Active := by
      refine sound_dropChar ha hd hc ?_
      intro ho ht
      simp [ho, ht] at hopen
    subst hparen
    refine ⟨fun hu => ?_, fun hd' => absurd (hd.symm.trans hd') Bool.false_ne_true⟩
    rw [hactive.scope.endsInConstant_of_isOpen rfl]
    exact hu
  · apply State.ShowsConstant.of_unused
    rw [state_dropChar hparen]
    cases hsymbol : Constant.isSymbol c with
    | true => rfl
    | false => exact h.unused ((endsInConstant_of_getLast? hc).trans hsymbol)

theorem showsConstant_pressClearEntry (h : k.state.ShowsConstant) :
    k.pressClearEntry.state.ShowsConstant := by
  unfold pressClearEntry
  split
  · exact h
  · exact .of_unused rfl

theorem showsConstant_pressToggleSign (ha : k.state.Active) (h : k.state.ShowsConstant) :
    k.pressToggleSign.state.ShowsConstant := by
  have hactive := sound_pressToggleSign ha
  revert hactive
  simp only [pressToggleSign]
  split
  · exact fun _ => .of_unused rfl
  rename_i hd
  have hdone : ∀ {b : Bool}, k.state.done = true → b = false := fun hd' => absurd hd' hd
  split
  · rename_i ho
    split
    · exact fun _ => h
    · intro hactive
      refine ⟨fun hu => ?_, hdone⟩
      rw [hactive.scope.endsInConstant_of_isOpen ho]
      refine (endsInConstant_toggled _).trans ?_
      rw [← ha.scope.endsInConstant_of_isOpen ho]
      exact h.entry hu
  split
  · rename_i hc
    exact fun _ => .of_unused (h.unused (ha.scope.endsInConstant_of_isClosed hc))
  split
  · exact fun _ => h
  · exact fun _ => ⟨fun hu => (endsInConstant_toggled _).trans (h.entry hu), hdone⟩

/-! ## Every key -/

/-- the keys that take what was entered as an operand -/
def Key.takesOperand : Key → Bool
  | .operator _ | .function _ | .equals => true
  | .digit _ | .point | .constant _ | .backspace | .clearEntry | .clearAll | .toggleSign => false

/-- the keys that take an operand while the open scope awaits a constant; another constant is one of
them where there is no room to type it -/
def leavesConstant (s : Settings) (k : Keypad) (key : Key) : Bool :=
  k.state.awaitsConstant &&
    match key with
    | .constant _ => decide (s.maxEntry ≤ 0)
    | key => key.takesOperand

/-- behind a key that takes an operand, a constant is pending exactly where a scope awaited one, and
it is not shown -/
theorem constantUsed_handle (s : Settings) {key : Key} (hkey : key.takesOperand = true)
    (ha : k.state.Active) (h : k.state.ShowsConstant)
    (hf : (k.handle s key).state.failed = false) :
    (k.handle s key).state.constantUsed = k.state.awaitsConstant ∧
      (k.state.awaitsConstant = true → endsInConstant (k.handle s key).state.buffer = false) := by
  cases key with
  | operator op =>
    refine ⟨constantUsed_pressOperator s op ha h hf, fun _ => ?_⟩
    have hw := (sound_pressOperator s op ha).resolve_left (State.not_stopped hf)
    show endsInConstant (k.pressOperator s op).state.buffer = false
    rw [hw.buffer]
    rfl
  | function f => exact constantUsed_pressFunction s f ha h hf
  | equals =>
    cases hd : k.state.done with
    | true =>
      have hnone : k.state.awaitsConstant = false := by
        rw [State.awaitsConstant, (ha.done hd).2.1]
        rfl
      rw [hnone]
      refine ⟨?_, fun hno => absurd hno Bool.false_ne_true⟩
      show (k.pressEquals s).state.constantUsed = false
      rw [pressEquals, if_pos hd]
      exact h.done hd
    | false =>
      exact ⟨constantUsed_pressEquals s ha h hd hf, fun _ => endsInConstant_pressEquals hd hf⟩
  | digit | point | constant | backspace | clearEntry | clearAll | toggleSign => cases hkey

/-- any other key keeps what is pending on display -/
theorem showsConstant_handle (s : Settings) (key : Key) (ha : k.state.Active)
    (h : k.state.ShowsConstant) (hkey : k.leavesConstant s key = false)
    (hf : (k.handle s key).state.failed = false) : (k.handle s key).state.ShowsConstant := by
  have htakes : key.takesOperand = true → k.state.awaitsConstant = false →
      (k.handle s key).state.ShowsConstant := by
    intro htakes hnone
    apply State.ShowsConstant.of_unused
    rw [(constantUsed_handle s htakes ha h hf).1, hnone]
  cases key with
  | digit d => exact .of_unused (unused_pressDigit s d k)
  | point => exact .of_unused (unused_pressPoint s k)
  | operator op => exact htakes rfl (by simpa [leavesConstant, Key.takesOperand] using hkey)
  | function f => exact htakes rfl (by simpa [leavesConstant, Key.takesOperand] using hkey)
  | equals => exact htakes rfl (by simpa [leavesConstant, Key.takesOperand] using hkey)
  | constant c =>
    refine showsConstant_pressConstant s c ha h ?_ hf
    intro hroom
    simpa [leavesConstant, hroom] using hkey
  | backspace => exact showsConstant_pressBackspace ha h
  | clearEntry => exact showsConstant_pressClearEntry h
  | clearAll => exact .of_unused rfl
  | toggleSign => exact showsConstant_pressToggleSign ha h

/-- a constant that is left behind is pending, and not shown -/
theorem leftover_handle (s : Settings) {key : Key} (ha : k.state.Active) (h : k.state.ShowsConstant)
    (hkey : k.leavesConstant s key = true) (hf : (k.handle s key).state.failed = false) :
    (k.handle s key).state.constantUsed = true ∧
      endsInConstant (k.handle s key).state.buffer = false := by
  obtain ⟨hawaits, htakes⟩ := Bool.and_eq_true_iff.mp hkey
  have htaken : key.takesOperand = true → (k.handle s key).state.constantUsed = true ∧
      endsInConstant (k.handle s key).state.buffer = false := by
    intro ht
    obtain ⟨hu, hb⟩ := constantUsed_handle s ht ha h hf
    exact ⟨hu.trans hawaits, hb hawaits⟩
  cases key with
  | operator | function | equals => exact htaken rfl
  | constant c =>
    have hu : k.state.constantUsed = true := by
      rw [State.awaitsConstant_eq ha h, Bool.and_eq_true] at hawaits
      exact hawaits.2
    revert hf
    show (k.pressConstant s c).state.failed = false →
      (k.pressConstant s c).state.constantUsed = true ∧
        endsInConstant (k.pressConstant s c).state.buffer = false
    simp only [pressConstant, hu, Bool.true_or, if_true]
    rcases sound_pressOperator s .multiply ha with hstop | hw
    · rw [if_pos hstop.failed]
      exact fun hf => absurd hstop (State.not_stopped hf)
    have hmultiplied := constantUsed_pressOperator s .multiply ha h hw.active.failed
    generalize k.pressOperator s .multiply = k₁ at *
    have hfull : s.maxEntry ≤ k₁.state.buffer.length := by
      rw [hw.buffer]
      exact of_decide_eq_true htakes
    rw [if_neg hw.active.not_failed, if_pos hfull, hw.buffer]
    exact fun _ => ⟨hmultiplied.trans hawaits, rfl⟩
  | digit | point | backspace | clearEntry | clearAll | toggleSign => cases htakes

/-! ## Runs -/

/-- the keypads that are reached without leaving a constant behind -/
inductive Tidy (s : Settings) : Keypad → Prop
  | fresh (history : History) (errors : ErrorLog) : Tidy s (.fresh history errors)
  | press {k : Keypad} (key : Key) : Tidy s k → k.leavesConstant s key = false →
      Tidy s (k.press s key)

/-- whether none of the keys leaves a constant behind -/
def leavesNone (s : Settings) (k : Keypad) : List Key → Bool
  | [] => true
  | key :: keys => !k.leavesConstant s key && leavesNone s (k.press s key) keys

theorem tidy_run {s : Settings} {keys : List Key}
    (h : leavesNone s (.fresh .initial .initial) keys = true) : Tidy s (run s keys) := by
  have hfold : ∀ {k : Keypad}, Tidy s k → leavesNone s k keys = true →
      Tidy s (keys.foldl (press s) k) := by
    clear h
    induction keys with
    | nil => exact fun hk _ => hk
    | cons key keys ih =>
      intro k hk h
      obtain ⟨hkey, hkeys⟩ := Bool.and_eq_true_iff.mp h
      exact ih (hk.press key (by simpa using hkey)) hkeys
  exact hfold (.fresh .initial .initial) h

theorem Tidy.reached (h : Tidy s k) : Reached s k := by
  induction h with
  | fresh history errors => exact .fresh history errors
  | press key _ _ ih => exact ih.press key

theorem Tidy.showsConstant (h : Tidy s k) : k.state.failed = false → k.state.ShowsConstant := by
  induction h with
  | fresh => exact fun _ => .of_unused rfl
  | @press k key htidy hkey ih =>
    unfold Keypad.press
    split
    · rename_i hf
      rw [acknowledge, if_pos hf]
      exact fun _ => .of_unused rfl
    · rename_i hf
      rw [Bool.not_eq_true] at hf
      rw [state_refreshPreview]
      exact showsConstant_handle s key (htidy.reached.sound.active hf) (ih hf) hkey

/-- **A pending constant is shown, unless one was left behind**: on every run that leaves none and
shows no error, a pending constant is the end of the entry, and where nothing is being typed a
number needs no `×` in front of it.  A key that takes an operand leaves a constant pending exactly
where the open scope awaited it, and the keys that do so are the only ones behind which a pending
constant is not the end of the entry. -/
theorem Tidy.constant_shown (h : Tidy s k) (hf : k.state.failed = false) :
    (k.state.constantUsed = true → endsInConstant k.state.buffer = true) ∧
    (k.state.buffer = [] ∨ k.state.done = true → k.readyForNumber s = k) ∧
    ∀ key, (k.press s key).state.failed = false →
      (key.takesOperand = true →
        (k.press s key).state.constantUsed = k.leavesConstant s key) ∧
      (((k.press s key).state.constantUsed = true →
          endsInConstant (k.press s key).state.buffer = true) ↔
        k.leavesConstant s key = false) := by
  have hactive := h.reached.sound.active hf
  have hshows := h.showsConstant hf
  refine ⟨hshows.entry, ?_, ?_⟩
  · intro hnothing
    have hpending : k.state.scope.isClosed = false ∧ k.state.constantUsed = false := by
      rcases hnothing with hb | hd
      · have hsc := hactive.scope
        rw [hb] at hsc
        exact ⟨hsc.of_nil.2, hshows.unused (by rw [hb]; rfl)⟩
      · exact ⟨(hactive.done hd).2.2, hshows.done hd⟩
    rw [readyForNumber, hpending.1, hpending.2]
    rfl
  · intro key
    rw [Keypad.press, if_neg hactive.not_failed, state_refreshPreview]
    intro hf'
    constructor
    · intro htakes
      rw [(constantUsed_handle s htakes hactive hshows hf').1]
      cases key with
      | operator | function | equals => exact (Bool.and_true _).symm
      | digit | point | constant | backspace | clearEntry | clearAll | toggleSign => cases htakes
    · cases hkey : k.leavesConstant s key with
      | false =>
        have hshows' := showsConstant_handle s key hactive hshows hkey hf'
        exact ⟨fun _ => rfl, fun _ => hshows'.entry⟩
      | true =>
        obtain ⟨hu, hb⟩ := leftover_handle s hactive hshows hkey hf'
        refine ⟨fun hentry => ?_, fun hno => absurd hno.symm Bool.false_ne_true⟩
        rw [hentry hu] at hb
        cases hb

/-- `sin π`, its parenthesis taken back: the constant is pending at the end of `sin(π`, and an
operator would leave it behind, a digit not. -/
theorem Tidy.constant_shown_reopened :
    let s : Settings := { lib := sineOfPi }
    let k := run s [.function .sin, .constant .pi, .backspace]
    Tidy s k ∧ k.state.constantUsed = true ∧ endsInConstant k.state.buffer = true ∧
      (k.press s (.operator .add)).state.constantUsed = true ∧
      (((k.press s (.digit 2)).state.constantUsed = true →
        endsInConstant (k.press s (.digit 2)).state.buffer = true)) := by
  intro s k
  have htidy : Tidy s k := tidy_run (by decide +kernel)
  obtain ⟨hshown, -, hkeys⟩ := Tidy.constant_shown htidy (by decide +kernel)
  have hadd := (hkeys (.operator .add) (by decide +kernel)).1 rfl
  have hdigit := (hkeys (.digit 2) (by decide +kernel)).2
  refine ⟨htidy, by decide +kernel, hshown (by decide +kernel), ?_, ?_⟩
  · rw [hadd]
    decide +kernel
  · exact hdigit.mpr (by decide +kernel)

/-- `sin π`, its parenthesis taken back, and `+`: nothing is typed, and the constant is still
pending.  So `2` puts `×` in the place of `+`. -/
theorem leftover_constant :
    let s : Settings := { lib := sineOfPi }
    let k := run s [.function .sin, .constant .pi, .backspace, .operator .add]
    Reached s k ∧ k.state.failed = false ∧ k.state.constantUsed = true ∧
      endsInConstant k.state.buffer = false ∧ k.state.buffer = [] ∧
      k.state.operator = some .add ∧
      (k.press s (.digit 2)).state.operator = some .multiply ∧
      ((k.press s (.digit 2)).press s .equals).display.preview = "0.109607".toList := by
  intro s k
  exact ⟨reached_run _ _, by decide +kernel, by decide +kernel, by decide +kernel,
    by decide +kernel, by decide +kernel, by decide +kernel, by decide +kernel⟩

end PocketCalc.Keypad
