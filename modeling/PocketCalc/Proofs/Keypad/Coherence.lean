import PocketCalc.Proofs.Keypad.Pending
import PocketCalc.Proofs.Keypad.Recorded
import PocketCalc.Proofs.Keypad.ScopeShown

/-!
# The display goes with the state

Entry, trail and operator are written by separate steps of several keys.  On every run they say the
same as long as no error is shown: the entry is what is being typed, the trail ends in the operator
that is pending, and a result stands on both lines.

An operator joins the trail together with an entry that is not empty.  An empty entry gives no
operand unless a constant was left behind, so the invariant says that none is left where no operator
is pending.

* `Shown`                      the display goes with the state;
* `Coherent`                   that, and where no operator is pending a pending constant is shown;
* `shown_closeScope`           a closed scope is still shown;
* `coherent_pressOperator`, `coherent_finish`   where trail and operator change;
* `coherent_handle`            every key without an error;
* `Reached.coherent`           every run;
* `display_coherent`           what that says of the display, and that backspace leaves the trail.
-/

namespace PocketCalc.Keypad
open Text

variable {s : Settings} {k : Keypad}

/-! ## The invariant -/

/-- the display of a keypad goes with its state -/
structure Shown (k : Keypad) : Prop where
  entry : k.state.done = false → k.display.entry = entryLine k.state.buffer
  trail : k.state.done = false → k.display.trail.getLast? = k.state.operator.map Operator.symbol
  result : k.state.done = true → k.display.entry = Format.result k.state.result ∧
    k.display.preview = Format.result k.state.result

/-- the display goes with the state, and an empty entry has an operator in front or no operand -/
structure Coherent (k : Keypad) : Prop extends Shown k where
  constant : k.state.done = false → k.state.operator = none → k.state.ShowsConstant

theorem coherent_startOver (k : Keypad) : k.startOver.Coherent :=
  ⟨⟨fun _ => rfl, fun _ => rfl, nofun⟩, fun _ _ => .of_unused rfl⟩

/-- what is being typed is shown, whatever becomes of it, while the operator stays -/
theorem Shown.edited (h : k.Shown) (hd : k.state.done = false) {st : State} (hd' : st.done = false)
    (hop : st.operator = k.state.operator) : Shown (showEntry { k with state := st }) := by
  refine ⟨fun _ => rfl, fun _ => ?_, fun hd'' => ?_⟩
  · show k.display.trail.getLast? = st.operator.map Operator.symbol
    rw [hop]
    exact h.trail hd
  · exact absurd (hd'.symm.trans hd'') Bool.false_ne_true

theorem Coherent.edited (h : k.Coherent) (hd : k.state.done = false) {st : State}
    (hd' : st.done = false) (hop : st.operator = k.state.operator)
    (hc : k.state.operator = none → st.ShowsConstant) :
    Coherent (showEntry { k with state := st }) :=
  ⟨h.toShown.edited hd hd' hop, fun _ hnone => hc (hop.symm.trans hnone)⟩

/-- right behind an operator the entry is empty and the trail ends in the operator -/
theorem State.Awaiting.coherent {op : Operator} (hw : k.state.Awaiting op)
    (hentry : k.display.entry = blankLine) (htrail : k.display.trail.getLast? = some op.symbol) :
    k.Coherent := by
  refine ⟨⟨fun _ => ?_, fun _ => ?_, fun hd => ?_⟩, fun _ hnone => ?_⟩
  · rw [hentry, hw.buffer]
    rfl
  · rw [htrail, hw.operator]
    rfl
  · exact absurd (hw.idle.1.symm.trans hd) Bool.false_ne_true
  · rw [hw.operator] at hnone
    cases hnone

/-! ## The trail -/

theorem isSign_symbol (op : Operator) : Operator.isSign op.symbol = true := by
  rw [Operator.isSign, Operator.ofChar?_symbol]
  rfl

theorem getLast?_trailText (t : Text) (op : Operator) :
    (trailText (t ++ [op.symbol])).getLast? = some op.symbol := by
  have hlast : (t ++ [op.symbol]).getLast? = some op.symbol := List.getLast?_concat
  rw [trailText, hlast]
  simp only
  rw [if_pos (isSign_symbol op)]
  exact List.getLast?_concat

/-- an operator behind an entry that is not empty joins the trail -/
theorem getLast?_trail_awaitRight (op : Operator) (hb : k.state.buffer ≠ []) :
    (k.awaitRight op).display.trail.getLast? = some op.symbol := by
  show (if k.state.buffer = [] then _ else _ : Keypad).display.trail.getLast? = _
  rw [if_neg hb]
  show (k.display.trail ++ trailText (grouped k.state.buffer ++ [op.symbol])).getLast? = _
  rw [List.getLast?_append, getLast?_trailText]
  rfl

/-- an operator that takes the place of another one does so in the trail -/
theorem getLast?_trail_replaceOperator {op' : Operator} (op : Operator)
    (h : k.display.trail.getLast? = some op'.symbol) :
    (k.replaceOperator op).display.trail.getLast? = some op.symbol := by
  simp only [replaceOperator, h]
  rw [if_pos (isSign_symbol op')]
  exact List.getLast?_concat

theorem Shown.shortenTrail (h : k.Shown) (hd : k.state.done = false) : k.shortenTrail = k := by
  unfold Keypad.shortenTrail
  rw [h.trail hd]
  cases k.state.operator with
  | none => rfl
  | some op => exact if_pos (isSign_symbol op)

/-! ## Closing the scope -/

/-- an open scope that is closed without an error is still shown, and the entry is not empty -/
theorem exists_showEntry_closeScope (s : Settings) (ha : k.state.Active)
    (ho : k.state.scope.isOpen = true) (hf : (k.closeScope s).state.failed = false) :
    ∃ b sc, b ≠ [] ∧
      k.closeScope s = showEntry { k with state := { k.state with buffer := b, scope := sc } } := by
  obtain ⟨p, f, -, hset, hfn, -⟩ := ha.scope.of_isOpen ho
  rcases closeScope_cases (s := s) ho hset hfn with ⟨-, he⟩ | ⟨x, e, -, -, he⟩ | ⟨x, y, -, -, he⟩
  · rw [he] at hf
    cases hf
  · rw [he] at hf
    cases hf
  · rw [he]
    exact ⟨_, _, by simp, rfl⟩

theorem shown_closeScope (s : Settings) (ha : k.state.Active) (h : k.Shown)
    (hf : (k.closeScope s).state.failed = false) : (k.closeScope s).Shown := by
  cases ho : k.state.scope.isOpen with
  | false =>
    rw [closeScope_of_isOpen_eq_false ho]
    exact h
  | true =>
    have hd : k.state.done = false := by
      cases hd : k.state.done with
      | false => rfl
      | true =>
        have ho' := (ha.done hd).2.1
        rw [ho] at ho'
        cases ho'
    obtain ⟨b, sc, -, he⟩ := exists_showEntry_closeScope s ha ho hf
    rw [he]
    exact h.edited hd hd rfl

theorem buffer_takeOperand {k' : Keypad} {x : Float} (hx : k.takeOperand = (k', some x)) :
    k'.state.buffer = k.state.buffer := by
  rcases takeOperand_cases k with ⟨y, -, he⟩ | ⟨-, -, he⟩ | ⟨-, -, -, he⟩ | ⟨-, -, -, he⟩
  all_goals
    rw [he] at hx
    cases hx
  all_goals rfl

theorem buffer_commit (k : Keypad) : k.commit.state.buffer = k.state.buffer := by
  unfold commit
  simp only
  repeat' split
  all_goals rfl

/-- Unless the entry is empty behind an operator, an operand that is taken stands in it: an empty
entry with nothing in front gives none. -/
theorem buffer_ne_nil_of_takeOperand {k' : Keypad} {x : Float} (ha : k.state.Active)
    (h : k.Coherent) (hd : k.state.done = false) (hf : (k.closeScope s).state.failed = false)
    (hb : ¬ ((k.closeScope s).state.buffer = [] ∧ (k.closeScope s).state.operatorSet = true))
    (hx : (k.closeScope s).takeOperand = (k', some x)) : k'.state.buffer ≠ [] := by
  have hsame : k'.state.buffer = (k.closeScope s).state.buffer := buffer_takeOperand hx
  rw [hsame]
  cases ho : k.state.scope.isOpen with
  | true =>
    obtain ⟨b, sc, hne, he⟩ := exists_showEntry_closeScope s ha ho hf
    rw [he]
    exact hne
  | false =>
    rw [closeScope_of_isOpen_eq_false ho] at hb hx ⊢
    intro hnil
    -- behind nothing at all: the entry is no number, no scope was closed, no constant is pending
    have hset : k.state.operatorSet = false := by simpa [hnil] using hb
    have hnone : k.state.operator = none := by
      have hsome := ha.operator
      rw [hset] at hsome
      exact Option.isNone_iff_eq_none.mp (Option.isSome_eq_false_iff.mp hsome.symm)
    have hu : k.state.constantUsed = false :=
      (h.constant hd hnone).unused (by rw [hnil]; rfl)
    have hc : k.state.scope.isClosed = false := by
      have hsc := ha.scope
      rw [hnil] at hsc
      exact hsc.of_nil.2
    rcases takeOperand_cases k with ⟨y, hy, -⟩ | ⟨-, hc', -⟩ | ⟨-, -, hu', -⟩ | ⟨-, -, -, he⟩
    · rw [hnil] at hy
      cases hy
    · rw [hc] at hc'
      cases hc'
    · rw [hu] at hu'
      cases hu'
    · rw [he] at hx
      cases hx

/-! ## The operator keys and `=` -/

theorem coherent_pressOperator (s : Settings) (op : Operator) (ha : k.state.Active)
    (h : k.Coherent) (hf : (k.pressOperator s op).state.failed = false) :
    (k.pressOperator s op).Coherent := by
  have hw := (sound_pressOperator s op ha).resolve_left (State.not_stopped hf)
  -- the state is known to await its operand, so the two lines are what is left to show
  suffices hlines : (k.pressOperator s op).display.entry = blankLine ∧
      (k.pressOperator s op).display.trail.getLast? = some op.symbol from
    hw.coherent hlines.1 hlines.2
  revert hf
  clear hw
  simp only [pressOperator]
  rcases sound_closeScope s ha with hstop | ⟨ha₁, ho₁⟩
  · rw [if_pos hstop.failed]
    exact fun hf => absurd hstop (State.not_stopped hf)
  have hshown := shown_closeScope s ha h.toShown ha₁.failed
  have hentered : ∀ {k' : Keypad} {x : Float}, (k.closeScope s).state.done = false →
      ¬ ((k.closeScope s).state.buffer = [] ∧ (k.closeScope s).state.operatorSet = true) →
      (k.closeScope s).takeOperand = (k', some x) → k'.state.buffer ≠ [] := by
    intro k' x hd
    rw [done_closeScope] at hd
    exact buffer_ne_nil_of_takeOperand ha h hd ha₁.failed
  generalize k.closeScope s = k₁ at *
  rw [if_neg ha₁.not_failed]
  split
  · exact fun _ => ⟨rfl, List.getLast?_concat⟩
  rename_i hd
  rw [Bool.not_eq_true] at hd
  split
  · rename_i hb
    simp only [Bool.and_eq_true, decide_eq_true_eq] at hb
    obtain ⟨op', hop⟩ := Option.isSome_iff_exists.mp (ha₁.operator.symm.trans hb.2)
    intro _
    have hentry := hshown.entry hd
    rw [hb.1] at hentry
    exact ⟨hentry, getLast?_trail_replaceOperator op (by rw [hshown.trail hd, hop]; rfl)⟩
  rename_i hb
  simp only [Bool.and_eq_true, decide_eq_true_eq] at hb
  rcases sound_takeOperand ha₁ ho₁ with ⟨k', he, hstop⟩ | ⟨k', x, he, -⟩
  · rw [he]
    exact fun hf => absurd hstop (State.not_stopped hf)
  have hne : k'.state.buffer ≠ [] := hentered hd hb he
  rw [he]
  simp only
  split
  · exact fun _ => ⟨rfl, getLast?_trail_awaitRight op hne⟩
  split
  · rename_i hfailed
    exact fun hf => absurd (hf.symm.trans hfailed) Bool.false_ne_true
  · refine fun _ => ⟨rfl, getLast?_trail_awaitRight op ?_⟩
    rw [← buffer_commit { k' with state.second := x }] at hne
    exact hne

theorem coherent_finish (s : Settings) (k : Keypad) : (k.finish s).Coherent :=
  ⟨⟨nofun, nofun, fun _ => ⟨rfl, rfl⟩⟩, nofun⟩

theorem coherent_pressEquals (s : Settings) (h : k.Coherent)
    (hf : (k.pressEquals s).state.failed = false) : (k.pressEquals s).Coherent := by
  cases hd : k.state.done with
  | true =>
    rw [pressEquals, if_pos hd]
    exact h
  | false =>
    obtain ⟨k', he⟩ := exists_finish_of_pressEquals hd hf
    rw [he]
    exact coherent_finish s k'

/-! ## Typing -/

/-- what is typed behind a result starts a new entry -/
theorem coherent_started (h : k.Coherent) (hu : k.state.constantUsed = false) :
    (if k.state.done then k.startOver else k).Coherent ∧
      (if k.state.done then k.startOver else k).state.done = false ∧
      (if k.state.done then k.startOver else k).state.constantUsed = false := by
  split
  · exact ⟨coherent_startOver k, rfl, rfl⟩
  · rename_i hd
    exact ⟨h, by simpa using hd, hu⟩

theorem coherent_append (s : Settings) (h : k.Coherent) (hu : k.state.constantUsed = false)
    (t : Text) : (k.append s t).Coherent := by
  simp only [append]
  obtain ⟨h, hd, hu⟩ := coherent_started h hu
  generalize (if k.state.done then k.startOver else k) = k at h hd hu ⊢
  split
  · exact h
  · exact h.edited hd hd rfl fun _ => .of_unused hu

theorem coherent_readyForNumber (s : Settings) (ha : k.state.Active) (h : k.Coherent)
    (hf : (k.readyForNumber s).state.failed = false) : (k.readyForNumber s).Coherent := by
  revert hf
  unfold readyForNumber
  split
  · intro hf
    have h₁ := coherent_pressOperator s .multiply ha h hf
    exact ⟨⟨h₁.entry, h₁.trail, h₁.result⟩, fun _ _ => .of_unused rfl⟩
  · exact fun _ => h

theorem coherent_pressDigit (s : Settings) (d : Fin 10) (ha : k.state.Active) (h : k.Coherent)
    (hf : (k.pressDigit s d).state.failed = false) : (k.pressDigit s d).Coherent := by
  revert hf
  simp only [pressDigit]
  split
  · rename_i hfailed
    exact fun hf => absurd (hf.symm.trans hfailed) Bool.false_ne_true
  · rename_i hf
    intro _
    exact coherent_append s (coherent_readyForNumber s ha h (by simpa using hf))
      (unused_readyForNumber s k) _

theorem coherent_pressPoint (s : Settings) (ha : k.state.Active) (h : k.Coherent)
    (hf : (k.pressPoint s).state.failed = false) : (k.pressPoint s).Coherent := by
  revert hf
  simp only [pressPoint]
  split
  · rename_i hfailed
    exact fun hf => absurd (hf.symm.trans hfailed) Bool.false_ne_true
  rename_i hf
  obtain ⟨h, -, hu⟩ := coherent_started
    (coherent_readyForNumber s ha h (by simpa using hf)) (unused_readyForNumber s k)
  generalize (if (k.readyForNumber s).state.done then (k.readyForNumber s).startOver
    else k.readyForNumber s) = k at h hu ⊢
  intro _
  split
  · exact h
  · exact coherent_append s h hu _

/-! ## Functions and constants -/

theorem coherent_applyToResult (s : Settings) (f : Trig) (k : Keypad)
    (hf : (k.applyToResult s f).state.failed = false) : (k.applyToResult s f).Coherent := by
  obtain ⟨k', he⟩ := exists_finish_of_applyToResult hf
  rw [he]
  exact coherent_finish s k'

/-- a function behind an entry in which no constant is pending, unless an operator is -/
theorem coherent_openWithFactor (s : Settings) (f : Trig) (h : k.Coherent)
    (hd : k.state.done = false)
    (hu : k.state.operator = none → k.state.constantUsed = false) :
    (k.openWithFactor s f).Coherent := by
  rcases openWithFactor_cases s f k with he | he
  · rw [he]
    exact h
  · rw [he]
    exact h.edited hd hd rfl fun hnone => .of_unused (hu hnone)

theorem State.Awaiting.coherent_opened (s : Settings) (f : Trig) {op : Operator}
    (hw : k.state.Awaiting op) (h : k.Coherent) : (k.openWithFactor s f).Coherent := by
  refine coherent_openWithFactor s f h hw.idle.1 ?_
  intro hnone
  rw [hw.operator] at hnone
  cases hnone

theorem coherent_pressFunction (s : Settings) (f : Trig) (ha : k.state.Active) (h : k.Coherent)
    (hf : (k.pressFunction s f).state.failed = false) : (k.pressFunction s f).Coherent := by
  revert hf
  simp only [pressFunction]
  generalize hk₁ : (if (k.state.constantUsed || k.state.scope.isClosed) = true then
    k.pressOperator s .multiply else k) = k₁
  rcases multiplied_cases hk₁ ha with hstop | ⟨-, he, hw⟩ | ⟨hnot, rfl⟩
  · rw [if_pos hstop.failed]
    exact fun hf => absurd hstop (State.not_stopped hf)
  · rw [if_neg hw.active.not_failed, if_neg (by simp [hw.idle.1]), if_neg (by simp [hw.idle.2.1])]
    have h₁ : k₁.Coherent := by
      rw [he]
      exact coherent_pressOperator s .multiply ha h (he ▸ hw.active.failed)
    exact fun _ => hw.coherent_opened s f h₁
  have hu := (Bool.or_eq_false_iff.mp hnot).1
  rw [if_neg ha.not_failed]
  split
  · exact coherent_applyToResult s f k₁
  rename_i hd
  rw [Bool.not_eq_true] at hd
  split
  · rcases sound_closeScope s ha with hstop | ⟨ha₁, -⟩
    · rw [if_pos hstop.failed]
      exact fun hf => absurd hstop (State.not_stopped hf)
    have h₁ : (k₁.closeScope s).Coherent := by
      refine ⟨shown_closeScope s ha h.toShown ha₁.failed, fun _ _ => .of_unused ?_⟩
      rw [constantUsed_closeScope]
      exact hu
    rw [if_neg ha₁.not_failed]
    rcases sound_pressOperator s .multiply ha₁ with hstop | hw
    · rw [if_pos hstop.failed]
      exact fun hf => absurd hstop (State.not_stopped hf)
    have h₂ := coherent_pressOperator s .multiply ha₁ h₁ hw.active.failed
    rw [if_neg hw.active.not_failed]
    exact fun _ => hw.coherent_opened s f h₂
  · exact fun _ => coherent_openWithFactor s f h hd fun _ => hu

theorem coherent_pressConstant (s : Settings) (c : Constant) (ha : k.state.Active)
    (h : k.Coherent) (hf : (k.pressConstant s c).state.failed = false) :
    (k.pressConstant s c).Coherent := by
  revert hf
  simp only [pressConstant]
  generalize hk₁ : (if (k.state.constantUsed || k.state.scope.isClosed || k.state.done) = true then
    k.pressOperator s .multiply else k) = k₁
  have hm : k₁.state.Stopped ∨ (k₁.state.Active ∧ k₁.state.done = false ∧ k₁.Coherent) := by
    rcases multiplied_cases hk₁ ha with hstop | ⟨-, he, hw⟩ | ⟨hnot, rfl⟩
    · exact .inl hstop
    · refine .inr ⟨hw.active, hw.idle.1, ?_⟩
      rw [he]
      exact coherent_pressOperator s .multiply ha h (he ▸ hw.active.failed)
    · simp only [Bool.or_eq_false_iff] at hnot
      exact .inr ⟨ha, hnot.2, h⟩
  rcases hm with hstop | ⟨ha₁, hd, h₁⟩
  · rw [if_pos hstop.failed]
    exact fun hf => absurd hstop (State.not_stopped hf)
  rw [if_neg ha₁.not_failed]
  split
  · exact fun _ => h₁
  split
  · rename_i ho
    intro hf
    have hin := active_constantInScope c ha₁ hd ho
    obtain ⟨b, sc, -, he⟩ := exists_showEntry_closeScope
      (k := { k₁ with state := k₁.state.constantInScope c }) s hin ho hf
    show Coherent { closeScope s { k₁ with state := k₁.state.constantInScope c } with
      state.constantUsed := false }
    rw [he]
    have hedited : Coherent (showEntry { k₁ with
        state := { k₁.state.constantInScope c with
          buffer := b, scope := sc, constantUsed := false } }) :=
      h₁.edited hd hd rfl fun _ => .of_unused rfl
    exact hedited
  · intro _
    refine h₁.edited hd hd rfl fun _ => ⟨fun _ => ?_, ?_⟩
    · exact (endsInConstant_append _ (List.cons_ne_nil _ _)).trans c.isSymbol_symbol
    · exact fun hd' => absurd (hd.symm.trans hd') Bool.false_ne_true

/-! ## Editing -/

/-- a character taken back from the entry: the entry is shown, and no operation touched -/
theorem dropChar_eq_showEntry (k : Keypad) (c : Char) :
    k.dropChar c = showEntry { k with state := (k.dropChar c).state } ∧
      (k.dropChar c).state.done = k.state.done ∧
      (k.dropChar c).state.operator = k.state.operator := by
  by_cases hc : c = ')'
  · subst hc
    exact ⟨rfl, rfl, rfl⟩
  · refine ⟨?_, ?_, ?_⟩
    · unfold dropChar
      rw [if_neg hc]
      rfl
    · rw [state_dropChar hc]
    · rw [state_dropChar hc]

theorem coherent_pressBackspace (ha : k.state.Active) (h : k.Coherent) :
    k.pressBackspace.Coherent := by
  have hpending : k.state.done = false → k.state.operator = none →
      k.pressBackspace.state.ShowsConstant :=
    fun hd hnone => showsConstant_pressBackspace ha (h.constant hd hnone)
  revert hpending
  unfold pressBackspace
  split
  · exact fun _ => h
  rename_i hd
  rw [Bool.not_eq_true] at hd
  split
  · rw [h.toShown.shortenTrail hd]
    exact fun _ => h
  split
  · exact fun hpending => h.edited hd hd rfl (hpending hd)
  · rename_i c _ _
    obtain ⟨he, hdone, hop⟩ := dropChar_eq_showEntry k c
    intro hpending
    rw [he]
    exact h.edited hd (hdone.trans hd) hop (hpending hd)

theorem coherent_pressClearEntry (h : k.Coherent) : k.pressClearEntry.Coherent := by
  unfold pressClearEntry
  split
  · exact h
  · rename_i hd
    rw [Bool.not_eq_true] at hd
    exact h.edited hd hd rfl fun _ => .of_unused rfl

theorem coherent_pressToggleSign (ha : k.state.Active) (h : k.Coherent) :
    k.pressToggleSign.Coherent := by
  have hpending : k.state.done = false → k.state.operator = none →
      k.pressToggleSign.state.ShowsConstant :=
    fun hd hnone => showsConstant_pressToggleSign ha (h.constant hd hnone)
  revert hpending
  simp only [pressToggleSign]
  split
  · exact fun _ => (coherent_startOver k).edited rfl rfl rfl fun _ => .of_unused rfl
  rename_i hd
  rw [Bool.not_eq_true] at hd
  split
  · split
    · exact fun _ => h
    · exact fun hpending => h.edited hd hd rfl (hpending hd)
  split
  · exact fun hpending => h.edited hd hd rfl (hpending hd)
  split
  · exact fun _ => h
  · exact fun hpending => h.edited hd hd rfl (hpending hd)

/-! ## Every key -/

theorem coherent_handle (s : Settings) (key : Key) (ha : k.state.Active) (h : k.Coherent)
    (hf : (k.handle s key).state.failed = false) : (k.handle s key).Coherent := by
  cases key with
  | digit d => exact coherent_pressDigit s d ha h hf
  | point => exact coherent_pressPoint s ha h hf
  | operator op => exact coherent_pressOperator s op ha h hf
  | function f => exact coherent_pressFunction s f ha h hf
  | constant c => exact coherent_pressConstant s c ha h hf
  | equals => exact coherent_pressEquals s h hf
  | backspace => exact coherent_pressBackspace ha h
  | clearEntry => exact coherent_pressClearEntry h
  | clearAll => exact coherent_startOver k
  | toggleSign => exact coherent_pressToggleSign ha h

/-- the preview is not brought up to date over a result -/
theorem Coherent.refreshPreview (h : k.Coherent) (s : Settings) :
    (k.refreshPreview s).Coherent := by
  cases hd : k.state.done with
  | true =>
    have hsame : k.refreshPreview s = k := by
      simp only [Keypad.refreshPreview, hd, Bool.or_true, if_true]
    rw [hsame]
    exact h
  | false =>
    obtain ⟨t, ht⟩ := refreshPreview_eq_showPreview s k
    rw [ht]
    refine ⟨⟨h.entry, h.trail, fun hd' => ?_⟩, h.constant⟩
    exact absurd (hd.symm.trans hd') Bool.false_ne_true

/-! ## Runs -/

theorem Reached.coherent (h : Reached s k) : k.state.failed = false → k.Coherent := by
  induction h with
  | fresh history errors => exact fun _ => coherent_startOver (.fresh history errors)
  | @press k key hreached ih =>
    unfold Keypad.press
    split
    · rename_i hf
      rw [acknowledge, if_pos hf]
      exact fun _ => coherent_startOver k
    · rename_i hf
      rw [Bool.not_eq_true] at hf
      rw [state_refreshPreview]
      intro hf'
      have hactive := hreached.sound.active hf
      exact (coherent_handle s key hactive (ih hf) hf').refreshPreview s

/-! ## Backspace and the trail -/

theorem trail_pressBackspace (h : k.Shown) :
    k.pressBackspace.display.trail = k.display.trail := by
  unfold pressBackspace
  split
  · rfl
  rename_i hd
  rw [Bool.not_eq_true] at hd
  split
  · rw [h.shortenTrail hd]
  split
  · rfl
  · rename_i c _ _
    rw [(dropChar_eq_showEntry k c).1]
    rfl

/-- whatever comes with a backspace, it leaves the trail -/
theorem trail_receive_backspace (h : k.Shown) (hf : k.state.failed = false)
    (value : Option Argument) :
    (k.receive s ⟨"backspace", value⟩).display.trail = k.display.trail := by
  unfold receive
  cases happly : k.applyNamed s "backspace" value with
  | error f => rfl
  | ok k' =>
    obtain ⟨key, hkind, rfl⟩ := exists_press_of_applyNamed happly
    have hkey : key = .backspace := by
      cases key with
      | backspace => rfl
      | digit | point | operator | function | constant | equals | clearEntry | clearAll
      | toggleSign => simp [Key.kind, EventKind.word] at hkind
    simp only
    rw [hkey, press, if_neg (by simp [hf]), trail_refreshPreview]
    exact trail_pressBackspace h

/-! ## Main result -/

theorem entryLine_eq (t : Text) : entryLine t = if t = [] ∨ t = ['-'] then ['0'] else t := by
  unfold entryLine blankLine
  simp only [Bool.or_eq_true, decide_eq_true_eq]

/-- **The display goes with the state**: behind any events that leave no error, a result stands on
both lines with no operator pending.  Otherwise the entry is what is being typed, with zero for
nothing and for a lone sign, and the trail is empty just where no operator waits for its right
operand, else it ends in that operator.  So a backspace leaves the trail as it is. -/
theorem display_coherent (s : Settings) (history : History) (errors : ErrorLog)
    (es : List Signal) :
    let k := es.foldl (Program.after s) (.fresh history errors)
    k.state.failed = false →
      (k.state.done = true →
        k.display.entry = Format.result k.state.result ∧
        k.display.preview = Format.result k.state.result ∧
        k.state.operatorSet = false ∧ k.state.operator = none) ∧
      (k.state.done = false →
        k.display.entry =
          (if k.state.buffer = [] ∨ k.state.buffer = ['-'] then ['0'] else k.state.buffer) ∧
        (k.display.trail = [] ↔ k.state.operatorSet = false) ∧
        (k.state.operatorSet = true →
          ∃ op, k.state.operator = some op ∧ k.display.trail.getLast? = some op.symbol)) ∧
      ∀ value, (Program.after s k ⟨"backspace", value⟩).display.trail = k.display.trail := by
  intro k hf
  have hreached : Reached s k := Program.reached_foldl_after es (.fresh history errors)
  have hactive := hreached.sound.active hf
  have h := hreached.coherent hf
  refine ⟨fun hd => ?_, fun hd => ⟨?_, ?_, ?_⟩, fun value => ?_⟩
  · have hnone := (hactive.done hd).1
    obtain ⟨hentry, hpreview⟩ := h.result hd
    refine ⟨hentry, hpreview, ?_, hnone⟩
    rw [hactive.operator, hnone]
    rfl
  · rw [h.entry hd, entryLine_eq]
  · rw [← List.getLast?_eq_none_iff, h.trail hd, Option.map_eq_none_iff, hactive.operator,
      Option.isSome_eq_false_iff, Option.isNone_iff_eq_none]
  · intro hset
    obtain ⟨op, hop⟩ := Option.isSome_iff_exists.mp (hactive.operator.symm.trans hset)
    exact ⟨op, hop, by rw [h.trail hd, hop]; rfl⟩
  · rw [Program.after_eq hreached.sound]
    exact trail_receive_backspace h.toShown hf value

/-- `1 + 2`, its digit taken back: the entry is zero, and `+` is still the end of the trail -/
theorem display_coherent_sum :
    let s : Settings := {}
    let es : List Signal := [⟨"digit", some (.number 1)⟩, ⟨"operator", some (.text ['+'])⟩,
      ⟨"digit", some (.number 2)⟩, ⟨"backspace", none⟩]
    let k := es.foldl (Program.after s) (.fresh .initial .initial)
    k.state.failed = false ∧ k.state.done = false ∧ k.state.operatorSet = true ∧
      k.display.entry = ['0'] ∧ k.display.trail = ['1', '+'] ∧
      (∃ op, k.state.operator = some op ∧ k.display.trail.getLast? = some op.symbol) ∧
      (Program.after s k ⟨"backspace", none⟩).display.trail = ['1', '+'] := by
  intro s es k
  have hf : k.state.failed = false := by decide +kernel
  have hd : k.state.done = false := by decide +kernel
  have hset : k.state.operatorSet = true := by decide +kernel
  have htrail : k.display.trail = ['1', '+'] := by decide +kernel
  obtain ⟨-, htyping, hbackspace⟩ := display_coherent s .initial .initial es hf
  obtain ⟨hentry, -, hlast⟩ := htyping hd
  refine ⟨hf, hd, hset, ?_, htrail, hlast hset, (hbackspace none).trans htrail⟩
  rw [hentry]
  decide +kernel

end PocketCalc.Keypad
