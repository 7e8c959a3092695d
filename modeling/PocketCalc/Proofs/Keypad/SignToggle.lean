import PocketCalc.Proofs.Keypad.ScopeValue
import PocketCalc.Proofs.Keypad.Coherence

/-!
# The sign changed twice

Changing the sign of an entry is adding or dropping a character in front, and the numbers that go
with the entry are negated along with it.  Twice that is nothing, unless the sign was all there was:
a lone sign is dropped, and nothing has no sign to change.

What is pending with a lone sign must not be negated with it.  A constant may be left behind by
another entry, so this takes an invariant of its own.

* `State.PlacesConstant`      a pending constant ends the entry, or nothing is typed yet;
* `State.signChanged`         the state with the sign changed;
* `Reached.placesConstant`    with every run;
* `State.signChanged_twice`, `State.signChanged_of_lone`   the state with the sign changed twice;
* `reshow`                    a keypad with another state on display;
* `press_toggleSign`          the key shows the state with the sign changed;
* `toggleSign_twice`          the key pressed twice;
* `lone_sign_lost`            a run on which it does not give the entry back.
-/

namespace PocketCalc.Keypad
open Text

variable {s : Settings} {k : Keypad}

/-! ## Where a pending constant stands -/

/-- A pending constant stands at the end of the entry, or it was left behind and nothing is typed:
the entry is empty, or a function was just opened on it. -/
def State.PlacesConstant (st : State) : Prop :=
  st.done = false → st.constantUsed = true →
    endsInConstant st.buffer = true ∨ st.buffer = [] ∨
      (st.scope.isOpen = true ∧ st.scope.text = [] ∧
        ∃ f, st.scope.function = some f ∧ st.buffer = f.name ++ ['('])

namespace State.PlacesConstant

theorem of_unused {st : State} (h : st.constantUsed = false) : st.PlacesConstant :=
  fun _ hu => absurd (h.symm.trans hu) Bool.false_ne_true

theorem of_nil {st : State} (h : st.buffer = []) : st.PlacesConstant := fun _ _ => .inr (.inl h)

theorem of_done {st : State} (h : st.done = true) : st.PlacesConstant :=
  fun hd _ => absurd (hd.symm.trans h) Bool.false_ne_true

/-- with a character at the end of the entry that is no constant, and no scope just opened, no
constant is pending -/
theorem unused {st : State} (h : st.PlacesConstant) (hd : st.done = false) {c : Char}
    (hlast : st.buffer.getLast? = some c) (hc : Constant.isSymbol c = false)
    (ho : ¬ (st.scope.isOpen = true ∧ st.scope.text = [])) : st.constantUsed = false := by
  cases hu : st.constantUsed with
  | false => rfl
  | true =>
    rcases h hd hu with hend | hnil | ⟨hopen, htext, -⟩
    · rw [endsInConstant_of_getLast? hlast, hc] at hend
      cases hend
    · rw [hnil] at hlast
      cases hlast
    · exact absurd ⟨hopen, htext⟩ ho

end State.PlacesConstant

/-- a function opened on an empty entry -/
theorem placesConstant_openWithFactor (s : Settings) (f : Trig) (h : k.state.buffer = []) :
    (k.openWithFactor s f).state.PlacesConstant := by
  rcases openWithFactor_cases s f k with he | he
  · rw [he]
    exact .of_nil h
  · rw [he]
    refine fun _ _ => .inr (.inr ⟨rfl, rfl, f, rfl, ?_⟩)
    show k.state.buffer ++ f.name ++ ['('] = f.name ++ ['(']
    rw [h, List.nil_append]

theorem placesConstant_pressFunction (s : Settings) (f : Trig) (ha : k.state.Active)
    (hf : (k.pressFunction s f).state.failed = false) :
    (k.pressFunction s f).state.PlacesConstant := by
  revert hf
  simp only [pressFunction]
  generalize hk₁ : (if (k.state.constantUsed || k.state.scope.isClosed) = true then
    k.pressOperator s .multiply else k) = k₁
  rcases multiplied_cases hk₁ ha with hstop | ⟨-, -, hw⟩ | ⟨hnot, rfl⟩
  · rw [if_pos hstop.failed]
    exact fun hf => absurd hstop (State.not_stopped hf)
  · rw [if_neg hw.active.not_failed, if_neg (by simp [hw.idle.1]), if_neg (by simp [hw.idle.2.1])]
    exact fun _ => placesConstant_openWithFactor s f hw.buffer
  rw [if_neg ha.not_failed]
  split
  · exact fun hf => .of_unused (unused_applyToResult s f k₁ hf)
  split
  · rcases sound_closeScope s ha with hstop | ⟨ha₁, -⟩
    · rw [if_pos hstop.failed]
      exact fun hf => absurd hstop (State.not_stopped hf)
    rw [if_neg ha₁.not_failed]
    rcases sound_pressOperator s .multiply ha₁ with hstop | hw
    · rw [if_pos hstop.failed]
      exact fun hf => absurd hstop (State.not_stopped hf)
    · rw [if_neg hw.active.not_failed]
      exact fun _ => placesConstant_openWithFactor s f hw.buffer
  · refine fun _ => .of_unused ?_
    rw [constantUsed_openWithFactor]
    exact (Bool.or_eq_false_iff.mp hnot).1

theorem placesConstant_pressConstant (s : Settings) (c : Constant) (ha : k.state.Active)
    (h : k.state.PlacesConstant) (hf : (k.pressConstant s c).state.failed = false) :
    (k.pressConstant s c).state.PlacesConstant := by
  revert hf
  simp only [pressConstant]
  generalize hk₁ : (if (k.state.constantUsed || k.state.scope.isClosed || k.state.done) = true then
    k.pressOperator s .multiply else k) = k₁
  have hm : k₁.state.Stopped ∨ (k₁.state.failed = false ∧ k₁.state.PlacesConstant) := by
    rcases multiplied_cases hk₁ ha with hstop | ⟨-, -, hw⟩ | ⟨-, rfl⟩
    · exact .inl hstop
    · exact .inr ⟨hw.active.failed, .of_nil hw.buffer⟩
    · exact .inr ⟨ha.failed, h⟩
  rcases hm with hstop | ⟨hf₁, h₁⟩
  · rw [if_pos hstop.failed]
    exact fun hf => absurd hstop (State.not_stopped hf)
  rw [if_neg (by simp [hf₁])]
  split
  · exact fun _ => h₁
  split
  · exact fun _ => .of_unused rfl
  · refine fun _ _ _ => .inl ?_
    exact (endsInConstant_append _ (List.cons_ne_nil _ _)).trans c.isSymbol_symbol

theorem placesConstant_pressBackspace (ha : k.state.Active) (h : k.state.PlacesConstant) :
    k.pressBackspace.state.PlacesConstant := by
  unfold pressBackspace
  split
  · exact h
  rename_i hd
  rw [Bool.not_eq_true] at hd
  split
  · rw [state_shortenTrail]
    exact h
  rename_i c hlast
  split
  · rename_i hopen
    simp only [Bool.and_eq_true, decide_eq_true_eq] at hopen
    -- a constant left behind: the function that was opened on it stood alone
    intro _ hu
    rcases h hd hu with hend | hnil | ⟨-, -, f, hfn, hb⟩
    · rw [ha.scope.endsInConstant_of_isOpen hopen.1, hopen.2] at hend
      cases hend
    · rw [hnil] at hlast
      cases hlast
    · right
      left
      show k.state.buffer.take
        (k.state.buffer.length - ((k.state.scope.function.elim 0 fun f => f.name.length) + 1)) = []
      rw [hfn, hb]
      simp
  rename_i hopen
  by_cases hparen : c = ')'
  · have hactive : (k.dropChar c).state.Active := by
      refine sound_dropChar ha hd hlast ?_
      intro ho ht
      simp [ho, ht] at hopen
    subst hparen
    refine fun _ hu => .inl ?_
    rw [hactive.scope.endsInConstant_of_isOpen rfl]
    exact hu
  · apply State.PlacesConstant.of_unused
    rw [state_dropChar hparen]
    cases hsymbol : Constant.isSymbol c with
    | true => rfl
    | false => exact h.unused hd hlast hsymbol (by simpa using hopen)

/-! ## The sign changed -/

/-- the state with the sign of what is being typed changed, and of the numbers that go with it -/
def State.signChanged (st : State) : State :=
  if st.scope.isOpen then
    if st.scope.text = [] then st
    else
      { st with
        buffer := st.buffer.take (st.buffer.length - st.scope.text.length) ++ toggled st.scope.text
        scope.text := toggled st.scope.text
        constant := if st.constantUsed then -st.constant else st.constant }
  else if st.scope.isClosed then
    { st with
      buffer := toggled st.buffer
      scope.factor := some (st.scope.factor.elim (-1) fun x => -x)
      scope.result := -st.scope.result }
  else if st.buffer = [] then st
  else
    { st with
      buffer := toggled st.buffer
      constant := if st.constantUsed then -st.constant else st.constant }

theorem state_pressToggleSign (hd : k.state.done = false) :
    k.pressToggleSign.state = k.state.signChanged := by
  simp only [pressToggleSign, State.signChanged]
  rw [if_neg (by simp [hd])]
  repeat' split
  all_goals rfl

theorem State.Active.signChanged {st : State} (ha : st.Active) (hd : st.done = false) :
    st.signChanged.Active := by
  have hactive := sound_pressToggleSign (k := { state := st }) ha
  rw [state_pressToggleSign hd] at hactive
  exact hactive

namespace State

variable {st : State}

theorem signChanged_of_isOpen (ho : st.scope.isOpen = true) (hne : st.scope.text ≠ []) :
    st.signChanged =
      { st with
        buffer := st.buffer.take (st.buffer.length - st.scope.text.length) ++ toggled st.scope.text
        scope.text := toggled st.scope.text
        constant := if st.constantUsed then -st.constant else st.constant } := by
  rw [signChanged, if_pos ho, if_neg hne]

theorem signChanged_of_isClosed (ho : st.scope.isOpen = false) (hc : st.scope.isClosed = true) :
    st.signChanged =
      { st with
        buffer := toggled st.buffer
        scope.factor := some (st.scope.factor.elim (-1) fun x => -x)
        scope.result := -st.scope.result } := by
  rw [signChanged, if_neg (by simp [ho]), if_pos hc]

theorem signChanged_of_idle (ho : st.scope.isOpen = false) (hc : st.scope.isClosed = false)
    (hne : st.buffer ≠ []) :
    st.signChanged =
      { st with
        buffer := toggled st.buffer
        constant := if st.constantUsed then -st.constant else st.constant } := by
  rw [signChanged, if_neg (by simp [ho]), if_neg (by simp [hc]), if_neg hne]

/-- nothing has no sign to change -/
theorem signChanged_of_nil (ha : st.Active) (h : typedText st = []) : st.signChanged = st := by
  unfold typedText at h
  split at h
  · rename_i ho
    rw [signChanged, if_pos ho, if_pos h]
  · rename_i ho
    have hsc := ha.scope
    rw [h] at hsc
    rw [signChanged, if_neg ho, if_neg (by simp [hsc.of_nil.2]), if_pos h]

@[simp]
theorem done_signChanged (st : State) : st.signChanged.done = st.done := by
  unfold signChanged
  repeat' split
  all_goals rfl

@[simp]
theorem constantUsed_signChanged (st : State) : st.signChanged.constantUsed = st.constantUsed := by
  unfold signChanged
  repeat' split
  all_goals rfl

theorem endsInConstant_signChanged (ha : st.Active) (hd : st.done = false) :
    endsInConstant st.signChanged.buffer = endsInConstant st.buffer := by
  have hactive := ha.signChanged hd
  by_cases hnil : typedText st = []
  · rw [signChanged_of_nil ha hnil]
  cases ho : st.scope.isOpen with
  | true =>
    rw [typedText, if_pos ho] at hnil
    rw [signChanged_of_isOpen ho hnil] at hactive ⊢
    rw [hactive.scope.endsInConstant_of_isOpen ho, ha.scope.endsInConstant_of_isOpen ho]
    exact endsInConstant_toggled _
  | false =>
    rw [typedText, if_neg (by simp [ho])] at hnil
    cases hc : st.scope.isClosed with
    | true =>
      rw [signChanged_of_isClosed ho hc]
      exact endsInConstant_toggled _
    | false =>
      rw [signChanged_of_idle ho hc hnil]
      exact endsInConstant_toggled _

theorem PlacesConstant.signChanged (ha : st.Active) (h : st.PlacesConstant) :
    st.signChanged.PlacesConstant := by
  intro hd hu
  rw [done_signChanged] at hd
  rw [constantUsed_signChanged] at hu
  have hplace := h hd hu
  have hnothing : typedText st = [] → endsInConstant st.signChanged.buffer = true ∨
      st.signChanged.buffer = [] ∨ (st.signChanged.scope.isOpen = true ∧
        st.signChanged.scope.text = [] ∧
        ∃ f, st.signChanged.scope.function = some f ∧ st.signChanged.buffer = f.name ++ ['(']) := by
    intro hnil
    rw [signChanged_of_nil ha hnil]
    exact hplace
  rcases hplace with hend | hnil | ⟨ho, htext, -⟩
  · exact .inl ((endsInConstant_signChanged ha hd).trans hend)
  · have hsc := ha.scope
    rw [hnil] at hsc
    exact hnothing ((if_neg (by simp [hsc.of_nil.1])).trans hnil)
  · exact hnothing ((if_pos ho).trans htext)

end State

/-! ## Every run -/

theorem placesConstant_handle (s : Settings) (key : Key) (ha : k.state.Active)
    (h : k.state.PlacesConstant) (hf : (k.handle s key).state.failed = false) :
    (k.handle s key).state.PlacesConstant := by
  cases key with
  | digit d => exact .of_unused (unused_pressDigit s d k)
  | point => exact .of_unused (unused_pressPoint s k)
  | operator op =>
    exact .of_nil ((sound_pressOperator s op ha).resolve_left (State.not_stopped hf)).buffer
  | function f => exact placesConstant_pressFunction s f ha hf
  | constant c => exact placesConstant_pressConstant s c ha h hf
  | equals => exact .of_done ((sound_pressEquals s ha).resolve_left (State.not_stopped hf)).2
  | backspace => exact placesConstant_pressBackspace ha h
  | clearEntry =>
    show k.pressClearEntry.state.PlacesConstant
    unfold pressClearEntry
    split
    · exact h
    · exact .of_unused rfl
  | clearAll => exact .of_unused rfl
  | toggleSign =>
    cases hd : k.state.done with
    | true =>
      refine .of_unused ?_
      show k.pressToggleSign.state.constantUsed = false
      simp only [pressToggleSign]
      rw [if_pos hd]
      rfl
    | false =>
      show k.pressToggleSign.state.PlacesConstant
      rw [state_pressToggleSign hd]
      exact h.signChanged ha

theorem Reached.placesConstant (h : Reached s k) :
    k.state.failed = false → k.state.PlacesConstant := by
  induction h with
  | fresh => exact fun _ => .of_unused rfl
  | @press k key hreached ih =>
    unfold Keypad.press
    split
    · rename_i hf
      rw [acknowledge, if_pos hf]
      exact fun _ => .of_unused rfl
    · rename_i hf
      rw [Bool.not_eq_true] at hf
      rw [state_refreshPreview]
      exact placesConstant_handle s key (hreached.sound.active hf) (ih hf)

/-- with a lone sign no constant is pending -/
theorem State.PlacesConstant.unused_of_lone {st : State} (h : st.PlacesConstant)
    (ha : st.Active) (hd : st.done = false) (hlone : typedText st = ['-']) :
    st.constantUsed = false := by
  have hlast : st.buffer.getLast? = some '-' := by
    unfold typedText at hlone
    split at hlone
    · rename_i ho
      obtain ⟨p, f, -, -, -, -, -, hb⟩ := ha.scope.of_isOpen ho
      rw [hb, hlone]
      simp
    · rw [hlone]
      rfl
  refine h.unused hd hlast (by decide) ?_
  rintro ⟨ho, htext⟩
  rw [typedText, if_pos ho, htext] at hlone
  cases hlone

/-! ## Twice -/

namespace State

variable {st : State}

theorem toggled_ne_nil {t : Text} (h : t ≠ ['-']) : toggled t ≠ [] := by
  unfold toggled
  split
  · rintro rfl
    exact h rfl
  · exact List.cons_ne_nil _ _

/-- The sign changed twice leaves the state as it was, unless there is nothing but the sign.  A
closed scope has its factor written out then, which it may not have had before. -/
theorem signChanged_twice (ha : st.Active) (hb : Headed st.buffer)
    (ht : st.scope.isOpen = true → Headed st.scope.text) (hne : typedText st ≠ ['-']) :
    st.signChanged.signChanged =
      { st with
        scope.factor :=
          if st.scope.isClosed then some (st.scope.factor.getD 1) else st.scope.factor } := by
  have hconstant : (if st.constantUsed then -(if st.constantUsed then -st.constant
      else st.constant) else if st.constantUsed then -st.constant else st.constant) =
      st.constant := by
    cases st.constantUsed with
    | false => rfl
    | true => exact float_neg_neg st.constant
  cases ho : st.scope.isOpen with
  | true =>
    obtain ⟨p, f, hc, -, -, -, -, hbuffer⟩ := ha.scope.of_isOpen ho
    have hsame : (if st.scope.isClosed then some (st.scope.factor.getD 1) else st.scope.factor) =
        st.scope.factor := by rw [hc]; rfl
    rw [hsame]
    by_cases hnil : st.scope.text = []
    · have hnothing := signChanged_of_nil ha ((if_pos ho).trans hnil)
      rw [hnothing, hnothing]
    rw [typedText, if_pos ho] at hne
    rw [signChanged_of_isOpen ho hnil]
    refine Eq.trans (signChanged_of_isOpen ho (toggled_ne_nil hne)) ?_
    simp only
    rw [hconstant, toggled_toggled (ht ho), replaced_scope (replaced_scope hbuffer _), ← hbuffer]
  | false =>
    rw [typedText, if_neg (by simp [ho])] at hne
    cases hc : st.scope.isClosed with
    | true =>
      have hfactor : (some ((some (st.scope.factor.elim (-1) fun x => -x)).elim (-1)
          fun x => -x) : Option Float) = some (st.scope.factor.getD 1) := by
        cases st.scope.factor with
        | none => exact congrArg some (float_neg_neg 1)
        | some v => exact congrArg some (float_neg_neg v)
      rw [signChanged_of_isClosed ho hc]
      refine Eq.trans (signChanged_of_isClosed ho hc) ?_
      simp only
      rw [toggled_toggled hb, float_neg_neg, hfactor, if_pos trivial]
    | false =>
      by_cases hnil : st.buffer = []
      · have hnothing := signChanged_of_nil ha ((if_neg (by simp [ho])).trans hnil)
        rw [hnothing, hnothing]
        rfl
      rw [signChanged_of_idle ho hc hnil]
      refine Eq.trans (signChanged_of_idle ho hc (toggled_ne_nil hne)) ?_
      simp only
      rw [hconstant, toggled_toggled hb]
      rfl

/-- A lone sign is dropped. -/
theorem signChanged_of_lone (ha : st.Active) (hu : st.constantUsed = false)
    (hlone : typedText st = ['-']) :
    st.signChanged =
      { st with
        buffer := st.buffer.dropLast
        scope.text := if st.scope.isOpen then [] else st.scope.text } := by
  cases ho : st.scope.isOpen with
  | true =>
    rw [typedText, if_pos ho] at hlone
    obtain ⟨p, f, -, -, -, -, -, hbuffer⟩ := ha.scope.of_isOpen ho
    rw [signChanged_of_isOpen ho (by simp [hlone]), hu]
    simp only
    rw [replaced_scope hbuffer, hbuffer, hlone]
    simp [toggled]
  | false =>
    rw [typedText, if_neg (by simp [ho])] at hlone
    have hc : st.scope.isClosed = false := by
      cases hc : st.scope.isClosed with
      | false => rfl
      | true =>
        obtain ⟨p, f, -, -, -, -, -, hbuffer⟩ := ha.scope.of_isClosed hc
        have hlast := congrArg List.getLast? (hlone.symm.trans hbuffer)
        rw [List.getLast?_concat] at hlast
        exact absurd hlast (by decide)
    rw [signChanged_of_idle ho hc (by simp [hlone]), hu, hlone]
    rfl

/-- and then there is no sign to change any more -/
theorem signChanged_twice_of_lone (ha : st.Active) (hd : st.done = false)
    (hu : st.constantUsed = false) (hlone : typedText st = ['-']) :
    st.signChanged.signChanged = st.signChanged := by
  apply signChanged_of_nil (ha.signChanged hd)
  rw [signChanged_of_lone ha hu hlone]
  unfold typedText at hlone ⊢
  cases ho : st.scope.isOpen with
  | true => simp only [if_true]
  | false =>
    rw [ho] at hlone
    simp only [Bool.false_eq_true, if_false] at hlone ⊢
    rw [hlone]
    rfl

end State

/-! ## What is shown -/

theorem showEntry_of_shown (h : k.Shown) (hd : k.state.done = false) : k.showEntry = k := by
  unfold showEntry
  rw [← h.entry hd]

theorem pressToggleSign_eq (h : k.Shown) (hd : k.state.done = false) :
    k.pressToggleSign = showEntry { k with state := k.state.signChanged } := by
  have hsame : k = showEntry { k with state := k.state } := (showEntry_of_shown h hd).symm
  simp only [pressToggleSign, State.signChanged]
  rw [if_neg (by simp [hd])]
  split
  · split
    · exact hsame
    · rfl
  split
  · rfl
  split
  · exact hsame
  · rfl

/-- the keypad with another state, and entry and preview of that -/
def reshow (s : Settings) (k : Keypad) (st : State) : Keypad :=
  { k with
    state := st
    display.entry := entryLine st.buffer
    display.preview := (previewText? s st).getD k.display.preview }

/-- the key changes the sign of what is being typed, and shows that -/
theorem press_toggleSign (ha : k.state.Active) (h : k.Shown) (hd : k.state.done = false) :
    k.press s .toggleSign = k.reshow s k.state.signChanged := by
  rw [press, if_neg ha.not_failed, handle, pressToggleSign_eq h hd, refreshPreview_eq,
    state_showEntry, reshow]
  cases previewText? s k.state.signChanged <;> rfl

/-- what is shown in between does not matter where it leaves the preview or the preview is new -/
theorem reshow_reshow {st st' : State}
    (h : previewText? s st' = none → previewText? s st = none) :
    (k.reshow s st).reshow s st' = k.reshow s st' := by
  unfold reshow
  cases hp : previewText? s st' with
  | some t => rfl
  | none => rw [h hp]; rfl

/-- a state with the preview that is on display -/
theorem reshow_of_upToDate {st : State} (h : k.UpToDate s)
    (hsame : previewText? s st = previewText? s k.state) :
    k.reshow s st = { k with state := st, display.entry := entryLine st.buffer } := by
  unfold reshow
  rw [hsame]
  cases hp : previewText? s k.state with
  | some t => rw [Option.getD_some, ← h t hp]
  | none => rfl

/-- the preview of a closed scope goes by its value, whatever is in front of it -/
theorem previewText?_factor {st : State} (ho : st.scope.isOpen = false) (v : Option Float) :
    previewText? s { st with scope.factor := v } = previewText? s st := by
  simp only [previewText?, ho, Bool.false_and, Bool.false_eq_true, if_false]
  rfl

theorem previewText?_signChanged_eq_none {st : State} (ha : st.Active) (hd : st.done = false)
    (ht : st.scope.isOpen = true → Headed st.scope.text) (h : previewText? s st = none) :
    previewText? s st.signChanged = none := by
  obtain ⟨ho, hnone⟩ := (previewText?_eq_none_iff ha hd).mp h
  by_cases hnil : st.scope.text = []
  · rw [State.signChanged_of_nil ha ((if_pos ho).trans hnil)]
    exact h
  refine (previewText?_eq_none_iff (ha.signChanged hd)
    ((State.done_signChanged st).trans hd)).mpr ?_
  rw [State.signChanged_of_isOpen ho hnil]
  refine ⟨ho, ?_⟩
  show readNumber? (toggled st.scope.text) = none
  rw [readNumber?_toggled (ht ho), hnone]
  rfl

/-- a lone sign says as little of a number as nothing does -/
theorem previewText?_signChanged_of_lone {st : State} (ha : st.Active) (hd : st.done = false)
    (hu : st.constantUsed = false) (hlone : typedText st = ['-']) :
    previewText? s st.signChanged = previewText? s st := by
  have hsign : readNumber? ['-'] = none := rfl
  cases ho : st.scope.isOpen with
  | true =>
    rw [typedText, if_pos ho] at hlone
    have hnone : previewText? s st = none :=
      (previewText?_eq_none_iff ha hd).mpr ⟨ho, by rw [hlone, hsign]⟩
    rw [hnone]
    exact previewText?_signChanged_eq_none ha hd (fun _ => hlone ▸ bare_nil) hnone
  | false =>
    rw [State.signChanged_of_lone ha hu hlone]
    rw [typedText, if_neg (by simp [ho])] at hlone
    simp only [previewText?, ho, hu, hlone, hsign, Bool.false_and, Bool.false_eq_true, if_false]
    rfl

/-! ## Main result -/

/-- **Changing the sign twice changes nothing**, unless there is nothing but a sign: on every run
the keypad is what it was, and so is every line of its display.  Only a closed scope has the factor
in front of it written out, which is one where there was none.  A lone sign is dropped by the first
key, and there is nothing left for the second one. -/
theorem toggleSign_twice (h : Reached s k) (hf : k.state.failed = false)
    (hd : k.state.done = false) :
    (typedText k.state ≠ ['-'] →
      (k.press s .toggleSign).press s .toggleSign =
        { k with
          state.scope.factor :=
            if k.state.scope.isClosed then some (k.state.scope.factor.getD 1)
            else k.state.scope.factor }) ∧
    (typedText k.state = ['-'] →
      (k.press s .toggleSign).press s .toggleSign =
        { k with
          state.buffer := k.state.buffer.dropLast
          state.scope.text := if k.state.scope.isOpen then [] else k.state.scope.text
          display.entry := entryLine k.state.buffer.dropLast }) := by
  have ha := h.sound.active hf
  have hshown := (h.coherent hf).toShown
  obtain ⟨p₀, hbehind⟩ := h.exists_openedBehind
  have htold := hbehind.told.2 hf
  have htext : k.state.scope.isOpen = true → Headed k.state.scope.text :=
    fun ho => (htold.scope (.inl ho)).text
  have hfirst := press_toggleSign (s := s) ha hshown hd
  have hs₁ : (k.press s .toggleSign).state = k.state.signChanged := by
    rw [hfirst]
    rfl
  have htwice : (k.press s .toggleSign).press s .toggleSign =
      (k.reshow s k.state.signChanged).reshow s k.state.signChanged.signChanged := by
    have ha₁ : (k.press s .toggleSign).state.Active := by
      rw [hs₁]
      exact ha.signChanged hd
    rw [press_toggleSign ha₁ ((h.press .toggleSign).coherent ha₁.failed).toShown
      (by rw [hs₁, State.done_signChanged, hd]), hs₁, hfirst]
  refine ⟨fun hne => ?_, fun hlone => ?_⟩
  · have hback := State.signChanged_twice ha htold.entry htext hne
    have hsame : previewText? s k.state.signChanged.signChanged = previewText? s k.state := by
      rw [hback]
      cases ho : k.state.scope.isOpen with
      | false => exact previewText?_factor ho _
      | true =>
        obtain ⟨-, -, hc, -⟩ := ha.scope.of_isOpen ho
        rw [hc]
        rfl
    rw [htwice, reshow_reshow, reshow_of_upToDate h.upToDate hsame, hback]
    · simp only
      rw [← hshown.entry hd]
    · rw [hsame]
      exact previewText?_signChanged_eq_none ha hd htext
  · have hu := (h.placesConstant hf).unused_of_lone ha hd hlone
    rw [htwice, State.signChanged_twice_of_lone ha hd hu hlone, reshow_reshow id,
      reshow_of_upToDate h.upToDate (previewText?_signChanged_of_lone ha hd hu hlone),
      State.signChanged_of_lone ha hu hlone]

/-- `sin π`, its parenthesis taken back: twice the sign is nothing, for the constant as well -/
theorem toggleSign_twice_reopened :
    let s : Settings := { lib := sineOfPi }
    let k := run s [.function .sin, .constant .pi, .backspace]
    k.state.buffer = "sin(π".toList ∧ k.state.constantUsed = true ∧
      (k.press s .toggleSign).state.constant = -k.state.constant ∧
      (k.press s .toggleSign).press s .toggleSign =
        { k with
          state.scope.factor :=
            if k.state.scope.isClosed then some (k.state.scope.factor.getD 1)
            else k.state.scope.factor } := by
  intro s k
  have htwice := toggleSign_twice (s := s) (k := k) (reached_run _ _) (by decide +kernel)
    (by decide +kernel)
  exact ⟨by decide +kernel, by decide +kernel, by decide +kernel, htwice.1 (by decide +kernel)⟩

/-- `-5`, its digit taken back: the sign is lost with the first key, and does not come back. -/
theorem lone_sign_lost :
    let s : Settings := {}
    let k := run s [.digit 5, .toggleSign, .backspace]
    Reached s k ∧ k.state.failed = false ∧ k.state.done = false ∧ k.state.buffer = ['-'] ∧
      ((k.press s .toggleSign).press s .toggleSign).state.buffer = [] := by
  intro s k
  exact ⟨reached_run _ _, by decide +kernel, by decide +kernel, by decide +kernel,
    by decide +kernel⟩

end PocketCalc.Keypad
