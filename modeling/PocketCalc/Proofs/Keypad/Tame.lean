import PocketCalc.Proofs.Keypad.Coherence
import PocketCalc.Proofs.Magnitude

/-!
# What `=` can take

A pending operation is checked when it is carried out, and so is the value of a scope.  What is
entered is not: a number in the entry, or a multiple of a constant, is taken as it is read.  What is
typed stays small, so only a power of ten can make it an infinity, and no key types one.  The
number that a changed sign puts into the entry may have one, and digits can be typed behind it.

* `Usable t x`                `x` is no NaN, and finite unless a power of ten is written in `t`;
* `State.Tame`                the invariant: what `=` can take is usable;
* `tame_handle`, `Reached.tame`   every key keeps it, and so every run has it.
-/

namespace PocketCalc.Keypad
open Text

variable {s : Settings} {k : Keypad}

/-! ## Operands -/

theorem isNaN_neg (x : Float) : (-x).isNaN = x.isNaN := by
  show (-x).toModel.unpack.isNaN = x.toModel.unpack.isNaN
  rw [unpack_neg]
  cases x.toModel.unpack <;> rfl

/-- a multiple of a constant is a number -/
theorem isNaN_constant_mul (c : Constant) {x : Float} (hx : x.isNaN = false) :
    (c.value * x).isNaN = false := by
  cases hf : x.isFinite with
  | true => exact isNaN_mul_of_isFinite c.isFinite_value hf
  | false =>
    have hinf : ∃ sign, x.toModel.unpack = .infinity sign := by
      have hx : x.toModel.unpack.isNaN = false := hx
      have hf : x.toModel.unpack.isFinite = false := hf
      revert hx hf
      cases x.toModel.unpack with
      | infinity sign => exact fun _ _ => ⟨sign, rfl⟩
      | notANumber => exact fun hx => absurd hx.symm Bool.false_ne_true
      | zero | finite => exact fun _ hf => absurd hf.symm Bool.false_ne_true
    obtain ⟨sign, hsign⟩ := hinf
    rw [isNaN_mul, hsign]
    cases c <;> cases sign <;> decide +kernel

/-- an operand of the entry `t`: a number, finite unless a power of ten is written there -/
def Usable (t : Text) (x : Float) : Prop :=
  x.isNaN = false ∧ (x.isFinite = true ∨ writesPower t = true)

theorem Usable.of_isFinite {x : Float} (h : x.isFinite = true) (t : Text) : Usable t x :=
  ⟨isNaN_of_isFinite h, .inl h⟩

theorem usable_of_readNumber? {t : Text} {x : Float} (h : readNumber? t = some x)
    (hw : wholeDigits t ≤ 16) : Usable t x := by
  refine ⟨?_, ?_⟩
  · obtain ⟨d, -, rfl⟩ := Option.map_eq_some_iff.mp h
    exact d.isNaN_toFloat
  · cases hp : writesPower t with
    | true => exact .inr rfl
    | false => exact .inl (isFinite_of_wholeDigits h hp hw)

theorem writesPower_toggled (t : Text) : writesPower (toggled t) = writesPower t := by
  have hminus : ∀ r : Text, writesPower ('-' :: r) = writesPower r := by
    intro r
    cases r with
    | nil => rfl
    | cons c r => rfl
  unfold toggled
  split
  · exact (hminus _).symm
  · exact hminus _

theorem Usable.toggled {t : Text} {x : Float} (h : Usable t x) : Usable (toggled t) (-x) := by
  rw [Usable, isNaN_neg, isFinite_neg, writesPower_toggled]
  exact h

/-- a constant behind a short entry -/
theorem usable_constant (c : Constant) {t : Text} (ht : t.length ≤ 13) :
    Usable (t ++ [c.symbol]) (c.value * factorOf t) := by
  have hc : Moderate c.value := by cases c <;> decide +kernel
  have hpower : writesPower t = true → writesPower (t ++ [c.symbol]) = true := by
    intro h
    rw [writesPower, List.dropLast_concat]
    obtain ⟨d, hd, hdp⟩ := List.any_eq_true.mp h
    exact List.any_eq_true.mpr ⟨d, List.dropLast_subset t hd, hdp⟩
  unfold factorOf
  split
  · rename_i x hx
    have hnumber : x.isNaN = false := by
      obtain ⟨d, -, rfl⟩ := Option.map_eq_some_iff.mp hx
      exact d.isNaN_toFloat
    refine ⟨isNaN_constant_mul c hnumber, ?_⟩
    cases hp : writesPower t with
    | true => exact .inr (hpower hp)
    | false => exact .inl (isFinite_mul_of_moderate hc (moderate_of_length hx hp ht))
  · apply Usable.of_isFinite
    apply isFinite_mul_of_moderate hc
    split
    · decide +kernel
    · decide +kernel

/-! ## The invariant -/

/-- the operands that `=` can find are usable; a constant counts where it stands in the entry, with
no operator and no scope in front -/
structure State.Tame (st : State) : Prop where
  whole : wholeDigits st.buffer ≤ 16
  closed : st.scope.isClosed = true → st.scope.result.isFinite = true
  constant : st.done = false → st.operator = none → st.scope.isOpen = false →
    st.scope.isClosed = false → st.constantUsed = true → Usable st.buffer st.constant

/-- without a constant pending where it counts, and without a closed scope, the entry is all -/
theorem State.Tame.of_whole {st : State} (hw : wholeDigits st.buffer ≤ 16)
    (hc : st.scope.isClosed = false)
    (hu : st.done = true ∨ st.operator ≠ none ∨ st.scope.isOpen = true ∨ st.constantUsed = false) :
    st.Tame := by
  refine ⟨hw, fun hc' => absurd (hc.symm.trans hc') Bool.false_ne_true, ?_⟩
  intro hd hop ho _ hu'
  rcases hu with hd' | hop' | ho' | hnone
  · exact absurd (hd.symm.trans hd') Bool.false_ne_true
  · exact absurd hop hop'
  · exact absurd (ho.symm.trans ho') Bool.false_ne_true
  · exact absurd (hnone.symm.trans hu') Bool.false_ne_true

theorem tame_startOver (k : Keypad) : k.startOver.state.Tame :=
  .of_whole (Nat.zero_le _) rfl (.inr (.inr (.inr rfl)))

theorem State.Awaiting.tame {st : State} {op : Operator} (hw : st.Awaiting op) : st.Tame := by
  refine .of_whole ?_ hw.idle.2.2 (.inr (.inl ?_))
  · rw [hw.buffer]
    exact Nat.zero_le _
  · rw [hw.operator]
    exact Option.some_ne_none op

/-- what stands behind the digits in front -/
theorem wholeDigits_append_of_no_digit {t u : Text} (h : wholeDigits t ≤ 16)
    (hu : u.countP isValuedDigit = 0) : wholeDigits (t ++ u) ≤ 16 := by
  have hle := wholeDigits_append_le t u
  omega

theorem tame_closeScope (s : Settings) (ha : k.state.Active) (h : k.state.Tame)
    (hf : (k.closeScope s).state.failed = false) : (k.closeScope s).state.Tame := by
  cases ho : k.state.scope.isOpen with
  | false =>
    rw [closeScope_of_isOpen_eq_false ho]
    exact h
  | true =>
    obtain ⟨-, f, -, hset, hfn, -⟩ := ha.scope.of_isOpen ho
    rcases closeScope_cases (s := s) ho hset hfn with
      ⟨-, he⟩ | ⟨x, e, -, -, he⟩ | ⟨x, y, -, hy, he⟩
    · rw [he] at hf
      cases hf
    · rw [he] at hf
      cases hf
    · rw [he]
      refine ⟨wholeDigits_append_of_no_digit h.whole (by decide), fun _ => ?_, ?_⟩
      · exact Trig.isFinite_of_compute hy
      · exact fun _ _ _ hc => absurd hc.symm Bool.false_ne_true

theorem tame_pressOperator (s : Settings) (op : Operator) (ha : k.state.Active)
    (hf : (k.pressOperator s op).state.failed = false) : (k.pressOperator s op).state.Tame :=
  ((sound_pressOperator s op ha).resolve_left (State.not_stopped hf)).tame

theorem tame_finish (s : Settings) (k : Keypad) (hc : (k.finish s).state.scope.isClosed = false) :
    (k.finish s).state.Tame := by
  refine .of_whole ?_ hc (.inl rfl)
  rw [buffer_finish]
  split
  · exact wholeDigits_writeEntry_le _
  · exact Nat.zero_le _

/-! ## Typing -/

/-- what is typed behind a result starts a new entry -/
theorem tame_started (h : k.state.Tame) (hc : k.state.scope.isClosed = false)
    (hu : k.state.constantUsed = false) :
    (if k.state.done then k.startOver else k).state.Tame ∧
      (if k.state.done then k.startOver else k).state.scope.isClosed = false ∧
      (if k.state.done then k.startOver else k).state.constantUsed = false := by
  split
  · exact ⟨tame_startOver k, rfl, rfl⟩
  · exact ⟨h, hc, hu⟩

/-- what is typed stays short -/
theorem tame_append (hmax : s.maxEntry ≤ 13) (h : k.state.Tame)
    (hc : k.state.scope.isClosed = false) (hu : k.state.constantUsed = false) {t : Text}
    (ht : t.length ≤ 3) : (k.append s t).state.Tame := by
  simp only [append]
  obtain ⟨h, hc, hu⟩ := tame_started h hc hu
  generalize (if k.state.done then k.startOver else k) = k at h hc hu ⊢
  split
  · exact h
  · rename_i hroom
    refine .of_whole ?_ ?_ (.inr (.inr (.inr hu)))
    · refine (wholeDigits_le_length _).trans ?_
      show (k.state.buffer ++ t).length ≤ 16
      rw [List.length_append]
      omega
    · show (if k.state.scope.isOpen then _ else _ : Scope).isClosed = false
      split
      · exact hc
      · exact hc

/-- in front of a number no scope is closed and no constant pending -/
theorem tame_readyForNumber (s : Settings) (ha : k.state.Active) (h : k.state.Tame)
    (hf : (k.readyForNumber s).state.failed = false) :
    (k.readyForNumber s).state.Tame ∧ (k.readyForNumber s).state.scope.isClosed = false ∧
      (k.readyForNumber s).state.constantUsed = false := by
  revert hf
  unfold readyForNumber
  split
  · intro hf
    have htame := tame_pressOperator s .multiply ha hf
    exact ⟨.of_whole htame.whole rfl (.inr (.inr (.inr rfl))), rfl, rfl⟩
  · rename_i hready
    simp only [Bool.or_eq_true, not_or, Bool.not_eq_true] at hready
    exact fun _ => ⟨h, hready.1, hready.2⟩

theorem tame_pressDigit (hmax : s.maxEntry ≤ 13) (d : Fin 10) (ha : k.state.Active)
    (h : k.state.Tame) (hf : (k.pressDigit s d).state.failed = false) :
    (k.pressDigit s d).state.Tame := by
  obtain ⟨h, hc, hu⟩ := tame_readyForNumber s ha h (failed_readyForNumber_of_pressDigit hf)
  simp only [pressDigit]
  split
  · exact h
  · exact tame_append hmax h hc hu (Nat.le_add_left 1 2)

theorem tame_pressPoint (hmax : s.maxEntry ≤ 13) (ha : k.state.Active) (h : k.state.Tame)
    (hf : (k.pressPoint s).state.failed = false) : (k.pressPoint s).state.Tame := by
  obtain ⟨h, hc, hu⟩ := tame_readyForNumber s ha h (failed_readyForNumber_of_pressPoint hf)
  simp only [pressPoint]
  generalize k.readyForNumber s = k at h hc hu ⊢
  split
  · exact h
  obtain ⟨h, hc, hu⟩ := tame_started h hc hu
  generalize (if k.state.done then k.startOver else k) = k at h hc hu ⊢
  split
  · exact h
  · refine tame_append hmax h hc hu ?_
    split
    · decide
    · decide

/-! ## Functions and constants -/

theorem tame_openWithFactor (s : Settings) (f : Trig) (h : k.state.Tame) :
    (k.openWithFactor s f).state.Tame := by
  rcases openWithFactor_cases s f k with he | he
  · rw [he]
    exact h
  · rw [he]
    refine .of_whole ?_ rfl (.inr (.inr (.inl rfl)))
    have hname : f.name.countP isValuedDigit = 0 := by cases f <;> decide
    exact wholeDigits_append_of_no_digit (wholeDigits_append_of_no_digit h.whole hname) (by decide)

theorem tame_applyToResult (s : Settings) (f : Trig) (k : Keypad)
    (hf : (k.applyToResult s f).state.failed = false) : (k.applyToResult s f).state.Tame := by
  obtain ⟨-, -, hc⟩ := idle_applyToResult f hf
  obtain ⟨k', he⟩ := exists_finish_of_applyToResult hf
  rw [he] at hc ⊢
  exact tame_finish s k' hc

theorem tame_pressFunction (s : Settings) (f : Trig) (ha : k.state.Active) (h : k.state.Tame)
    (hf : (k.pressFunction s f).state.failed = false) : (k.pressFunction s f).state.Tame := by
  revert hf
  simp only [pressFunction]
  generalize hk₁ : (if (k.state.constantUsed || k.state.scope.isClosed) = true then
    k.pressOperator s .multiply else k) = k₁
  rcases multiplied_cases hk₁ ha with hstop | ⟨-, -, hw⟩ | ⟨-, rfl⟩
  · rw [if_pos hstop.failed]
    exact fun hf => absurd hstop (State.not_stopped hf)
  · rw [if_neg hw.active.not_failed, if_neg (by simp [hw.idle.1]), if_neg (by simp [hw.idle.2.1])]
    exact fun _ => tame_openWithFactor s f hw.tame
  rw [if_neg ha.not_failed]
  split
  · exact fun hf => tame_applyToResult s f _ hf
  split
  · rcases sound_closeScope s ha with hstop | ⟨ha₁, -⟩
    · rw [if_pos hstop.failed]
      exact fun hf => absurd hstop (State.not_stopped hf)
    rw [if_neg ha₁.not_failed]
    rcases sound_pressOperator s .multiply ha₁ with hstop | hw
    · rw [if_pos hstop.failed]
      exact fun hf => absurd hstop (State.not_stopped hf)
    rw [if_neg hw.active.not_failed]
    exact fun _ => tame_openWithFactor s f hw.tame
  · exact fun _ => tame_openWithFactor s f h

/-- a constant is typed behind a short entry -/
theorem tame_pressConstant (hmax : s.maxEntry ≤ 13) (c : Constant) (ha : k.state.Active)
    (h : k.state.Tame) (hf : (k.pressConstant s c).state.failed = false) :
    (k.pressConstant s c).state.Tame := by
  have hsymbol : ([c.symbol] : Text).countP isValuedDigit = 0 := by cases c <;> decide
  revert hf
  simp only [pressConstant]
  generalize hk₁ : (if (k.state.constantUsed || k.state.scope.isClosed || k.state.done) = true then
    k.pressOperator s .multiply else k) = k₁
  have hm : k₁.state.Stopped ∨ (k₁.state.Active ∧ k₁.state.Tame ∧ k₁.state.done = false ∧
      k₁.state.scope.isClosed = false) := by
    rcases multiplied_cases hk₁ ha with hstop | ⟨-, -, hw⟩ | ⟨hnot, rfl⟩
    · exact .inl hstop
    · exact .inr ⟨hw.active, hw.tame, hw.idle.1, hw.idle.2.2⟩
    · simp only [Bool.or_eq_false_iff] at hnot
      exact .inr ⟨ha, h, hnot.2, hnot.1.2⟩
  rcases hm with hstop | ⟨ha, h, hd, hc⟩
  · rw [if_pos hstop.failed]
    exact fun hf => absurd hstop (State.not_stopped hf)
  rw [if_neg ha.not_failed]
  split
  · exact fun _ => h
  rename_i hroom
  have hwhole : wholeDigits (k₁.state.buffer ++ [c.symbol]) ≤ 16 :=
    wholeDigits_append_of_no_digit h.whole hsymbol
  split
  · rename_i ho
    intro hf
    have hin : (k₁.state.constantInScope c).Tame :=
      .of_whole hwhole hc (.inr (.inr (.inl ho)))
    have hclosed := tame_closeScope (k := { k₁ with state := k₁.state.constantInScope c }) s
      (active_constantInScope c ha hd ho) hin hf
    exact ⟨hclosed.whole, hclosed.closed, fun _ _ _ _ hu => absurd hu Bool.false_ne_true⟩
  · rename_i ho
    rw [Bool.not_eq_true] at ho
    intro _
    refine ⟨hwhole, fun hc' => absurd (hc.symm.trans hc') Bool.false_ne_true, ?_⟩
    intro _ _ _ _ _
    have htyped : typedText k₁.state = k₁.state.buffer := by
      rw [typedText, ho]
      rfl
    show Usable (k₁.state.buffer ++ [c.symbol]) (c.value * factorOf (typedText k₁.state))
    rw [htyped]
    exact usable_constant c (by omega)

/-! ## Editing -/

/-- with nothing typed in it, an open scope has no constant pending in front of an operand -/
theorem tame_pressBackspace (ha : k.state.Active) (h : k.state.Tame)
    (hshows : k.state.done = false → k.state.operator = none → k.state.ShowsConstant) :
    k.pressBackspace.state.Tame := by
  unfold pressBackspace
  split
  · exact h
  rename_i hd
  rw [Bool.not_eq_true] at hd
  split
  · rw [state_shortenTrail]
    exact h
  rename_i c hlast
  split
  · rename_i hopen
    simp only [Bool.and_eq_true, decide_eq_true_eq] at hopen
    refine ⟨(wholeDigits_le_of_isPrefix (List.take_prefix _ _)).trans h.whole,
      fun hc => absurd hc Bool.false_ne_true, ?_⟩
    intro _ hop _ _ hu
    have hunused : k.state.constantUsed = false := by
      apply (hshows hd hop).unused
      rw [ha.scope.endsInConstant_of_isOpen hopen.1, hopen.2]
      rfl
    exact absurd (hunused.symm.trans hu) Bool.false_ne_true
  have hwhole : wholeDigits k.state.buffer.dropLast ≤ 16 :=
    (wholeDigits_le_of_isPrefix (List.dropLast_prefix _)).trans h.whole
  by_cases hparen : c = ')'
  · subst hparen
    exact .of_whole hwhole rfl (.inr (.inr (.inl rfl)))
  · rw [state_dropChar hparen]
    have hscope : k.state.scope.dropLast.isClosed = k.state.scope.isClosed ∧
        k.state.scope.dropLast.result = k.state.scope.result := by
      unfold Scope.dropLast
      split
      · exact ⟨rfl, rfl⟩
      · exact ⟨rfl, rfl⟩
    refine ⟨hwhole, fun hc => ?_, ?_⟩
    · show k.state.scope.dropLast.result.isFinite = true
      rw [hscope.2]
      exact h.closed (hscope.1.symm.trans hc)
    · intro _ hop _ _ hu
      -- the constant that is pending is the character taken back
      obtain ⟨hnot, hu⟩ := Bool.and_eq_true_iff.mp hu
      have hends := (hshows hd hop).entry hu
      rw [endsInConstant_of_getLast? hlast] at hends
      rw [hends] at hnot
      cases hnot

theorem tame_pressClearEntry (h : k.state.Tame) : k.pressClearEntry.state.Tame := by
  unfold pressClearEntry
  split
  · exact h
  · exact .of_whole (Nat.zero_le _) rfl (.inr (.inr (.inr rfl)))

theorem tame_pressToggleSign (ha : k.state.Active) (h : k.state.Tame) :
    k.pressToggleSign.state.Tame := by
  simp only [pressToggleSign]
  split
  · exact .of_whole (wholeDigits_writeEntry_le _) rfl (.inr (.inr (.inr rfl)))
  rename_i hd
  split
  · rename_i ho
    split
    · exact h
    · obtain ⟨p, f, hc, -, -, -, -, hb⟩ := ha.scope.of_isOpen ho
      refine .of_whole ?_ hc (.inr (.inr (.inl ho)))
      show wholeDigits (k.state.buffer.take _ ++ toggled k.state.scope.text) ≤ 16
      have hsame := wholeDigits_append_congr (wholeDigits_toggled k.state.scope.text)
        (p ++ f.name ++ ['('])
      rw [replaced_scope hb, List.append_cons, hsame, ← List.append_cons, ← hb]
      exact h.whole
  rename_i ho
  rw [Bool.not_eq_true] at ho
  split
  · rename_i hc
    refine ⟨?_, fun _ => ?_, fun _ _ _ hc' => absurd (hc'.symm.trans hc) Bool.false_ne_true⟩
    · show wholeDigits (toggled k.state.buffer) ≤ 16
      rw [wholeDigits_toggled]
      exact h.whole
    · show (-k.state.scope.result).isFinite = true
      rw [isFinite_neg]
      exact h.closed hc
  rename_i hc
  rw [Bool.not_eq_true] at hc
  split
  · exact h
  · refine ⟨?_, fun hc' => absurd (hc.symm.trans hc') Bool.false_ne_true, ?_⟩
    · show wholeDigits (toggled k.state.buffer) ≤ 16
      rw [wholeDigits_toggled]
      exact h.whole
    · intro hd' hop _ _ hu
      have hu : k.state.constantUsed = true := hu
      show Usable (toggled k.state.buffer)
        (if k.state.constantUsed = true then -k.state.constant else k.state.constant)
      rw [if_pos hu]
      exact (h.constant hd' hop ho hc hu).toggled

/-! ## Every key and every run -/

theorem tame_pressEquals (s : Settings) (ha : k.state.Active) (h : k.state.Tame)
    (hf : (k.pressEquals s).state.failed = false) : (k.pressEquals s).state.Tame := by
  cases hd : k.state.done with
  | true =>
    rw [pressEquals, if_pos hd]
    exact h
  | false =>
    obtain ⟨hactive, hdone⟩ := (sound_pressEquals s ha).resolve_left (State.not_stopped hf)
    have hc := (hactive.done hdone).2.2
    obtain ⟨k', he⟩ := exists_finish_of_pressEquals hd hf
    rw [he] at hc ⊢
    exact tame_finish s k' hc

theorem tame_handle (hmax : s.maxEntry ≤ 13) (key : Key) (ha : k.state.Active) (h : k.state.Tame)
    (hshows : k.state.done = false → k.state.operator = none → k.state.ShowsConstant)
    (hf : (k.handle s key).state.failed = false) : (k.handle s key).state.Tame := by
  cases key with
  | digit d => exact tame_pressDigit hmax d ha h hf
  | point => exact tame_pressPoint hmax ha h hf
  | operator op => exact tame_pressOperator s op ha hf
  | function f => exact tame_pressFunction s f ha h hf
  | constant c => exact tame_pressConstant hmax c ha h hf
  | equals => exact tame_pressEquals s ha h hf
  | backspace => exact tame_pressBackspace ha h hshows
  | clearEntry => exact tame_pressClearEntry h
  | clearAll => exact tame_startOver k
  | toggleSign => exact tame_pressToggleSign ha h

/-- on every run with entries of the usual length, the operands that `=` can find are usable -/
theorem Reached.tame (hmax : s.maxEntry ≤ 13) (h : Reached s k) :
    k.state.failed = false → k.state.Tame := by
  induction h with
  | fresh history errors => exact fun _ => tame_startOver (.fresh history errors)
  | @press k key hreached ih =>
    unfold Keypad.press
    split
    · rename_i hf
      rw [acknowledge, if_pos hf]
      exact fun _ => tame_startOver k
    · rename_i hf
      rw [Bool.not_eq_true] at hf
      rw [state_refreshPreview]
      exact tame_handle hmax key (hreached.sound.active hf) (ih hf) (hreached.coherent hf).constant

end PocketCalc.Keypad
