import PocketCalc.Proofs.Keypad.Tame

/-!
# Results

A result comes from `=`, or from a function that is applied to the result before it.  What is
computed is finite, and so is the value of a scope.  Only where nothing is pending the result is the
operand itself, and that one is an infinity if the entry denotes one.

* `State.Boundless st x`          the entry denotes the infinity `x`, and nothing is pending;
* `result_pressEquals_cases`      what the result of `=` can be;
* `result_pressEquals`            it is finite, or the entry was boundless;
* `isFinite_result_applyToResult`   a function behind a result comes to a finite one;
* `done_handle`                   a result is on display behind no other key, and with no error;
* `exists_equals_of_done`         the `=` that an infinity comes from, on every run;
* `press_equals_cases`            what `=` leaves on display and in the history;
* `result_finite_or_boundless`    the outcomes of `=`, and where results come from;
* `infinite_result`               a run that ends in an infinity.
-/

namespace PocketCalc.Keypad
open Text

variable {s : Settings} {k : Keypad}

/-! ## The result of `=` -/

/-- the entry denotes the infinity `x`, and neither an operator nor a scope is pending -/
structure State.Boundless (st : State) (x : Float) : Prop where
  operator : st.operator = none
  isOpen : st.scope.isOpen = false
  isClosed : st.scope.isClosed = false
  /-- a numeral, or a constant behind one -/
  operand : readNumber? st.buffer = some x ∨
    endsInConstant st.buffer = true ∧ st.constantUsed = true ∧ st.constant = x
  power : writesPower st.buffer = true
  isInf : x.isInf = true

theorem Usable.isFinite_or_isInf {t : Text} {x : Float} (h : Usable t x) :
    x.isFinite = true ∨ writesPower t = true ∧ x.isInf = true := by
  cases hf : x.isFinite with
  | true => exact .inl rfl
  | false =>
    have hinf : x.isInf = true := by
      rw [isFinite_eq, h.1] at hf
      simpa using hf
    exact .inr ⟨h.2.resolve_left (by simp [hf]), hinf⟩

/-- an open scope is closed on a finite value, unless there is an error -/
theorem closed_closeScope (ha : k.state.Active) (ho : k.state.scope.isOpen = true)
    (hf : (k.closeScope s).state.failed = false) :
    (k.closeScope s).state.scope.isClosed = true ∧
      (k.closeScope s).state.scope.result.isFinite = true := by
  obtain ⟨-, f, -, hset, hfn, -⟩ := ha.scope.of_isOpen ho
  rcases closeScope_cases (s := s) ho hset hfn with ⟨-, he⟩ | ⟨x, e, -, -, he⟩ | ⟨x, y, -, hy, he⟩
  · rw [he] at hf
    cases hf
  · rw [he] at hf
    cases hf
  · rw [he]
    exact ⟨rfl, (eq_of_scopeValue hy).2⟩

/-- so where no scope is closed there was none -/
theorem closeScope_eq_self (ha : k.state.Active) (hf : (k.closeScope s).state.failed = false)
    (hc : (k.closeScope s).state.scope.isClosed = false) :
    k.closeScope s = k ∧ k.state.scope.isOpen = false := by
  cases ho : k.state.scope.isOpen with
  | false => exact ⟨closeScope_of_isOpen_eq_false ho, rfl⟩
  | true => exact absurd (hc.symm.trans (closed_closeScope ha ho hf).1) Bool.false_ne_true

/-- the operand is the value of a closed scope, or else the number in the entry or the constant -/
theorem takeOperand_eq_some {k' : Keypad} {x : Float} (ha : k.state.Active)
    (htake : k.takeOperand = (k', some x)) :
    k.state.scope.isClosed = true ∧ k.state.scope.result = x ∨
      k.state.scope.isClosed = false ∧
        (readNumber? k.state.buffer = some x ∨
          k.state.constantUsed = true ∧ k.state.constant = x) := by
  rcases takeOperand_cases k with ⟨y, hy, he⟩ | ⟨-, hc, he⟩ | ⟨-, hc, hu, he⟩ | ⟨-, -, -, he⟩
  all_goals
    rw [he] at htake
    cases htake
  · refine .inr ⟨?_, .inl hy⟩
    cases hc : k.state.scope.isClosed with
    | false => rfl
    | true =>
      rw [ha.scope.readNumber? (.inr hc)] at hy
      cases hy
  · exact .inl ⟨hc, rfl⟩
  · exact .inr ⟨hc, .inr ⟨hu, rfl⟩⟩

/-- what an operation comes to without an error was checked -/
theorem isFinite_result_commit (hop : k.state.operator.isSome = true)
    (hf : k.commit.state.failed = false) : k.commit.state.result.isFinite = true := by
  obtain ⟨op, hop⟩ := Option.isSome_iff_exists.mp hop
  rcases commit_cases hop with ⟨f, -, he⟩ | ⟨x, hx, he⟩
  · rw [he] at hf
    cases hf
  · rw [he]
    exact Operator.isFinite_of_compute hx

/-- The result of `=` without an error is finite if an operation is carried out.  Else it is the
value of the scope, or without a scope the number in the entry or the constant. -/
theorem result_pressEquals_cases (ha : k.state.Active) (hd : k.state.done = false)
    (hf : (k.pressEquals s).state.failed = false) :
    let x := (k.pressEquals s).state.result
    let k₁ := k.closeScope s
    k₁.state.failed = false ∧
      (x.isFinite = true ∨
        k₁.state.scope.isClosed = true ∧ k₁.state.scope.result = x ∨
        k₁ = k ∧ k.state.operator = none ∧ k.state.scope.isOpen = false ∧
          k.state.scope.isClosed = false ∧
          (readNumber? k.state.buffer = some x ∨
            k.state.constantUsed = true ∧ k.state.constant = x)) := by
  revert hf
  simp only [pressEquals]
  rw [if_neg (by simp [hd])]
  rcases sound_closeScope s ha with hstop | ⟨ha₁, ho₁⟩
  · rw [if_pos hstop.failed]
    exact fun hf => absurd hstop (State.not_stopped hf)
  rw [if_neg ha₁.not_failed]
  rcases sound_takeOperand ha₁ ho₁ with ⟨k', he, hstop⟩ | ⟨k', x, he, -, -, hset, hop⟩
  · rw [he]
    exact fun hf => absurd hstop (State.not_stopped hf)
  rw [he]
  simp only
  split
  · rename_i hnot
    intro _
    refine ⟨ha₁.failed, .inr ?_⟩
    have hnone : (k.closeScope s).state.operator = none := by
      rw [← Option.not_isSome_iff_eq_none, ← ha₁.operator, ← hset]
      simpa using hnot
    rcases takeOperand_eq_some ha₁ he with hscope | ⟨hc, hx⟩
    · exact .inl hscope
    · obtain ⟨hself, ho⟩ := closeScope_eq_self ha ha₁.failed hc
      rw [hself] at hc hnone hx
      exact .inr ⟨hself, hnone, ho, hc, hx⟩
  · rename_i hnot
    have hsome : k'.state.operator.isSome = true := by
      rw [hop, ← ha₁.operator, ← hset]
      simpa using hnot
    split
    · rename_i hfailed
      exact fun hf => absurd (hf.symm.trans hfailed) Bool.false_ne_true
    · exact fun hf => ⟨ha₁.failed, .inl (isFinite_result_commit hsome hf)⟩

/-- `=` comes to a finite result, unless the entry denotes an infinity and nothing is pending -/
theorem result_pressEquals (ha : k.state.Active) (h : k.state.Tame)
    (hshows : k.state.operator = none → k.state.ShowsConstant) (hd : k.state.done = false)
    (hf : (k.pressEquals s).state.failed = false) :
    (k.pressEquals s).state.result.isFinite = true ∨
      k.state.Boundless (k.pressEquals s).state.result := by
  obtain ⟨hf₁, hfinite | ⟨hc, hx⟩ | ⟨-, hnone, ho, hc, hx | ⟨hu, hx⟩⟩⟩ :=
    result_pressEquals_cases ha hd hf
  · exact .inl hfinite
  · rw [← hx]
    exact .inl ((tame_closeScope s ha h hf₁).closed hc)
  · exact (usable_of_readNumber? hx h.whole).isFinite_or_isInf.imp_right fun ⟨hpower, hinf⟩ =>
      ⟨hnone, ho, hc, .inl hx, hpower, hinf⟩
  · have husable := h.constant hd hnone ho hc hu
    rw [hx] at husable
    exact husable.isFinite_or_isInf.imp_right fun ⟨hpower, hinf⟩ =>
      ⟨hnone, ho, hc, .inr ⟨(hshows hnone).entry hu, hu, hx⟩, hpower, hinf⟩

theorem isOpen_append (s : Settings) (hd : k.state.done = false) (t : Text) :
    (k.append s t).state.scope.isOpen = k.state.scope.isOpen := by
  simp only [append, hd, Bool.false_eq_true, if_false]
  split
  · rfl
  · show (if k.state.scope.isOpen then _ else _ : Scope).isOpen = _
    split
    · rfl
    · rfl

/-- a function applied to a result has a scope of its own, and its value is the result -/
theorem isFinite_result_applyToResult {f : Trig}
    (hf : (k.applyToResult s f).state.failed = false) :
    (k.applyToResult s f).state.result.isFinite = true := by
  revert hf
  simp only [applyToResult]
  have hactive := active_seeded s f k
  generalize hk₀ : append s _ (Format.result k.state.result) = k₀ at hactive ⊢
  have hd₀ : k₀.state.done = false := by
    rw [← hk₀]
    exact done_append s _ _
  have ho₀ : k₀.state.scope.isOpen = true := by
    rw [← hk₀, isOpen_append s rfl]
    rfl
  rcases sound_closeScope s hactive with hstop | ⟨ha, ho⟩
  · rw [if_pos hstop.failed]
    exact fun hf => absurd hstop (State.not_stopped hf)
  obtain ⟨hclosed, hfinite⟩ := closed_closeScope hactive ho₀ ha.failed
  rw [if_neg ha.not_failed]
  have hd : (k₀.closeScope s).state.done = false := (done_closeScope s k₀).trans hd₀
  generalize k₀.closeScope s = k₁ at *
  intro hf
  obtain ⟨-, hx | ⟨-, hx⟩ | ⟨-, -, -, hc, -⟩⟩ := result_pressEquals_cases ha hd hf
  · exact hx
  · rw [← hx, closeScope_of_isOpen_eq_false ho]
    exact hfinite
  · exact absurd (hc.symm.trans hclosed) Bool.false_ne_true

/-! ## Keys behind a result -/

/-- an operator ends the result on display, even where it is an error -/
theorem done_pressOperator (s : Settings) (op : Operator) (ha : k.state.Active) :
    (k.pressOperator s op).state.done = false := by
  cases hd : k.state.done with
  | true =>
    rw [pressOperator_of_done ha hd]
    rfl
  | false =>
    have hd₁ : (k.closeScope s).state.done = false := (done_closeScope s k).trans hd
    simp only [pressOperator]
    generalize k.closeScope s = k₁ at hd₁ ⊢
    split
    · exact hd₁
    rw [if_neg (by simp [hd₁])]
    split
    · exact hd₁
    have hd₂ : k₁.takeOperand.1.state.done = false := (done_takeOperand k₁).trans hd₁
    generalize k₁.takeOperand = taken at hd₂ ⊢
    obtain ⟨k₂, x⟩ := taken
    cases x with
    | none => exact hd₂
    | some x =>
      simp only
      split
      · rw [state_awaitRight]
        exact hd₂
      split
      · exact (done_commit _).trans hd₂
      · rw [state_awaitRight]
        exact (done_commit _).trans hd₂

theorem done_multiplied {b : Bool} {k₁ : Keypad}
    (hk₁ : (if b then k.pressOperator s .multiply else k) = k₁) (ha : k.state.Active) :
    k₁.state.done = false ∨ b = false ∧ k₁ = k := by
  cases b with
  | false => exact .inr ⟨rfl, hk₁.symm⟩
  | true =>
    rw [← hk₁]
    exact .inl (done_pressOperator s .multiply ha)

theorem done_readyForNumber (ha : k.state.Active) (hf : (k.readyForNumber s).state.failed = true) :
    (k.readyForNumber s).state.done = false := by
  revert hf
  unfold readyForNumber
  split
  · exact fun _ => done_pressOperator s .multiply ha
  · exact fun hf => absurd hf ha.not_failed

theorem done_pressDigit (s : Settings) (d : Fin 10) (ha : k.state.Active) :
    (k.pressDigit s d).state.done = false := by
  simp only [pressDigit]
  split
  · rename_i hf
    exact done_readyForNumber ha hf
  · exact done_append s _ _

theorem done_pressPoint (s : Settings) (ha : k.state.Active) :
    (k.pressPoint s).state.done = false := by
  simp only [pressPoint]
  split
  · rename_i hf
    exact done_readyForNumber ha hf
  generalize hk₁ : (if (k.readyForNumber s).state.done then (k.readyForNumber s).startOver
    else k.readyForNumber s) = k₁
  split
  · rw [← hk₁]
    split
    · rfl
    · rename_i hd
      simpa using hd
  · exact done_append s _ _

@[simp]
theorem done_openWithFactor (s : Settings) (f : Trig) (k : Keypad) :
    (k.openWithFactor s f).state.done = k.state.done := by
  rcases openWithFactor_cases s f k with he | he
  · rw [he]
  · rw [he]
    rfl

/-- a function leaves a result on display only where it is applied to one -/
theorem pressFunction_of_done (s : Settings) (f : Trig) (ha : k.state.Active)
    (hd : (k.pressFunction s f).state.done = true) : k.pressFunction s f = k.applyToResult s f := by
  revert hd
  simp only [pressFunction]
  generalize hk₁ : (if (k.state.constantUsed || k.state.scope.isClosed) = true then
    k.pressOperator s .multiply else k) = k₁
  have hm : k₁.state.done = false ∨ k₁ = k := (done_multiplied hk₁ ha).imp_right And.right
  have ha₁ : k₁.state.failed = true ∨ k₁.state.Active := by
    rcases multiplied_cases hk₁ ha with hstop | ⟨-, -, hw⟩ | ⟨-, rfl⟩
    · exact .inl hstop.failed
    · exact .inr hw.active
    · exact .inr ha
  split
  · rename_i hf
    rcases hm with hd₁ | rfl
    · exact fun hd => absurd (hd₁.symm.trans hd) Bool.false_ne_true
    · exact absurd hf ha.not_failed
  rename_i hf
  split
  · rename_i hd₁
    rcases hm with hd | rfl
    · exact absurd (hd.symm.trans hd₁) Bool.false_ne_true
    · exact fun _ => rfl
  rename_i hd₁
  rw [Bool.not_eq_true] at hd₁
  have hdone : ∀ {k' : Keypad}, k'.state.done = false → k'.state.done = true →
      k' = k.applyToResult s f :=
    fun hd hd' => absurd (hd.symm.trans hd') Bool.false_ne_true
  split
  · rcases sound_closeScope s (ha₁.resolve_left hf) with hstop | ⟨ha₂, -⟩
    · rw [if_pos hstop.failed]
      exact hdone ((done_closeScope s k₁).trans hd₁)
    rw [if_neg ha₂.not_failed]
    have hd₂ := done_pressOperator s .multiply ha₂
    split
    · exact hdone hd₂
    · exact hdone ((done_openWithFactor s f _).trans hd₂)
  · exact hdone ((done_openWithFactor s f k₁).trans hd₁)

theorem done_pressConstant (s : Settings) (c : Constant) (ha : k.state.Active) :
    (k.pressConstant s c).state.done = false := by
  simp only [pressConstant]
  generalize hk₁ : (if (k.state.constantUsed || k.state.scope.isClosed || k.state.done) = true then
    k.pressOperator s .multiply else k) = k₁
  have hd : k₁.state.done = false := by
    rcases done_multiplied hk₁ ha with hd | ⟨hnot, rfl⟩
    · exact hd
    · exact (Bool.or_eq_false_iff.mp hnot).2
  split
  · exact hd
  split
  · exact hd
  split
  · exact (done_closeScope s _).trans hd
  · exact hd

theorem pressBackspace_of_done (hd : k.pressBackspace.state.done = true) :
    k.pressBackspace = k := by
  revert hd
  unfold pressBackspace
  split
  · exact fun _ => rfl
  rename_i hd
  split
  · rw [state_shortenTrail]
    exact fun hd' => absurd hd' hd
  split
  · exact fun hd' => absurd hd' hd
  · rename_i c _ _
    rw [(dropChar_eq_showEntry k c).2.1]
    exact fun hd' => absurd hd' hd

theorem pressClearEntry_of_done (hd : k.pressClearEntry.state.done = true) :
    k.pressClearEntry = k := by
  revert hd
  unfold pressClearEntry
  split
  · exact fun _ => rfl
  · rename_i hd
    exact fun hd' => absurd hd' hd

theorem done_pressToggleSign (k : Keypad) : k.pressToggleSign.state.done = false := by
  simp only [pressToggleSign]
  split
  · rfl
  rename_i hd
  rw [Bool.not_eq_true] at hd
  repeat' split
  all_goals exact hd

/-- a result of `=` comes with no error -/
theorem failed_pressEquals (ha : k.state.Active) (hd : k.state.done = false)
    (hd' : (k.pressEquals s).state.done = true) : (k.pressEquals s).state.failed = false := by
  revert hd'
  have hdone : ∀ {k' : Keypad}, k'.state.done = false → k'.state.done = true →
      k'.state.failed = false :=
    fun hd hd' => absurd (hd.symm.trans hd') Bool.false_ne_true
  simp only [pressEquals]
  rw [if_neg (by simp [hd])]
  have hd₁ : (k.closeScope s).state.done = false := (done_closeScope s k).trans hd
  rcases sound_closeScope s ha with hstop | ⟨ha₁, ho₁⟩
  · rw [if_pos hstop.failed]
    exact hdone hd₁
  rw [if_neg ha₁.not_failed]
  have hd₂ := (done_takeOperand (k.closeScope s)).trans hd₁
  rcases sound_takeOperand ha₁ ho₁ with ⟨k', he, -⟩ | ⟨k', x, he, hfree, -⟩
  · rw [he] at hd₂ ⊢
    exact hdone hd₂
  rw [he] at hd₂ ⊢
  simp only
  split
  · exact fun _ => hfree.failed
  split
  · exact hdone ((done_commit _).trans hd₂)
  · rename_i hf
    rw [Bool.not_eq_true] at hf
    exact fun _ => hf

theorem failed_applyToResult {f : Trig} (hd : (k.applyToResult s f).state.done = true) :
    (k.applyToResult s f).state.failed = false := by
  revert hd
  simp only [applyToResult]
  have hactive := active_seeded s f k
  generalize hk₀ : append s _ (Format.result k.state.result) = k₀ at hactive ⊢
  have hd₁ : (k₀.closeScope s).state.done = false := by
    rw [done_closeScope, ← hk₀, done_append]
  rcases sound_closeScope s hactive with hstop | ⟨ha, -⟩
  · rw [if_pos hstop.failed]
    exact fun hd => absurd (hd₁.symm.trans hd) Bool.false_ne_true
  · rw [if_neg ha.not_failed]
    exact failed_pressEquals ha hd₁

/-- A result that is on display behind a key comes with no error.  It was on display before, or it
is finite, or it comes from `=`. -/
theorem done_handle (s : Settings) {key : Key} (ha : k.state.Active)
    (hd : (k.handle s key).state.done = true) :
    (k.handle s key).state.failed = false ∧
      (k.handle s key = k ∨ (k.handle s key).state.result.isFinite = true ∨
        key = .equals ∧ k.state.done = false) := by
  have hkept : k.handle s key = k → (k.handle s key).state.failed = false ∧
      (k.handle s key = k ∨ (k.handle s key).state.result.isFinite = true ∨
        key = .equals ∧ k.state.done = false) := by
    intro he
    refine ⟨?_, .inl he⟩
    rw [he]
    exact ha.failed
  cases key with
  | digit d => exact absurd ((done_pressDigit s d ha).symm.trans hd) Bool.false_ne_true
  | point => exact absurd ((done_pressPoint s ha).symm.trans hd) Bool.false_ne_true
  | operator op => exact absurd ((done_pressOperator s op ha).symm.trans hd) Bool.false_ne_true
  | function f =>
    have he : k.handle s (.function f) = k.applyToResult s f := pressFunction_of_done s f ha hd
    rw [he] at hd ⊢
    have hf := failed_applyToResult hd
    exact ⟨hf, .inr (.inl (isFinite_result_applyToResult hf))⟩
  | constant c => exact absurd ((done_pressConstant s c ha).symm.trans hd) Bool.false_ne_true
  | equals =>
    cases hdone : k.state.done with
    | true =>
      have he : k.handle s .equals = k := by
        show k.pressEquals s = k
        rw [pressEquals, if_pos hdone]
      obtain ⟨hf, -⟩ := hkept he
      exact ⟨hf, .inl he⟩
    | false => exact ⟨failed_pressEquals ha hdone hd, .inr (.inr ⟨rfl, rfl⟩)⟩
  | backspace => exact hkept (pressBackspace_of_done hd)
  | clearEntry => exact hkept (pressClearEntry_of_done hd)
  | clearAll => cases hd
  | toggleSign => exact absurd ((done_pressToggleSign k).symm.trans hd) Bool.false_ne_true

/-! ## Runs -/

/-- a result is never on display together with an error -/
theorem Reached.failed_of_done (h : Reached s k) :
    k.state.done = true → k.state.failed = false := by
  induction h with
  | fresh => exact fun _ => rfl
  | @press k key hreached _ =>
    unfold Keypad.press
    split
    · rename_i hf
      rw [acknowledge, if_pos hf]
      exact fun _ => rfl
    · rename_i hf
      rw [Bool.not_eq_true] at hf
      rw [state_refreshPreview]
      exact fun hd => (done_handle s (hreached.sound.active hf) hd).1

/-- where a result on display comes from, for one event -/
theorem state_after_of_done (h : Reached s k) {e : Signal}
    (hd : (Program.after s k e).state.done = true) :
    (Program.after s k e).state = k.state ∨
      (Program.after s k e).state.result.isFinite = true ∨
      e.kind = "equals" ∧ k.state.failed = false ∧ k.state.done = false ∧
        (Program.after s k e).state = (k.pressEquals s).state := by
  rw [Program.after_eq h.sound] at hd ⊢
  unfold receive at hd ⊢
  cases happly : k.applyNamed s e.kind e.value with
  | error f => exact .inl rfl
  | ok k' =>
    rw [happly] at hd
    obtain ⟨key, hword, rfl⟩ := exists_press_of_applyNamed happly
    simp only at hd ⊢
    unfold press at hd ⊢
    split at hd
    · rename_i hf
      rw [acknowledge, if_pos hf] at hd
      cases hd
    rename_i hf
    rw [if_neg hf, state_refreshPreview]
    rw [state_refreshPreview] at hd
    rw [Bool.not_eq_true] at hf
    obtain ⟨-, he | hfinite | ⟨rfl, hdone⟩⟩ := done_handle s (h.sound.active hf) hd
    · exact .inl (congrArg Keypad.state he)
    · exact .inr (.inl hfinite)
    · exact .inr (.inr ⟨hword.symm, hf, hdone, rfl⟩)

/-- every result on display is finite, or comes from `=` pressed on a boundless entry -/
theorem exists_equals_of_done (hmax : s.maxEntry ≤ 13) (history : History) (errors : ErrorLog)
    (es : List Signal) :
    let k := es.foldl (Program.after s) (.fresh history errors)
    k.state.done = true →
      k.state.result.isFinite = true ∨
        ∃ es₀ e, es₀ ++ [e] <+: es ∧ e.kind = "equals" ∧
          (es₀.foldl (Program.after s) (.fresh history errors)).state.failed = false ∧
          (es₀.foldl (Program.after s) (.fresh history errors)).state.done = false ∧
          (es₀.foldl (Program.after s) (.fresh history errors)).state.Boundless k.state.result := by
  induction es using List.reverseRecOn with
  | nil => exact fun hd => absurd hd Bool.false_ne_true
  | append_singleton es e ih =>
    intro k hd
    have hreached : Reached s (es.foldl (Program.after s) (.fresh history errors)) :=
      Program.reached_foldl_after es (.fresh history errors)
    have hk : k = Program.after s (es.foldl (Program.after s) (.fresh history errors)) e := by
      simp only [k, List.foldl_append, List.foldl_cons, List.foldl_nil]
    rw [hk] at hd ⊢
    rcases state_after_of_done hreached hd with he | hfinite | ⟨hkind, hf, hd₀, he⟩
    · rw [he] at hd ⊢
      exact (ih hd).imp_right fun ⟨es₀, e₀, hle, h⟩ =>
        ⟨es₀, e₀, hle.trans (List.prefix_append es [e]), h⟩
    · exact .inl hfinite
    · have hf' := (hreached.receive e).failed_of_done
        (by rw [← Program.after_eq hreached.sound]; exact hd)
      rw [← Program.after_eq hreached.sound, he] at hf'
      rw [he]
      exact (result_pressEquals (hreached.sound.active hf) (hreached.tame hmax hf)
        ((hreached.coherent hf).constant hd₀) hd₀ hf').imp_right fun hboundless =>
          ⟨es, e, List.prefix_rfl, hkind, hf, hd₀, hboundless⟩

/-! ## Main result -/

theorem State.Boundless.not_isFinite {st : State} {x : Float} (h : st.Boundless x) :
    x.isFinite = false := by
  rw [isFinite_eq, h.isInf]
  exact Bool.and_false _

theorem State.Boundless.isNaN {st : State} {x : Float} (h : st.Boundless x) :
    x.isNaN = false := by
  cases hn : x.isNaN with
  | false => rfl
  | true => exact absurd ((isInf_of_isNaN hn).symm.trans h.isInf) Bool.false_ne_true

theorem State.Boundless.result_eq {st : State} {x : Float} (h : st.Boundless x) :
    Format.result x = Format.invalidResult := by
  have hnone : Exact.ofFloat? x = none := by
    have hf := h.not_isFinite
    rw [Format.isFinite_eq] at hf
    simpa using hf
  simp only [Format.result, hnone, h.isNaN]
  rfl

/-- what `=` leaves behind anything but a result: an error, or a result that is shown -/
theorem press_equals_cases (h : Reached s k) (hf : k.state.failed = false)
    (hd : k.state.done = false) :
    let k' := k.press s .equals
    (k'.state.failed = true ∧ k'.state.done = false ∧ k'.history = k.history) ∨
      (k'.state.failed = false ∧ k'.state.done = true ∧ k'.state = (k.pressEquals s).state ∧
        k'.display.entry = Format.result k'.state.result ∧
        k'.display.preview = Format.result k'.state.result ∧
        k'.state.buffer =
          (if k'.state.result.isFinite then writeEntry k'.state.result else []) ∧
        k'.history =
          if k'.state.result.isFinite then
            k.history.push ⟨k'.display.trail, k'.state.result, s.now⟩
          else k.history) := by
  intro k'
  have hreached : Reached s k' := h.press .equals
  have hstate : k'.state = (k.pressEquals s).state := by
    show (k.press s .equals).state = _
    rw [press, if_neg (by simp [hf]), state_refreshPreview]
    rfl
  have hhistory := history_press s .equals h.sound
  cases hf' : k'.state.failed with
  | true =>
    have hd' : k'.state.done = false := by
      cases hd' : k'.state.done with
      | false => rfl
      | true => exact absurd ((hreached.failed_of_done hd').symm.trans hf') Bool.false_ne_true
    refine .inl ⟨rfl, hd', ?_⟩
    rw [hhistory, if_neg fun hnot => ?_]
    exact absurd (hd'.symm.trans hnot.2.1) Bool.false_ne_true
  | false =>
    have hfe : (k.pressEquals s).state.failed = false := hstate ▸ hf'
    have hd' : k'.state.done = true := by
      rw [hstate]
      exact ((sound_pressEquals s (h.sound.active hf)).resolve_left (State.not_stopped hfe)).2
    obtain ⟨hentry, hpreview⟩ := (hreached.coherent hf').result hd'
    refine .inr ⟨rfl, hd', hstate, hentry, hpreview, ?_, ?_⟩
    · obtain ⟨k₁, he⟩ := exists_finish_of_pressEquals hd hfe
      rw [hstate, he, buffer_finish]
      rfl
    · rw [hhistory]
      have hkey : Key.completes k.state .equals = true := by simp [Key.completes, hd]
      have hshown : (k.press s .equals).state.done = true := hd'
      simp only [hkey, hshown, true_and]
      rfl

/-- **A result is finite, or it is an infinity that was entered**: behind any events, with entries
of the usual length, a result on display is a number, and finite unless it comes from `=` pressed on
an entry that denotes an infinity, with neither an operator nor a scope pending.  So `=` shows an
error and records nothing, or it shows a finite result and records that.  On such an entry it shows
that the result is invalid, records nothing, and leaves the entry empty. -/
theorem result_finite_or_boundless (lib : TrigLibrary) (now : TimeOfDay) (history : History)
    (errors : ErrorLog) (es : List Signal) :
    let s : Settings := { lib, now }
    let behind := fun es : List Signal => es.foldl (Program.after s) (.fresh history errors)
    let k := behind es
    (k.state.done = true →
      k.state.failed = false ∧ k.state.result.isNaN = false ∧
      (k.state.result.isFinite = true ∨
        ∃ es₀ e, es₀ ++ [e] <+: es ∧ e.kind = "equals" ∧ (behind es₀).state.failed = false ∧
          (behind es₀).state.done = false ∧ (behind es₀).state.Boundless k.state.result)) ∧
    (k.state.failed = false → k.state.done = false →
      let k' := Program.after s k ⟨"equals", none⟩
      (k'.state.failed = true ∧ k'.state.done = false ∧ k'.history = k.history) ∨
      (k'.state.failed = false ∧ k'.state.done = true ∧
        (k'.state.result.isFinite = true ∧ k'.display.entry = Format.result k'.state.result ∧
            k'.display.preview = Format.result k'.state.result ∧
            k'.history = k.history.push ⟨k'.display.trail, k'.state.result, now⟩ ∨
          k.state.Boundless k'.state.result ∧ k'.display.entry = Format.invalidResult ∧
            k'.display.preview = Format.invalidResult ∧ k'.history = k.history ∧
            k'.state.buffer = []))) := by
  intro s behind k
  have hmax : s.maxEntry ≤ 13 := Int.le_refl 13
  have hreached : Reached s k := Program.reached_foldl_after es (.fresh history errors)
  refine ⟨fun hd => ⟨hreached.failed_of_done hd, ?_⟩, fun hf hd => ?_⟩
  · have horigin := exists_equals_of_done hmax history errors es hd
    refine ⟨?_, horigin⟩
    rcases horigin with hfinite | ⟨es₀, e, -, -, -, -, hboundless⟩
    · exact isNaN_of_isFinite hfinite
    · exact hboundless.isNaN
  · have hequals : Program.after s k ⟨"equals", none⟩ = k.press s .equals :=
      Program.after_of_key (e := ⟨.equals, none⟩) hreached.sound rfl
    rw [hequals]
    rcases press_equals_cases hreached hf hd with
      herror | ⟨hf', hd', hstate, hentry, hpreview, hbuffer, hhistory⟩
    · exact .inl herror
    refine .inr ⟨hf', hd', ?_⟩
    have hresult := result_pressEquals (s := s) (hreached.sound.active hf)
      (hreached.tame hmax hf) ((hreached.coherent hf).constant hd) hd (hstate ▸ hf')
    rw [← hstate] at hresult
    rcases hresult with hfinite | hboundless
    · rw [if_pos hfinite] at hhistory
      exact .inl ⟨hfinite, hentry, hpreview, hhistory⟩
    · have hnot : ¬ (k.press s .equals).state.result.isFinite = true := by
        rw [hboundless.not_isFinite]
        exact Bool.false_ne_true
      rw [if_neg hnot] at hhistory hbuffer
      rw [hboundless.result_eq] at hentry hpreview
      exact .inr ⟨hboundless, hentry, hpreview, hhistory, hbuffer⟩

/-- `2π =`: the constant is the result, and it is recorded -/
theorem result_finite_or_boundless_constant :
    let s : Settings := { lib := ⟨id, id, id, id, id, id⟩ }
    let es : List Signal := [⟨"digit", some (.number 2)⟩, ⟨"constant", some (.text "pi".toList)⟩]
    let k := es.foldl (Program.after s) (.fresh .initial .initial)
    let k' := Program.after s k ⟨"equals", none⟩
    k.state.failed = false ∧ k.state.done = false ∧ k'.state.done = true ∧
      k'.state.result.isNaN = false ∧ k'.state.result.isFinite = true ∧
      k'.display.entry = Format.result k'.state.result ∧
      k'.history = k.history.push ⟨k'.display.trail, k'.state.result, s.now⟩ := by
  intro s es k k'
  have hf : k.state.failed = false := by decide +kernel
  have hd : k.state.done = false := by decide +kernel
  have hf' : k'.state.failed = false := by decide +kernel
  have hd' : k'.state.done = true := by decide +kernel
  obtain ⟨hshown, -⟩ :=
    result_finite_or_boundless s.lib s.now .initial .initial (es ++ [⟨"equals", none⟩])
  simp only [List.foldl_append, List.foldl_cons, List.foldl_nil] at hshown
  have hnopower : writesPower k.state.buffer = false := by decide +kernel
  obtain ⟨-, hequals⟩ := result_finite_or_boundless s.lib s.now .initial .initial es
  rcases hequals hf hd with ⟨herror, -⟩ | ⟨-, -, ⟨hfinite, hentry, -, hhistory⟩ | ⟨hboundless, -⟩⟩
  · exact absurd (hf'.symm.trans herror) Bool.false_ne_true
  · exact ⟨hf, hd, hd', (hshown hd').2.1, hfinite, hentry, hhistory⟩
  · exact absurd (hnopower.symm.trans hboundless.power) Bool.false_ne_true

/-- `0.00001 =`, changed in sign, is entered as `-1e-05`.  With its last three characters taken
back and `999` typed it is an infinity, which `=` shows as an invalid result. -/
theorem infinite_result :
    let s : Settings := { lib := ⟨id, id, id, id, id, id⟩ }
    let digit := fun n : Int => (⟨"digit", some (.number n)⟩ : Signal)
    let es := [⟨"decimal_point", none⟩, digit 0, digit 0, digit 0, digit 0, digit 1,
      ⟨"equals", none⟩, ⟨"sign_toggle", none⟩, ⟨"backspace", none⟩, ⟨"backspace", none⟩,
      ⟨"backspace", none⟩, digit 9, digit 9, digit 9]
    let k := es.foldl (Program.after s) (.fresh .initial .initial)
    let k' := Program.after s k ⟨"equals", none⟩
    k.state.buffer = "-1e999".toList ∧ k'.state.failed = false ∧ k'.state.done = true ∧
      k'.state.result.isFinite = false ∧ k'.display.entry = Format.invalidResult ∧
      k'.history.entries = k.history.entries := by
  intro s digit es k k'
  decide +kernel

end PocketCalc.Keypad
