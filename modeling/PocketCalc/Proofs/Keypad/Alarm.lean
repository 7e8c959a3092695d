import PocketCalc.Proofs.Keypad.Refusal

/-!
# The life of an error

An error arises in one of three transitions that the others are built of.  Each of the others has to
look whether one arose and to stop there: then an error is reported once, and what it put on display
stays until the next key.

* `Quiet`             no error on display;
* `Alarmed f k`       the error `f` on display, and no operator pending;
* `Outcome log k`     no error arose, or a single one and its report is what the log has besides;
* `Outcome.andThen`   a transition that stops where the one before it failed;
* `outcome_closeScope`, ...   every transition;
* `outcome_press`     every key;
* `error_life_cycle`  every event, on every run.
-/

namespace PocketCalc.Keypad
open Text

/-! ## Errors on display -/

/-- no error is shown -/
structure Quiet (k : Keypad) : Prop where
  failed : k.state.failed = false
  error : k.display.error = false
  fontSize : k.display.fontSize = none

/-- an error is shown, and no operator is pending -/
structure Alarmed (f : Fault) (k : Keypad) : Prop where
  failed : k.state.failed = true
  error : k.display.error = true
  fontSize : k.display.fontSize = some f.kind.fontSize
  message : k.display.entry = f.message.toList ∨ k.display.preview = f.message.toList
  operatorSet : k.state.operatorSet = false
  operator : k.state.operator = none

/-- No error arose and none was reported, or one arose and it alone was reported. -/
def Outcome (log : ErrorLog) (k : Keypad) : Prop :=
  (k.Quiet ∧ k.errors = log) ∨
    ∃ f, k.Alarmed f ∧ k.errors = log.report f.kind (some f.message.toList) f.detail

variable {s : Settings} {k k' : Keypad} {log : ErrorLog}

theorem quiet_startOver (k : Keypad) : k.startOver.Quiet := ⟨rfl, rfl, rfl⟩

theorem Quiet.not_failed (h : k.Quiet) : ¬ k.state.failed = true := by
  rw [h.failed]
  exact Bool.false_ne_true

/-- the three fields that errors show in are what they were -/
theorem Quiet.of_eq (h : k.Quiet) (hf : k'.state.failed = k.state.failed)
    (he : k'.display.error = k.display.error) (hs : k'.display.fontSize = k.display.fontSize) :
    k'.Quiet :=
  ⟨hf.trans h.failed, he.trans h.error, hs.trans h.fontSize⟩

theorem Quiet.outcome (h : k.Quiet) (he : k.errors = log) : Outcome log k := .inl ⟨h, he⟩

theorem outcome_fail (he : k.errors = log) (f : Fault) (pane : Pane) :
    Outcome log (k.fail f pane) := by
  refine .inr ⟨f, ⟨rfl, rfl, rfl, ?_, rfl, rfl⟩, congrArg (ErrorLog.report · _ _ _) he⟩
  cases pane with
  | entry => exact .inl rfl
  | preview => exact .inr rfl

/-- the error that is shown and the state agree -/
theorem error_eq_failed (h : k.Quiet ∨ ∃ f, k.Alarmed f) :
    k.display.error = k.state.failed ∧
      (k.display.fontSize = none ↔ k.state.failed = false) := by
  rcases h with hq | ⟨f, ha⟩
  · rw [hq.error, hq.failed, hq.fontSize]
    exact ⟨rfl, fun _ => rfl, fun _ => rfl⟩
  · rw [ha.error, ha.failed, ha.fontSize]
    exact ⟨rfl, nofun, nofun⟩

/-- a transition that stops where the one before it failed -/
theorem Outcome.andThen (h : Outcome log k)
    (hnext : k.Quiet → k.errors = log → Outcome log k') :
    Outcome log (if k.state.failed then k else k') := by
  rcases h with ⟨hq, he⟩ | ⟨f, ha, he⟩
  · rw [if_neg hq.not_failed]
    exact hnext hq he
  · rw [if_pos ha.failed]
    exact .inr ⟨f, ha, he⟩

/-- a part of the display or of the state that no error shows in -/
theorem Outcome.of_eq (h : Outcome log k) (hstate : k'.state.failed = k.state.failed ∧
      k'.state.operatorSet = k.state.operatorSet ∧ k'.state.operator = k.state.operator)
    (hdisplay : k'.display = k.display) (he : k'.errors = k.errors) : Outcome log k' := by
  rcases h with ⟨hq, hl⟩ | ⟨f, ha, hl⟩
  · exact .inl ⟨⟨hstate.1.trans hq.failed, by rw [hdisplay, hq.error],
      by rw [hdisplay, hq.fontSize]⟩, he.trans hl⟩
  · exact .inr ⟨f, ⟨hstate.1.trans ha.failed, by rw [hdisplay, ha.error],
      by rw [hdisplay, ha.fontSize], by rw [hdisplay]; exact ha.message,
      hstate.2.1.trans ha.operatorSet, hstate.2.2.trans ha.operator⟩, he.trans hl⟩

/-! ## Where errors arise -/

theorem outcome_closeScope (s : Settings) (h : k.Quiet) (he : k.errors = log) :
    Outcome log (k.closeScope s) := by
  unfold closeScope
  simp only
  split
  · exact h.outcome he
  split
  · split
    · refine outcome_fail ?_ _ _
      exact he
    split
    · refine outcome_fail ?_ _ _
      exact he
    · exact .inl ⟨h.of_eq rfl rfl rfl, he⟩
  · exact .inl ⟨h.of_eq rfl rfl rfl, he⟩

/-- an operand is taken without an error, or there is one and no operand -/
theorem outcome_takeOperand (h : k.Quiet) (he : k.errors = log) :
    (∃ k' x, k.takeOperand = (k', some x) ∧ k'.Quiet ∧ k'.errors = log) ∨
      ∃ k', k.takeOperand = (k', none) ∧ Outcome log k' := by
  rcases takeOperand_cases k with ⟨x, -, ht⟩ | ⟨-, -, ht⟩ | ⟨-, -, -, ht⟩ | ⟨-, -, -, ht⟩
  · exact .inl ⟨_, _, ht, h, he⟩
  · exact .inl ⟨_, _, ht, h.of_eq rfl rfl rfl, he⟩
  · exact .inl ⟨_, _, ht, h.of_eq rfl rfl rfl, he⟩
  · exact .inr ⟨_, ht, outcome_fail he _ _⟩

theorem outcome_commit (h : k.Quiet) (he : k.errors = log) : Outcome log k.commit := by
  unfold commit
  simp only
  split
  · exact h.outcome he
  split
  · refine outcome_fail ?_ _ _
    exact he
  · exact .inl ⟨h.of_eq rfl rfl rfl, he⟩

/-! ## The operator keys and `=` -/

theorem quiet_awaitRight (op : Operator) (h : k.Quiet) : (k.awaitRight op).Quiet := by
  unfold awaitRight
  simp only
  split <;> exact h.of_eq rfl rfl rfl

theorem outcome_pressOperator (s : Settings) (op : Operator) (h : k.Quiet) (he : k.errors = log) :
    Outcome log (k.pressOperator s op) := by
  simp only [pressOperator]
  refine (outcome_closeScope s h he).andThen ?_
  generalize k.closeScope s = k
  intro h he
  split
  · exact .inl ⟨⟨rfl, rfl, rfl⟩, he⟩
  split
  · exact .inl ⟨h.of_eq rfl rfl rfl, he⟩
  rcases outcome_takeOperand h he with ⟨k', x, ht, h', he'⟩ | ⟨k', ht, hout⟩
  · rw [ht]
    simp only
    split
    · have hfirst : Quiet { k' with state.first := x } := h'.of_eq rfl rfl rfl
      exact .inl ⟨quiet_awaitRight op hfirst, (errors_awaitRight _ op).trans he'⟩
    · have hsecond : Quiet { k' with state.second := x } := h'.of_eq rfl rfl rfl
      refine (outcome_commit hsecond he').andThen ?_
      generalize commit { k' with state.second := x } = k
      intro h he
      have hfirst : Quiet { k with state.first := k.state.result } := h.of_eq rfl rfl rfl
      exact .inl ⟨quiet_awaitRight op hfirst, (errors_awaitRight _ op).trans he⟩
  · rw [ht]
    exact hout

theorem quiet_finish (s : Settings) (h : k.Quiet) : (k.finish s).Quiet := h.of_eq rfl rfl rfl

theorem outcome_pressEquals (s : Settings) (h : k.Quiet) (he : k.errors = log) :
    Outcome log (k.pressEquals s) := by
  simp only [pressEquals]
  split
  · exact h.outcome he
  refine (outcome_closeScope s h he).andThen ?_
  generalize k.closeScope s = k
  intro h he
  rcases outcome_takeOperand h he with ⟨k', x, ht, h', he'⟩ | ⟨k', ht, hout⟩
  · rw [ht]
    simp only
    split
    · exact .inl ⟨quiet_finish s (h'.of_eq rfl rfl rfl), he'⟩
    · have hsecond : Quiet { k' with state.second := x } := h'.of_eq rfl rfl rfl
      refine (outcome_commit hsecond he').andThen ?_
      exact fun h he => .inl ⟨quiet_finish s h, he⟩
  · rw [ht]
    exact hout

/-! ## Typing -/

theorem quiet_startOver_if (h : k.Quiet) (he : k.errors = log) (b : Bool) :
    (if b then k.startOver else k).Quiet ∧ (if b then k.startOver else k).errors = log := by
  cases b with
  | false => exact ⟨h, he⟩
  | true => exact ⟨quiet_startOver k, he⟩

theorem quiet_append (s : Settings) (h : k.Quiet) (he : k.errors = log) (t : Text) :
    (k.append s t).Quiet ∧ (k.append s t).errors = log := by
  simp only [append]
  obtain ⟨h, he⟩ := quiet_startOver_if h he k.state.done
  generalize (if k.state.done then k.startOver else k) = k at h he ⊢
  split
  · exact ⟨h, he⟩
  · exact ⟨h.of_eq rfl rfl rfl, he⟩

theorem outcome_readyForNumber (s : Settings) (h : k.Quiet) (he : k.errors = log) :
    Outcome log (k.readyForNumber s) := by
  unfold readyForNumber
  split
  · exact (outcome_pressOperator s .multiply h he).of_eq ⟨rfl, rfl, rfl⟩ rfl rfl
  · exact h.outcome he

theorem outcome_pressDigit (s : Settings) (d : Fin 10) (h : k.Quiet) (he : k.errors = log) :
    Outcome log (k.pressDigit s d) := by
  simp only [pressDigit]
  refine (outcome_readyForNumber s h he).andThen ?_
  exact fun h he => .inl (quiet_append s h he _)

theorem outcome_pressPoint (s : Settings) (h : k.Quiet) (he : k.errors = log) :
    Outcome log (k.pressPoint s) := by
  simp only [pressPoint]
  refine (outcome_readyForNumber s h he).andThen ?_
  generalize k.readyForNumber s = k
  intro h he
  obtain ⟨h, he⟩ := quiet_startOver_if h he k.state.done
  generalize (if k.state.done then k.startOver else k) = k at h he ⊢
  split
  · exact h.outcome he
  · exact .inl (quiet_append s h he _)

/-! ## Functions and constants -/

/-- a function applied to a result: the error, if any, is that of the new calculation -/
theorem outcome_applyToResult (s : Settings) (f : Trig) (he : k.errors = log) :
    Outcome log (k.applyToResult s f) := by
  simp only [applyToResult]
  have hopen : Quiet
      (openScope { k with state := { result := k.state.result }, display := {} } f) :=
    ⟨rfl, rfl, rfl⟩
  obtain ⟨h, he⟩ := quiet_append s hopen he (Format.result k.state.result)
  refine (outcome_closeScope s h he).andThen ?_
  exact fun h he => outcome_pressEquals s h he

theorem outcome_openWithFactor (s : Settings) (f : Trig) (h : k.Quiet) (he : k.errors = log) :
    Outcome log (k.openWithFactor s f) := by
  unfold openWithFactor
  split
  · exact h.outcome he
  · exact .inl ⟨h.of_eq rfl rfl rfl, he⟩

theorem outcome_multiplied (s : Settings) (h : k.Quiet) (he : k.errors = log) (b : Bool) :
    Outcome log (if b then k.pressOperator s .multiply else k) := by
  cases b with
  | false => exact h.outcome he
  | true => exact outcome_pressOperator s .multiply h he

theorem outcome_pressFunction (s : Settings) (f : Trig) (h : k.Quiet) (he : k.errors = log) :
    Outcome log (k.pressFunction s f) := by
  simp only [pressFunction]
  refine (outcome_multiplied s h he _).andThen ?_
  generalize (if (k.state.constantUsed || k.state.scope.isClosed) = true then
    k.pressOperator s .multiply else k) = k
  intro h he
  split
  · exact outcome_applyToResult s f he
  split
  · refine (outcome_closeScope s h he).andThen fun h he => ?_
    refine (outcome_pressOperator s .multiply h he).andThen fun h he => ?_
    exact outcome_openWithFactor s f h he
  · exact outcome_openWithFactor s f h he

theorem outcome_pressConstant (s : Settings) (c : Constant) (h : k.Quiet) (he : k.errors = log) :
    Outcome log (k.pressConstant s c) := by
  simp only [pressConstant]
  refine (outcome_multiplied s h he _).andThen ?_
  generalize (if (k.state.constantUsed || k.state.scope.isClosed || k.state.done) = true then
    k.pressOperator s .multiply else k) = k
  intro h he
  split
  · exact h.outcome he
  split
  · have htyped : Quiet { k with state := k.state.constantInScope c } := h.of_eq rfl rfl rfl
    exact (outcome_closeScope s htyped he).of_eq ⟨rfl, rfl, rfl⟩ rfl rfl
  · exact .inl ⟨h.of_eq rfl rfl rfl, he⟩

/-! ## Editing -/

theorem outcome_pressBackspace (h : k.Quiet) (he : k.errors = log) :
    Outcome log k.pressBackspace := by
  unfold pressBackspace shortenTrail dropScope
  split
  · exact h.outcome he
  split
  · split
    · split
      · exact h.outcome he
      · exact .inl ⟨h.of_eq rfl rfl rfl, he⟩
    · exact h.outcome he
  rename_i c _
  split
  · exact .inl ⟨h.of_eq rfl rfl rfl, he⟩
  · have hstate : (k.dropChar c).state.failed = k.state.failed := by
      by_cases hc : c = ')'
      · rw [hc, state_dropChar_closing]
      · rw [state_dropChar hc]
    have hrest : (k.dropChar c).display.error = k.display.error ∧
        (k.dropChar c).display.fontSize = k.display.fontSize ∧
        (k.dropChar c).errors = k.errors := by
      unfold dropChar
      split <;> exact ⟨rfl, rfl, rfl⟩
    exact .inl ⟨h.of_eq hstate hrest.1 hrest.2.1, hrest.2.2.trans he⟩

theorem outcome_pressClearEntry (h : k.Quiet) (he : k.errors = log) :
    Outcome log k.pressClearEntry := by
  unfold pressClearEntry
  split
  · exact h.outcome he
  · exact .inl ⟨h.of_eq rfl rfl rfl, he⟩

theorem outcome_pressToggleSign (h : k.Quiet) (he : k.errors = log) :
    Outcome log k.pressToggleSign := by
  simp only [pressToggleSign]
  split
  · exact .inl ⟨⟨rfl, rfl, rfl⟩, he⟩
  split
  · split
    · exact h.outcome he
    · exact .inl ⟨h.of_eq rfl rfl rfl, he⟩
  split
  · exact .inl ⟨h.of_eq rfl rfl rfl, he⟩
  split
  · exact h.outcome he
  · exact .inl ⟨h.of_eq rfl rfl rfl, he⟩

/-! ## Every key -/

theorem outcome_handle (s : Settings) (key : Key) (h : k.Quiet) (he : k.errors = log) :
    Outcome log (k.handle s key) := by
  cases key with
  | digit d => exact outcome_pressDigit s d h he
  | point => exact outcome_pressPoint s h he
  | operator op => exact outcome_pressOperator s op h he
  | function f => exact outcome_pressFunction s f h he
  | constant c => exact outcome_pressConstant s c h he
  | equals => exact outcome_pressEquals s h he
  | backspace => exact outcome_pressBackspace h he
  | clearEntry => exact outcome_pressClearEntry h he
  | clearAll => exact .inl ⟨quiet_startOver k, he⟩
  | toggleSign => exact outcome_pressToggleSign h he

/-- the preview is not brought up to date over an error -/
theorem Outcome.refreshPreview (h : Outcome log k) (s : Settings) :
    Outcome log (k.refreshPreview s) := by
  rcases h with ⟨hq, he⟩ | ⟨f, ha, he⟩
  · obtain ⟨t, ht⟩ := refreshPreview_eq_showPreview s k
    rw [ht]
    exact .inl ⟨hq.of_eq rfl rfl rfl, he⟩
  · have hsame : k.refreshPreview s = k := by
      simp only [Keypad.refreshPreview, ha.failed, Bool.true_or, if_true]
    rw [hsame]
    exact .inr ⟨f, ha, he⟩

/-- a key while an error is shown -/
theorem press_of_failed (h : k.state.failed = true) (key : Key) :
    k.press s key = k.startOver := by
  rw [press, if_pos h, acknowledge, if_pos h]

theorem outcome_press (s : Settings) (key : Key) (h : k.Quiet) :
    Outcome k.errors (k.press s key) := by
  rw [press, if_neg h.not_failed]
  exact (outcome_handle s key h rfl).refreshPreview s

/-! ## Runs -/

/-- on every run either no error is shown, or one is -/
theorem Reached.quiet_or_alarmed (h : Reached s k) : k.Quiet ∨ ∃ f, k.Alarmed f := by
  induction h with
  | fresh history errors => exact .inl ⟨rfl, rfl, rfl⟩
  | @press k key _ ih =>
    rcases ih with hq | ⟨f, ha⟩
    · exact (outcome_press s key hq).imp And.left fun ⟨f, ha, _⟩ => ⟨f, ha⟩
    · rw [press_of_failed ha.failed]
      exact .inl (quiet_startOver k)

/-- what an event can do to a keypad without an error: nothing, or what a key does -/
theorem outcome_receive (s : Settings) (e : Signal) (h : k.Quiet) :
    Outcome k.errors (k.receive s e) := by
  rcases receive_eq_self_or_press s k e with he | ⟨key, he⟩
  · rw [he]
    exact h.outcome rfl
  · rw [he]
    exact outcome_press s key h

/-- while an error is shown every kind of key dismisses it, whatever comes with it -/
theorem run_receive_of_failed (h : k.state.Sound) (hf : k.state.failed = true) (kind : EventKind)
    (value : Option Argument) :
    (Program.receive s kind.word value).run k = .ok () { k with state := {}, display := {} } := by
  have happly : k.applyNamed s kind.word value = .ok k.startOver := by
    rw [applyNamed, Program.ofWord?_word]
    show k.apply s ⟨kind, value⟩ = _
    rw [apply, if_pos hf, acknowledge, if_pos hf]
  rw [Program.run_receive s h, happly]
  rfl

/-- **The life of an error**: on every run, the display shows an error just when the state has one.
An event that brings one up adds one record to the log: the kind of the error, the message of the
kind and the detail.  The message is on one of the two lines then, in the size of the kind, and no
operator is pending.  Any other event adds none.  While an error is shown, the next event of any
kind, whatever comes with it, leaves a fresh keypad with the logs as they were. -/
theorem error_life_cycle (s : Settings) (history : History) (errors : ErrorLog) (es : List Signal)
    (e : Signal) :
    let k := es.foldl (Program.after s) (.fresh history errors)
    let k' := Program.after s k e
    (k.display.error = k.state.failed ∧
      (k.display.fontSize = none ↔ k.state.failed = false)) ∧
    (k.state.failed = false → k'.state.failed = true →
      ∃ f : Fault,
        k'.errors = k.errors.push ⟨f.kind, f.kind.message.toList, f.detail⟩ ∧
        k'.errors.last? = some ⟨f.kind, f.kind.message.toList, f.detail⟩ ∧
        (k'.display.entry = f.kind.message.toList ∨
          k'.display.preview = f.kind.message.toList) ∧
        k'.display.fontSize = some f.kind.fontSize ∧
        k'.state.operatorSet = false ∧ k'.state.operator = none) ∧
    (¬ (k.state.failed = false ∧ k'.state.failed = true) → k'.errors = k.errors) ∧
    (k.state.failed = true → ∀ (kind : EventKind) (value : Option Argument),
      (Program.receive s kind.word value).run k =
        .ok () { k with state := {}, display := {} }) := by
  intro k k'
  have hreached : Reached s k := Program.reached_foldl_after es (.fresh history errors)
  have hk' : k' = k.receive s e := Program.after_eq hreached.sound e
  refine ⟨error_eq_failed hreached.quiet_or_alarmed, ?_⟩
  rcases hreached.quiet_or_alarmed with hq | ⟨f, ha⟩
  · have hout : Outcome k.errors k' := hk' ▸ outcome_receive s e hq
    refine ⟨?_, ?_, fun hf => absurd hf hq.not_failed⟩
    · intro _ hf
      rcases hout with ⟨hq', -⟩ | ⟨f, ha', hlog⟩
      · exact absurd hf hq'.not_failed
      · refine ⟨f, hlog, ?_, ha'.message, ha'.fontSize, ha'.operatorSet, ha'.operator⟩
        rw [hlog]
        exact Log.last?_push _ _
    · intro hnone
      rcases hout with ⟨-, hlog⟩ | ⟨f, ha', -⟩
      · exact hlog
      · exact absurd ⟨hq.failed, ha'.failed⟩ hnone
  · have hlog : k'.errors = k.errors := by
      rw [hk']
      rcases receive_eq_self_or_press s k e with he | ⟨key, he⟩
      · rw [he]
      · rw [he, press_of_failed ha.failed]
        rfl
    refine ⟨?_, fun _ => hlog, fun hf => run_receive_of_failed hreached.sound hf⟩
    intro hf
    rw [ha.failed] at hf
    cases hf

/-- `1 ÷ 0 =`: one report, its message on the preview; a key that carries nonsense dismisses it and
leaves the report in the log -/
theorem error_life_cycle_zero_divisor :
    let s : Settings := {}
    let es : List Signal := [⟨"digit", some (.number 1)⟩, ⟨"operator", some (.text ['÷'])⟩,
      ⟨"digit", some (.number 0)⟩]
    let k := es.foldl (Program.after s) (.fresh .initial .initial)
    let k' := Program.after s k ⟨"equals", none⟩
    k.state.failed = false ∧ k'.state.failed = true ∧ k'.display.error = true ∧
      k'.display.preview = "Cannot divide by zero".toList ∧ k'.display.fontSize = some 15 ∧
      k.errors.entries = [] ∧
      k'.errors.entries = [⟨.divisionByZero, "Cannot divide by zero".toList,
        some "Attempt to divide 1.0 by zero".toList⟩] ∧
      (∃ f : Fault, k'.errors = k.errors.push ⟨f.kind, f.kind.message.toList, f.detail⟩ ∧
        k'.display.fontSize = some f.kind.fontSize ∧ k'.state.operatorSet = false) ∧
      (Program.receive s "digit" (some (.text "seven".toList))).run k' =
        .ok () { k' with state := {}, display := {} } := by
  intro s es k k'
  have hf : k.state.failed = false := by decide +kernel
  have hf' : k'.state.failed = true := by decide +kernel
  obtain ⟨-, harise, -⟩ := error_life_cycle s .initial .initial es ⟨"equals", none⟩
  obtain ⟨f, hlog, -, -, hsize, hop, -⟩ := harise hf hf'
  obtain ⟨⟨herror, -⟩, -, -, hdismiss⟩ := error_life_cycle s .initial .initial
    (es ++ [⟨"equals", none⟩]) ⟨"digit", none⟩
  exact ⟨hf, hf', herror.trans hf', by decide +kernel, by decide +kernel, by decide +kernel,
    by decide +kernel, ⟨f, hlog, hsize, hop⟩, hdismiss hf' .digit _⟩

end PocketCalc.Keypad
