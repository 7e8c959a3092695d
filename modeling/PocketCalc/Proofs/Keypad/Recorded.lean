import PocketCalc.Proofs.Keypad.Refusal

/-!
# What goes into the history

One transition writes to the history, `finish`, as the last step of the `=` key.  It is taken there
and where a function is applied to a result, and on no path more than once.

* `history_closeScope`, ...   the transitions that leave the history alone;
* `Completes s k k'`          a calculation broken off in front of `finish`, or finished;
* `completes_pressEquals`, `completes_applyToResult`   the two ways there;
* `history_press`             what any key writes;
* `recorded_once`             what any event writes, on every run.
-/

namespace PocketCalc.Keypad
open Text

variable {s : Settings} {k : Keypad}

/-! ## Transitions that write nothing -/

@[simp]
theorem history_refreshPreview (s : Settings) (k : Keypad) :
    (k.refreshPreview s).history = k.history := by
  obtain ⟨t, ht⟩ := refreshPreview_eq_showPreview s k
  rw [ht]
  rfl

@[simp]
theorem trail_refreshPreview (s : Settings) (k : Keypad) :
    (k.refreshPreview s).display.trail = k.display.trail := by
  obtain ⟨t, ht⟩ := refreshPreview_eq_showPreview s k
  rw [ht]
  rfl

@[simp]
theorem history_closeScope (s : Settings) (k : Keypad) :
    (k.closeScope s).history = k.history := by
  unfold closeScope
  simp only
  repeat' split
  all_goals rfl

@[simp]
theorem history_takeOperand (k : Keypad) : k.takeOperand.1.history = k.history := by
  unfold takeOperand
  repeat' split
  all_goals rfl

@[simp]
theorem history_commit (k : Keypad) : k.commit.history = k.history := by
  unfold commit
  simp only
  repeat' split
  all_goals rfl

@[simp]
theorem history_awaitRight (op : Operator) (k : Keypad) :
    (k.awaitRight op).history = k.history := by
  unfold awaitRight
  simp only
  split <;> rfl

@[simp]
theorem history_pressOperator (s : Settings) (op : Operator) (k : Keypad) :
    (k.pressOperator s op).history = k.history := by
  rw [← history_closeScope s k]
  simp only [pressOperator]
  generalize k.closeScope s = k
  split
  · rfl
  split
  · rfl
  split
  · rfl
  rw [← history_takeOperand k]
  cases k.takeOperand with
  | mk k' x =>
    cases x with
    | none => rfl
    | some x =>
      simp only
      split
      · exact history_awaitRight op _
      split
      · exact history_commit _
      · exact (history_awaitRight op _).trans (history_commit _)

@[simp]
theorem history_append (s : Settings) (k : Keypad) (t : Text) :
    (k.append s t).history = k.history := by
  have hstart : (if k.state.done then k.startOver else k).history = k.history := by
    split <;> rfl
  simp only [append]
  rw [← hstart]
  generalize (if k.state.done then k.startOver else k) = k
  split <;> rfl

@[simp]
theorem history_readyForNumber (s : Settings) (k : Keypad) :
    (k.readyForNumber s).history = k.history := by
  unfold readyForNumber
  split
  · exact history_pressOperator s .multiply k
  · rfl

theorem history_pressDigit (s : Settings) (d : Fin 10) (k : Keypad) :
    (k.pressDigit s d).history = k.history := by
  simp only [pressDigit]
  split <;> simp

theorem history_pressPoint (s : Settings) (k : Keypad) : (k.pressPoint s).history = k.history := by
  rw [← history_readyForNumber s k]
  simp only [pressPoint]
  generalize k.readyForNumber s = k
  split
  · rfl
  have hstart : (if k.state.done then k.startOver else k).history = k.history := by
    split <;> rfl
  rw [← hstart]
  generalize (if k.state.done then k.startOver else k) = k
  split
  · rfl
  · exact history_append s k _

@[simp]
theorem history_openWithFactor (s : Settings) (f : Trig) (k : Keypad) :
    (k.openWithFactor s f).history = k.history := by
  unfold openWithFactor
  split <;> rfl

/-- what is in front of a function or a constant is multiplied without a record -/
theorem history_multiplied (s : Settings) (b : Bool) (k : Keypad) :
    (if b then k.pressOperator s .multiply else k).history = k.history := by
  cases b with
  | false => rfl
  | true => exact history_pressOperator s .multiply k

theorem history_pressConstant (s : Settings) (c : Constant) (k : Keypad) :
    (k.pressConstant s c).history = k.history := by
  rw [← history_multiplied s (k.state.constantUsed || k.state.scope.isClosed || k.state.done) k]
  simp only [pressConstant]
  generalize (if (k.state.constantUsed || k.state.scope.isClosed || k.state.done) = true then
    k.pressOperator s .multiply else k) = k
  split
  · rfl
  split
  · rfl
  split
  · exact history_closeScope s _
  · rfl

theorem history_pressBackspace (k : Keypad) : k.pressBackspace.history = k.history := by
  unfold pressBackspace shortenTrail dropScope dropChar
  repeat' split
  all_goals rfl

theorem history_pressClearEntry (k : Keypad) : k.pressClearEntry.history = k.history := by
  unfold pressClearEntry
  split <;> rfl

theorem history_pressToggleSign (k : Keypad) : k.pressToggleSign.history = k.history := by
  unfold pressToggleSign
  simp only
  repeat' split
  all_goals rfl

/-! ## The way to a record -/

/-- A calculation that was broken off wrote nothing and shows no result; any other is finished, with
nothing written before. -/
def Completes (s : Settings) (k k' : Keypad) : Prop :=
  (k'.state.done = false ∧ k'.history = k.history) ∨
    ∃ k₁ : Keypad, k₁.history = k.history ∧ k' = k₁.finish s

/-- a finite result is recorded with the trail that it is shown with -/
theorem history_finish (s : Settings) (k : Keypad) :
    (k.finish s).history =
      if (k.finish s).state.result.isFinite = true then
        k.history.push ⟨(k.finish s).display.trail, (k.finish s).state.result, s.now⟩
      else k.history :=
  rfl

theorem Completes.history_eq {k' : Keypad} (h : Completes s k k') :
    k'.history =
      if k'.state.done = true ∧ k'.state.result.isFinite = true then
        k.history.push ⟨k'.display.trail, k'.state.result, s.now⟩
      else k.history := by
  rcases h with ⟨hd, hh⟩ | ⟨k₁, hh, rfl⟩
  · rw [if_neg (by simp [hd]), hh]
  · have hd : (k₁.finish s).state.done = true := rfl
    simp only [hd, true_and]
    rw [history_finish, hh]

@[simp]
theorem done_takeOperand (k : Keypad) : k.takeOperand.1.state.done = k.state.done := by
  unfold takeOperand
  repeat' split
  all_goals rfl

@[simp]
theorem done_commit (k : Keypad) : k.commit.state.done = k.state.done := by
  unfold commit
  simp only
  repeat' split
  all_goals rfl

/-- the `=` key behind anything but a result -/
theorem completes_pressEquals (s : Settings) (hd : k.state.done = false) :
    Completes s k (k.pressEquals s) := by
  simp only [pressEquals]
  rw [if_neg (by simp [hd])]
  have hd₁ : (k.closeScope s).state.done = false := (done_closeScope s k).trans hd
  have hh₁ : (k.closeScope s).history = k.history := history_closeScope s k
  generalize k.closeScope s = k₁ at hd₁ hh₁ ⊢
  split
  · exact .inl ⟨hd₁, hh₁⟩
  have hd₂ : k₁.takeOperand.1.state.done = false := (done_takeOperand k₁).trans hd₁
  have hh₂ : k₁.takeOperand.1.history = k.history := (history_takeOperand k₁).trans hh₁
  generalize k₁.takeOperand = taken at hd₂ hh₂ ⊢
  obtain ⟨k₂, x⟩ := taken
  cases x with
  | none => exact .inl ⟨hd₂, hh₂⟩
  | some x =>
    simp only
    split
    · exact .inr ⟨{ k₂ with state.result := x }, hh₂, rfl⟩
    split
    · exact .inl ⟨(done_commit _).trans hd₂, (history_commit _).trans hh₂⟩
    · exact .inr ⟨commit { k₂ with state.second := x }, (history_commit _).trans hh₂, rfl⟩

/-- a function applied to a result, which is keyed anew -/
theorem completes_applyToResult (s : Settings) (f : Trig) (k : Keypad) :
    Completes s k (k.applyToResult s f) := by
  simp only [applyToResult]
  generalize hk₁ : closeScope s (append s _ (Format.result k.state.result)) = k₁
  have hd₁ : k₁.state.done = false := by
    rw [← hk₁, done_closeScope, done_append]
  have hh₁ : k₁.history = k.history := by
    rw [← hk₁, history_closeScope, history_append]
    rfl
  split
  · exact .inl ⟨hd₁, hh₁⟩
  · rw [Completes, ← hh₁]
    exact completes_pressEquals s hd₁

/-- behind a result an operator continues the chain -/
theorem pressOperator_of_done (h : k.state.Active) (hd : k.state.done = true) (op : Operator) :
    k.pressOperator s op = k.continueChain op := by
  simp only [pressOperator, closeScope_of_isOpen_eq_false (h.done hd).2.1]
  rw [if_neg h.not_failed, if_pos hd]

/-- A function behind a result is applied to it.  Where a constant is pending besides, it is
multiplied instead, and the function waits for its operand. -/
theorem completes_pressFunction (s : Settings) (f : Trig) (h : k.state.Active)
    (hd : k.state.done = true) : Completes s k (k.pressFunction s f) := by
  simp only [pressFunction, (h.done hd).2.2, Bool.or_false, pressOperator_of_done h hd]
  cases k.state.constantUsed with
  | true =>
    refine .inl ⟨?_, history_openWithFactor s f (k.continueChain .multiply)⟩
    show ((k.continueChain .multiply).openWithFactor s f).state.done = false
    unfold openWithFactor
    split <;> rfl
  | false =>
    simp only [Bool.false_eq_true, if_false]
    rw [if_neg h.not_failed, if_pos hd]
    exact completes_applyToResult s f k

/-- a function behind anything but a result is opened, at most -/
theorem history_pressFunction (s : Settings) (f : Trig) (h : k.state.Active)
    (hd : k.state.done = false) : (k.pressFunction s f).history = k.history := by
  rw [← history_multiplied s (k.state.constantUsed || k.state.scope.isClosed) k]
  simp only [pressFunction]
  generalize hk₁ : (if (k.state.constantUsed || k.state.scope.isClosed) = true then
    k.pressOperator s .multiply else k) = k₁
  have hm : k₁.state.Stopped ∨ k₁.state.done = false := by
    rcases multiplied_cases hk₁ h with hstop | ⟨-, -, hw⟩ | ⟨-, rfl⟩
    · exact .inl hstop
    · exact .inr hw.idle.1
    · exact .inr hd
  rcases hm with hstop | hd₁
  · rw [if_pos hstop.failed]
  split
  · rfl
  rw [if_neg (by simp [hd₁])]
  split
  · split
    · exact history_closeScope s k₁
    · split <;> simp
  · exact history_openWithFactor s f k₁

/-! ## Keys -/

def Key.kind : Key → EventKind
  | .digit _ => .digit
  | .point => .decimalPoint
  | .operator _ => .operator
  | .function _ => .function
  | .constant _ => .constant
  | .equals => .equals
  | .backspace => .backspace
  | .clearEntry => .clearEntry
  | .clearAll => .clearAll
  | .toggleSign => .signToggle

/-- the keys that complete a calculation: `=`, or a function behind a result -/
def Key.completes (st : State) : Key → Bool
  | .equals => !st.done
  | .function _ => st.done
  | .digit _ | .point | .operator _ | .constant _ | .backspace | .clearEntry | .clearAll
  | .toggleSign => false

/-- any other key writes nothing -/
theorem history_handle_of_not_completes (s : Settings) {key : Key} (h : k.state.Active)
    (hkey : key.completes k.state = false) : (k.handle s key).history = k.history := by
  cases key with
  | digit d => exact history_pressDigit s d k
  | point => exact history_pressPoint s k
  | operator op => exact history_pressOperator s op k
  | function f => exact history_pressFunction s f h hkey
  | constant c => exact history_pressConstant s c k
  | equals =>
    have hd : k.state.done = true := by simpa [Key.completes] using hkey
    show (k.pressEquals s).history = k.history
    rw [pressEquals, if_pos hd]
  | backspace => exact history_pressBackspace k
  | clearEntry => exact history_pressClearEntry k
  | clearAll => rfl
  | toggleSign => exact history_pressToggleSign k

theorem completes_handle (s : Settings) {key : Key} (h : k.state.Active)
    (hkey : key.completes k.state = true) : Completes s k (k.handle s key) := by
  cases key with
  | function f => exact completes_pressFunction s f h hkey
  | equals => exact completes_pressEquals s (by simpa [Key.completes] using hkey)
  | digit | point | operator | constant | backspace | clearEntry | clearAll | toggleSign =>
    cases hkey

/-- A key records one calculation or none: the one on display, if the key completes one and it is
finite. -/
theorem history_press (s : Settings) (key : Key) (h : k.state.Sound) :
    (k.press s key).history =
      if key.completes k.state = true ∧ (k.press s key).state.done = true ∧
          (k.press s key).state.result.isFinite = true then
        k.history.push ⟨(k.press s key).display.trail, (k.press s key).state.result, s.now⟩
      else k.history := by
  unfold press
  split
  · rename_i hf
    rw [acknowledge, if_pos hf]
    have hd : k.startOver.state.done = false := rfl
    rw [if_neg (by simp [hd])]
    rfl
  rename_i hf
  have ha : k.state.Active := h.active (by simpa using hf)
  rw [history_refreshPreview, state_refreshPreview, trail_refreshPreview]
  cases hkey : key.completes k.state with
  | false =>
    rw [if_neg (by simp)]
    exact history_handle_of_not_completes s ha hkey
  | true =>
    simp only [true_and]
    exact (completes_handle s ha hkey).history_eq

/-! ## Events -/

theorem kind_of_ofValues {kind : EventKind} {values : List Text} {key : Key}
    (h : Key.ofValues kind values = some (.ok key)) : key.kind = kind := by
  have hfound : ∀ {α : Type} {r : Except Fault α} {g : α → Key}, (∀ a, (g a).kind = kind) →
      some (r.map g) = some (.ok key) → key.kind = kind := by
    intro α r g hg hr
    cases r with
    | error f => cases hr
    | ok a =>
      cases hr
      exact hg a
  match kind, values with
  | .digit, [t] =>
    rw [Program.ofValues_digit] at h
    exact hfound (fun _ => rfl) h
  | .operator, [t] | .function, [t] | .constant, [t] => exact hfound (fun _ => rfl) h
  | .decimalPoint, [] | .equals, [] | .backspace, [] | .clearEntry, [] | .clearAll, []
  | .signToggle, [] =>
    cases h
    rfl
  | .digit, [] | .operator, [] | .function, [] | .constant, [] => cases h
  | .digit, _ :: _ :: _ | .operator, _ :: _ :: _ | .function, _ :: _ :: _
  | .constant, _ :: _ :: _ => cases h
  | .decimalPoint, _ :: _ | .equals, _ :: _ | .backspace, _ :: _ | .clearEntry, _ :: _
  | .clearAll, _ :: _ | .signToggle, _ :: _ => cases h

/-- an event that is handled is a key of its kind -/
theorem exists_press_of_applyNamed {kind : String} {value : Option Argument} {k' : Keypad}
    (h : k.applyNamed s kind value = .ok k') :
    ∃ key : Key, key.kind.word = kind ∧ k' = k.press s key := by
  unfold applyNamed at h
  split at h
  case h_2 => cases h
  rename_i kd hkd
  have hword : kd.word = kind := by
    simpa using List.find?_some hkd
  unfold apply at h
  split at h
  · rename_i hf
    cases h
    have hkey : ∃ key : Key, key.kind = kd := by
      cases kd
      exacts [⟨.digit 0, rfl⟩, ⟨.point, rfl⟩, ⟨.operator .add, rfl⟩, ⟨.function .sin, rfl⟩,
        ⟨.constant .pi, rfl⟩, ⟨.equals, rfl⟩, ⟨.backspace, rfl⟩, ⟨.clearEntry, rfl⟩,
        ⟨.clearAll, rfl⟩, ⟨.toggleSign, rfl⟩]
    obtain ⟨key, rfl⟩ := hkey
    exact ⟨key, hword, by rw [press, if_pos hf]⟩
  · cases hk : Event.key ⟨kd, value⟩ with
    | error f =>
      rw [hk] at h
      cases h
    | ok key =>
      rw [hk] at h
      cases h
      refine ⟨key, ?_, rfl⟩
      rw [← hword]
      unfold Event.key at hk
      split at hk
      · rename_i hr
        rw [hk] at hr
        rw [kind_of_ofValues hr]
      · cases hk

theorem completes_iff (key : Key) (st : State) :
    key.completes st = true ↔
      key.kind.word = "equals" ∧ st.done = false ∨ key.kind.word = "function" ∧ st.done = true := by
  cases key <;> simp [Key.completes, Key.kind, EventKind.word]

/-! ## Main result -/

/-- **One record for each completed calculation**: behind any events, an event that is handled
records just what is on display then, the trail and the result, if it is `=` behind anything but a
result or a function behind a result, and a finite result is on display afterwards; it records
nothing otherwise, and neither does an event that breaks off.  The log may be any, so one with room
tells one record from none and from two. -/
theorem recorded_once (s : Settings) (history : History) (errors : ErrorLog) (es : List Signal)
    (e : Signal) :
    let k := es.foldl (Program.after s) (.fresh history errors)
    (∀ k', (Program.receive s e.kind e.value).run k = .ok () k' →
      k'.history =
        if (e.kind = "equals" ∧ k.state.done = false ∨ e.kind = "function" ∧ k.state.done = true) ∧
            k'.state.done = true ∧ k'.state.result.isFinite = true then
          k.history.push ⟨k'.display.trail, k'.state.result, s.now⟩
        else k.history) ∧
    ∀ f k', (Program.receive s e.kind e.value).run k = .error f k' → k'.history = k.history := by
  intro k
  have h : k.state.Sound := (Program.reached_foldl_after es (.fresh history errors)).sound
  refine ⟨?_, ?_⟩
  · intro k' hrun
    rw [Program.run_receive s h] at hrun
    cases happly : k.applyNamed s e.kind e.value with
    | error f =>
      rw [happly] at hrun
      cases hrun
    | ok k'' =>
      rw [happly] at hrun
      cases hrun
      obtain ⟨key, hkind, rfl⟩ := exists_press_of_applyNamed happly
      rw [history_press s key h]
      simp only [completes_iff, hkind]
  · intro f k' hrun
    rw [Program.run_receive s h] at hrun
    cases happly : k.applyNamed s e.kind e.value with
    | ok k'' =>
      rw [happly] at hrun
      cases hrun
    | error f' =>
      rw [happly] at hrun
      cases hrun
      rfl

/-- `9 =` and then `sin`: the function is applied to the result, and that is the second record -/
theorem recorded_once_sine :
    let s : Settings := { lib := ⟨id, id, id, id, id, id⟩ }
    let k := [⟨"digit", some (.number 9)⟩, ⟨"equals", none⟩].foldl (Program.after s)
      (.fresh .initial .initial)
    k.state.done = true ∧ k.history.entries = [⟨['9'], 9, s.now⟩] ∧
      ∃ k', (Program.receive s "function" (some (.text "sin".toList))).run k = .ok () k' ∧
        k'.history = k.history.push ⟨"sin(9)".toList, k'.state.result, s.now⟩ := by
  intro s k
  have hd : k.state.done = true := by decide +kernel
  have hf : k.state.failed = false := by decide +kernel
  have h : k.state.Sound := (Program.reached_foldl_after _ (.fresh .initial .initial)).sound
  have hrun : (Program.receive s "function" (some (.text "sin".toList))).run k =
      .ok () (k.press s (.function .sin)) := by
    have happly : k.applyNamed s "function" (some (.text "sin".toList)) =
        .ok (k.press s (.function .sin)) := by
      show k.apply s ⟨.function, _⟩ = _
      rw [apply, hf]
      rfl
    rw [Program.run_receive s h, happly]
  have hrecord := (recorded_once s .initial .initial
    [⟨"digit", some (.number 9)⟩, ⟨"equals", none⟩]
    ⟨"function", some (.text "sin".toList)⟩).1 _ hrun
  rw [if_pos ⟨.inr ⟨rfl, hd⟩, by decide +kernel, by decide +kernel⟩] at hrecord
  have htrail : (k.press s (.function .sin)).display.trail = "sin(9)".toList := by decide +kernel
  refine ⟨hd, by decide +kernel, _, hrun, ?_⟩
  rw [← htrail]
  exact hrecord

end PocketCalc.Keypad
