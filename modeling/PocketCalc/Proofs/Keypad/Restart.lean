import PocketCalc.Proofs.Keypad.Alarm
import PocketCalc.Proofs.Keypad.Pending
import PocketCalc.Proofs.Keypad.Recorded
import PocketCalc.Proofs.Keypad.Unread

/-!
# Typing behind a result

A number that is typed behind a result starts a new calculation, as if nothing had been pressed
before.  Before anything is typed, a pending constant is multiplied, result or not.  So the
calculation is new exactly where `=` has left no constant pending.

* `Key.typesNumber`                 the digits and the decimal point;
* `handle_startOver_of_done`        behind a result such a key does what it does at first;
* `operator_handle_of_done`         unless a constant is pending: then it continues the result;
* `press_of_done_iff`               the two together, on every run;
* `result_times_number`             a run on which a result is continued.
-/

namespace PocketCalc.Keypad
open Text

/-- the keys that a number is typed with -/
def Key.typesNumber : Key → Bool
  | .digit _ | .point => true
  | .operator _ | .function _ | .constant _ | .equals | .backspace | .clearEntry | .clearAll
  | .toggleSign => false

variable {s : Settings} {k : Keypad}

/-! ## With no constant pending -/

/-- what is typed behind a result is typed on an empty entry -/
theorem append_startOver_of_done (hd : k.state.done = true) (t : Text) :
    k.startOver.append s t = k.append s t := by
  simp only [append]
  rw [if_pos hd]
  rfl

theorem handle_startOver_of_done (ha : k.state.Active) (hd : k.state.done = true)
    (hu : k.state.constantUsed = false) {key : Key} (hkey : key.typesNumber = true) :
    k.startOver.handle s key = k.handle s key := by
  have hready : k.readyForNumber s = k := by
    rw [readyForNumber, (ha.done hd).2.2, hu]
    rfl
  have hready' : k.startOver.readyForNumber s = k.startOver := rfl
  cases key with
  | digit d =>
    simp only [handle, pressDigit, hready, hready']
    rw [if_neg ha.not_failed, if_neg (active_startOver k).not_failed]
    exact append_startOver_of_done hd _
  | point =>
    simp only [handle, pressPoint, hready, hready', hd, if_true]
    rw [if_neg ha.not_failed, if_neg (active_startOver k).not_failed]
    rfl
  | operator | function | constant | equals | backspace | clearEntry | clearAll | toggleSign =>
    cases hkey

/-! ## With a constant pending -/

/-- what is typed behind an operator leaves the operator -/
theorem operator_append (hd : k.state.done = false) (t : Text) :
    (k.append s t).state.operator = k.state.operator := by
  have hsame : (if k.state.done then k.startOver else k) = k := if_neg (by simp [hd])
  simp only [append]
  rw [hsame]
  split <;> rfl

/-- a constant that is pending behind a result is multiplied with what comes next -/
theorem operator_handle_of_done (ha : k.state.Active) (hd : k.state.done = true)
    (hu : k.state.constantUsed = true) {key : Key} (hkey : key.typesNumber = true) :
    (k.handle s key).state.operator = some .multiply := by
  have hready : (k.readyForNumber s).state.failed = false ∧
      (k.readyForNumber s).state.done = false ∧
      (k.readyForNumber s).state.operator = some .multiply := by
    unfold readyForNumber
    rw [hu, Bool.or_true, if_pos rfl, pressOperator_of_done ha hd]
    exact ⟨rfl, rfl, rfl⟩
  cases key with
  | digit d =>
    simp only [handle, pressDigit]
    generalize k.readyForNumber s = k₁ at *
    obtain ⟨hf, hd₁, hop⟩ := hready
    rw [if_neg (by simp [hf]), operator_append hd₁]
    exact hop
  | point =>
    simp only [handle, pressPoint]
    generalize k.readyForNumber s = k₁ at *
    obtain ⟨hf, hd₁, hop⟩ := hready
    have hsame : (if k₁.state.done then k₁.startOver else k₁) = k₁ := if_neg (by simp [hd₁])
    rw [if_neg (by simp [hf]), hsame]
    split
    · exact hop
    · rw [operator_append hd₁]
      exact hop
  | operator | function | constant | equals | backspace | clearEntry | clearAll | toggleSign =>
    cases hkey

/-- on a fresh keypad no operator is pending behind such a key -/
theorem operator_press_fresh (history : History) (errors : ErrorLog) {key : Key}
    (hkey : key.typesNumber = true) :
    ((fresh history errors).press s key).state.operator = none := by
  have hf : ¬ (fresh history errors).state.failed = true := Bool.false_ne_true
  rw [press, if_neg hf, state_refreshPreview]
  cases key with
  | digit d => exact operator_append (k := fresh history errors) rfl _
  | point => exact operator_append (k := fresh history errors) rfl _
  | operator | function | constant | equals | backspace | clearEntry | clearAll | toggleSign =>
    cases hkey

/-! ## The logs -/

/-- pending constant or not, no error comes up -/
theorem quiet_handle_of_done (s : Settings) (ha : k.state.Active) (hd : k.state.done = true)
    (hq : k.Quiet) {key : Key} (hkey : key.typesNumber = true) :
    (k.handle s key).Quiet ∧ (k.handle s key).errors = k.errors := by
  have hready : (k.readyForNumber s).Quiet ∧ (k.readyForNumber s).errors = k.errors := by
    unfold readyForNumber
    split
    · rw [pressOperator_of_done ha hd]
      exact ⟨⟨rfl, rfl, rfl⟩, rfl⟩
    · exact ⟨hq, rfl⟩
  generalize hk₁ : k.readyForNumber s = k₁ at hready
  obtain ⟨hq₁, he₁⟩ := hready
  cases key with
  | digit d =>
    simp only [handle, pressDigit, hk₁]
    rw [if_neg hq₁.not_failed]
    exact quiet_append s hq₁ he₁ _
  | point =>
    simp only [handle, pressPoint, hk₁]
    rw [if_neg hq₁.not_failed]
    obtain ⟨hq₂, he₂⟩ := quiet_startOver_if hq₁ he₁ k₁.state.done
    generalize (if k₁.state.done then k₁.startOver else k₁) = k₂ at hq₂ he₂ ⊢
    split
    · exact ⟨hq₂, he₂⟩
    · exact quiet_append s hq₂ he₂ _
  | operator | function | constant | equals | backspace | clearEntry | clearAll | toggleSign =>
    cases hkey

/-! ## Main result -/

/-- **A number typed behind a result starts over, unless a constant is still pending**: on every
run, state and display are those of the same key on a fresh keypad exactly where none is.  On a run
that leaves no constant behind none is, and in any case both logs stay what they were. -/
theorem press_of_done_iff (h : Reached s k) (hf : k.state.failed = false)
    (hd : k.state.done = true) {key : Key} (hkey : key.typesNumber = true) :
    ((∀ history errors, (k.press s key).state = ((fresh history errors).press s key).state ∧
        (k.press s key).display = ((fresh history errors).press s key).display) ↔
      k.state.constantUsed = false) ∧
    (Tidy s k → k.state.constantUsed = false) ∧
    (k.press s key).history = k.history ∧ (k.press s key).errors = k.errors := by
  have ha := h.sound.active hf
  have hpress : k.press s key = (k.handle s key).refreshPreview s := by
    rw [press, if_neg ha.not_failed]
  refine ⟨⟨fun hsame => ?_, fun hu history errors => ?_⟩, fun htidy => ?_, ?_, ?_⟩
  · obtain ⟨hstate, -⟩ := hsame .initial .initial
    cases hu : k.state.constantUsed with
    | false => rfl
    | true =>
      have hop := operator_handle_of_done (s := s) ha hd hu hkey
      rw [← state_refreshPreview s (k.handle s key), ← hpress, hstate,
        operator_press_fresh .initial .initial hkey] at hop
      cases hop
  · have hstart : k.press s key = (fresh k.history k.errors).press s key := by
      rw [hpress, ← handle_startOver_of_done ha hd hu hkey]
      rfl
    have hlogs : Relogged False (fresh history errors) (fresh k.history k.errors) :=
      .mk k.history k.errors False.elim
    have hsame := relogged_press s key hlogs
    rw [hstart]
    exact ⟨hsame.state, hsame.display⟩
  · exact (htidy.showsConstant hf).done hd
  · rw [history_press s key h.sound, if_neg]
    cases key with
    | digit | point => simp [Key.completes]
    | operator | function | constant | equals | backspace | clearEntry | clearAll | toggleSign =>
      cases hkey
  · have hq : k.Quiet := by
      rcases h.quiet_or_alarmed with hq | ⟨f, halarm⟩
      · exact hq
      · exact absurd (hf.symm.trans halarm.failed) Bool.false_ne_true
    rw [hpress, errors_refreshPreview]
    exact (quiet_handle_of_done s ha hd hq hkey).2

/-- `2 × π =` and then `7`: a new calculation -/
theorem press_of_done_iff_seven :
    let s : Settings := {}
    let k := run s [.digit 2, .operator .multiply, .constant .pi, .equals]
    k.state.done = true ∧ k.state.constantUsed = false ∧
      (k.press s (.digit 7)).state = ((fresh .initial .initial).press s (.digit 7)).state ∧
      (k.press s (.digit 7)).display.trail = [] ∧
      (k.press s (.digit 7)).history = k.history := by
  intro s k
  have hd : k.state.done = true := by decide +kernel
  have hu : k.state.constantUsed = false := by decide +kernel
  have hkey : (Key.digit 7).typesNumber = true := rfl
  obtain ⟨hiff, -, hhistory, -⟩ := press_of_done_iff (s := s) (k := k) (reached_run _ _)
    (by decide +kernel) hd hkey
  obtain ⟨hstate, hdisplay⟩ := hiff.mpr hu .initial .initial
  refine ⟨hd, hu, hstate, ?_, hhistory⟩
  rw [hdisplay]
  decide +kernel

/-- `sin π`, its parenthesis taken back, and `=`: the constant is still pending, so `2` is the right
operand of a multiplication that nobody asked for. -/
theorem result_times_number :
    let s : Settings := { lib := sineOfPi }
    let k := run s [.function .sin, .constant .pi, .backspace, .equals]
    Reached s k ∧ k.state.failed = false ∧ k.state.done = true ∧
      (k.press s (.digit 2)).display.trail = "0.054804×".toList ∧
      (k.press s (.digit 2)).state.operator = some .multiply ∧
      ((fresh k.history k.errors).press s (.digit 2)).display.trail = [] ∧
      ((fresh k.history k.errors).press s (.digit 2)).state.operator = none := by
  intro s k
  exact ⟨reached_run _ _, by decide +kernel, by decide +kernel, by decide +kernel,
    by decide +kernel, by decide +kernel, by decide +kernel⟩

end PocketCalc.Keypad
