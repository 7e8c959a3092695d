import PocketCalc.Proofs.Keypad.Restart
import PocketCalc.Proofs.Keypad.Undo

/-!
# How long an entry gets

A digit or a point goes behind the entry unless that is full.  Before either is typed, a closed
scope or a constant is multiplied, and that empties the entry or ends in an error.  What is left
over is the parenthesis: an open scope that ends in a constant is closed first, and no limit counts
that.

* `buffer_closeScope`           the parenthesis behind a scope;
* `pressOperator_cases`         an operator empties the entry, or it stops on it;
* `readyForNumber_cases`        the entry that a number is typed behind;
* `length_append_le`            a text for which there is room;
* `length_press_typesNumber`    the limit, with the one entry that passes it;
* `closed_beyond_limit`         a run to such an entry.
-/

namespace PocketCalc.Keypad
open Text

variable {s : Settings} {k : Keypad}

/-! ## Multiplying what is in front -/

/-- closing the scope writes its parenthesis, or there is an error and the entry stays -/
theorem buffer_closeScope (s : Settings) (ha : k.state.Active) :
    (k.closeScope s).state.buffer = k.state.buffer ∨
      (k.state.scope.isOpen = true ∧ (k.closeScope s).state.failed = false ∧
        (k.closeScope s).state.scope.isClosed = true ∧
        (k.closeScope s).state.buffer = k.state.buffer ++ [')']) := by
  cases ho : k.state.scope.isOpen with
  | false =>
    rw [closeScope_of_isOpen_eq_false ho]
    exact .inl rfl
  | true =>
    obtain ⟨-, f, -, hset, hfn, -⟩ := ha.scope.of_isOpen ho
    rcases closeScope_cases (s := s) ho hset hfn with ⟨-, he⟩ | ⟨x, e, -, -, he⟩ | ⟨x, y, -, -, he⟩
    · rw [he]
      exact .inl rfl
    · rw [he]
      exact .inl rfl
    · rw [he]
      exact .inr ⟨rfl, ha.failed, rfl, rfl⟩

/-- where an operator key stops with no scope open, the entry stays; behind a closed scope it was
the pending operation that failed -/
theorem buffer_pressOperator_of_stopped {op : Operator} (ha : k.state.Active)
    (ho : k.state.scope.isOpen = false) (hstop : (k.pressOperator s op).state.Stopped) :
    (k.pressOperator s op).state.buffer = k.state.buffer ∧
      (k.state.scope.isClosed = true → k.state.operatorSet = true) := by
  have hfailed := hstop.failed
  revert hfailed
  simp only [pressOperator, closeScope_of_isOpen_eq_false ho]
  rw [if_neg ha.not_failed]
  split
  · intro hf
    cases hf
  split
  · exact fun hf => absurd hf ha.not_failed
  cases htake : k.takeOperand with
  | mk k' x =>
    cases x with
    | none =>
      intro _
      rcases takeOperand_cases k with ⟨y, -, he⟩ | ⟨-, -, he⟩ | ⟨-, -, -, he⟩ | ⟨-, hc, -, he⟩
      all_goals
        rw [he] at htake
        cases htake
      exact ⟨rfl, fun hc' => absurd (hc.symm.trans hc') Bool.false_ne_true⟩
    | some x =>
      obtain ⟨-, -, hset, hf⟩ := takeOperand_frame htake
      have hb := buffer_takeOperand htake
      simp only
      split
      · rw [state_awaitRight]
        exact fun hf' => absurd ((hf.trans ha.failed).symm.trans hf') Bool.false_ne_true
      rename_i hos
      split
      · refine fun _ => ⟨(buffer_commit _).trans hb, fun _ => ?_⟩
        rw [← hset]
        simpa using hos
      · rename_i hf'
        rw [state_awaitRight]
        exact fun hf'' => absurd hf'' hf'

/-- An operator key empties the entry, or it stops with an error.  The entry stays then, unless a
scope was closed and the pending operation failed on its value. -/
theorem pressOperator_cases (s : Settings) (op : Operator) (ha : k.state.Active) :
    (k.pressOperator s op).state.Awaiting op ∨
      ((k.pressOperator s op).state.Stopped ∧
        ((k.pressOperator s op).state.buffer = k.state.buffer ∨
          (k.state.scope.isOpen = true ∧ k.state.operatorSet = true ∧
            (k.pressOperator s op).state.buffer = k.state.buffer ++ [')']))) := by
  refine (sound_pressOperator s op ha).symm.imp_right fun hstop => ⟨hstop, ?_⟩
  have hclosed := buffer_closeScope s ha
  rcases sound_closeScope s ha with hstop₁ | ⟨ha₁, ho₁⟩
  · have heq : k.pressOperator s op = k.closeScope s := by
      simp only [pressOperator]
      rw [if_pos hstop₁.failed]
    rw [heq]
    rcases hclosed with hb | ⟨-, hf, -⟩
    · exact .inl hb
    · exact absurd hstop₁ (State.not_stopped hf)
  · have heq : k.pressOperator s op = (k.closeScope s).pressOperator s op := by
      simp only [pressOperator, closeScope_of_isOpen_eq_false ho₁]
    rw [heq] at hstop ⊢
    obtain ⟨hb, hset⟩ := buffer_pressOperator_of_stopped ha₁ ho₁ hstop
    obtain ⟨b, sc, hframe⟩ := exists_state_closeScope ha₁.failed
    have hos : (k.closeScope s).state.operatorSet = k.state.operatorSet := by rw [hframe]
    rw [hb]
    rcases hclosed with hb' | ⟨ho, -, hc, hb'⟩
    · exact .inl hb'
    · exact .inr ⟨ho, hos.symm.trans (hset hc), hb'⟩

/-- A number is typed behind the entry as it is, or behind an empty one, or not at all. -/
theorem readyForNumber_cases (s : Settings) (ha : k.state.Active) (hd : k.state.done = false) :
    ((k.readyForNumber s).state.failed = false ∧ (k.readyForNumber s).state.done = false ∧
        (k.readyForNumber s = k ∨ (k.readyForNumber s).state.buffer = [])) ∨
      ((k.readyForNumber s).state.failed = true ∧
        ((k.readyForNumber s).state.buffer = k.state.buffer ∨
          (k.state.scope.isOpen = true ∧ k.state.constantUsed = true ∧
            k.state.operatorSet = true ∧
            (k.readyForNumber s).state.buffer = k.state.buffer ++ [')']))) := by
  unfold readyForNumber
  split
  · rename_i hready
    rcases pressOperator_cases s .multiply ha with hw | ⟨hstop, hb⟩
    · exact .inl ⟨hw.active.failed, hw.idle.1, .inr hw.buffer⟩
    · refine .inr ⟨hstop.failed, hb.imp_right fun ⟨ho, hset, hb⟩ => ⟨ho, ?_, hset, hb⟩⟩
      obtain ⟨-, -, hc, -⟩ := ha.scope.of_isOpen ho
      simpa [hc] using hready
  · exact .inl ⟨ha.failed, hd, .inl rfl⟩

/-! ## Typing -/

/-- a text is typed only behind an entry that is not full -/
theorem length_append_le (hd : k.state.done = false) {t : Text}
    (hroom : (k.state.buffer.length : Int) < s.maxEntry →
      (k.state.buffer.length + t.length : Int) ≤ s.maxEntry) :
    ((k.append s t).state.buffer.length : Int) ≤ max s.maxEntry k.state.buffer.length := by
  by_cases hfull : s.maxEntry ≤ k.state.buffer.length
  · rw [append_of_full hd hfull]
    exact le_max_right _ _
  · have hsame : (if k.state.done then k.startOver else k) = k := if_neg (by simp [hd])
    simp only [append]
    rw [hsame, if_neg hfull]
    show ((k.state.buffer ++ t).length : Int) ≤ _
    rw [List.length_append]
    have := hroom (by omega)
    omega

/-- a key that types a number types one character, or two where nothing was typed -/
theorem handle_typesNumber_cases (hf : (k.readyForNumber s).state.failed = false)
    (hd : (k.readyForNumber s).state.done = false) {key : Key} (hkey : key.typesNumber = true) :
    k.handle s key = k.readyForNumber s ∨
      ∃ t, k.handle s key = (k.readyForNumber s).append s t ∧
        (t.length = 1 ∨
          (key = .point ∧ t.length = 2 ∧ typedText (k.readyForNumber s).state = [])) := by
  cases key with
  | digit d =>
    refine .inr ⟨[Nat.digitChar d], ?_, .inl rfl⟩
    simp only [handle, pressDigit]
    rw [if_neg (by simp [hf])]
  | point =>
    simp only [handle, pressPoint]
    generalize k.readyForNumber s = k₁ at *
    have hsame : (if k₁.state.done then k₁.startOver else k₁) = k₁ := if_neg (by simp [hd])
    rw [if_neg (by simp [hf]), hsame]
    split
    · exact .inl rfl
    · refine .inr ⟨_, rfl, ?_⟩
      split
      · rename_i hnil
        exact .inr ⟨trivial, rfl, hnil⟩
      · exact .inl rfl
  | operator | function | constant | equals | backspace | clearEntry | clearAll | toggleSign =>
    cases hkey

theorem handle_typesNumber_of_failed (hf : (k.readyForNumber s).state.failed = true) {key : Key}
    (hkey : key.typesNumber = true) : k.handle s key = k.readyForNumber s := by
  cases key with
  | digit d => exact if_pos hf
  | point => exact if_pos hf
  | operator | function | constant | equals | backspace | clearEntry | clearAll | toggleSign =>
    cases hkey

/-! ## Main result -/

/-- **A number that is typed keeps to the limit**, or to the length that the entry had before.  It
does not keep to it where a full entry ends in a constant in an open scope and an operation is
pending that fails on the value of the scope: the parenthesis that closes the scope is left behind.
A point with nothing in front is typed as `0.`, and a scope must not have room for just one. -/
theorem length_press_typesNumber (h : Reached s k) (hd : k.state.done = false)
    (hmax : 2 ≤ s.maxEntry) {key : Key} (hkey : key.typesNumber = true)
    (hroom : key = .point → k.state.scope.isOpen = true → k.state.scope.text = [] →
      (k.state.buffer.length + 1 : Int) ≠ s.maxEntry) :
    ((k.press s key).state.buffer.length : Int) ≤ max s.maxEntry k.state.buffer.length ∨
      (k.state.scope.isOpen = true ∧ k.state.constantUsed = true ∧ k.state.operatorSet = true ∧
        s.maxEntry ≤ k.state.buffer.length ∧ (k.press s key).state.failed = true ∧
        (k.press s key).state.buffer = k.state.buffer ++ [')']) := by
  cases hf : k.state.failed with
  | true =>
    left
    rw [press, if_pos hf, acknowledge, if_pos hf]
    exact le_max_of_le_left (by show (0 : Int) ≤ s.maxEntry; omega)
  | false =>
    have ha := h.sound.active hf
    rw [press, if_neg ha.not_failed, state_refreshPreview]
    rcases readyForNumber_cases s ha hd with ⟨hf₁, hd₁, hentry⟩ | ⟨hf₁, hb⟩
    · left
      rcases handle_typesNumber_cases hf₁ hd₁ hkey with he | ⟨t, he, ht⟩
      · rw [he]
        rcases hentry with hsame | hnil
        · rw [hsame]
          exact le_max_right _ _
        · rw [hnil]
          exact le_max_of_le_left (by show (0 : Int) ≤ s.maxEntry; omega)
      rw [he]
      rcases hentry with hsame | hnil
      · rw [hsame] at ht ⊢
        refine length_append_le hd fun hlt => ?_
        rcases ht with hone | ⟨hpoint, htwo, htyped⟩
        · omega
        · rw [typedText] at htyped
          split at htyped
          · rename_i ho
            have hne := hroom hpoint ho htyped
            omega
          · rw [htyped, htwo]
            exact hmax
      · have hle := length_append_le (s := s) (t := t) hd₁ fun _ => by
          rw [hnil]
          simp only [List.length_nil]
          omega
        rw [hnil] at hle
        simp only [List.length_nil] at hle
        omega
    · rw [handle_typesNumber_of_failed hf₁ hkey]
      rcases hb with hb | ⟨ho, hu, hos, hb⟩
      · left
        rw [hb]
        exact le_max_right _ _
      · by_cases hfull : s.maxEntry ≤ k.state.buffer.length
        · exact .inr ⟨ho, hu, hos, hfull, hf₁, hb⟩
        · left
          rw [hb, List.length_append, List.length_singleton]
          omega

/-- thirteen digits, and a fourteenth that is not typed any more -/
theorem length_press_typesNumber_full :
    let k := run {} [.digit 1, .digit 2, .digit 3, .digit 4, .digit 5, .digit 6, .digit 7,
      .digit 8, .digit 9, .digit 0, .digit 1, .digit 2, .digit 3]
    k.state.buffer.length = 13 ∧
      ((k.press {} (.digit 4)).state.buffer.length : Int) ≤ max 13 k.state.buffer.length := by
  intro k
  have hkey : (Key.digit 4).typesNumber = true := rfl
  have ho : ¬ k.state.scope.isOpen = true := by decide +kernel
  refine ⟨by decide +kernel, ?_⟩
  exact (length_press_typesNumber (reached_run _ _) (by decide +kernel) (by decide) hkey
    nofun).resolve_right fun hopen => ho hopen.1

/-- a point in a scope that has room for one character -/
example :
    let s : Settings := { lib := sineOfPi }
    let k := run s [.digit 1, .digit 2, .digit 3, .digit 4, .digit 5, .digit 6, .digit 7, .digit 8,
      .function .sin]
    k.state.buffer.length = 12 ∧ (k.press s .point).state.buffer = "12345678sin(0.".toList := by
  decide +kernel

/-- `5 ÷ 00000000sin(π`, a full entry in which the scope was opened again behind its constant: a
digit multiplies the scope, which is zero, and so the division fails, with the scope closed. -/
theorem closed_beyond_limit :
    let s : Settings := { lib := sineOfPi }
    let k := run s [.digit 5, .operator .divide, .digit 0, .digit 0, .digit 0, .digit 0, .digit 0,
      .digit 0, .digit 0, .digit 0, .function .sin, .constant .pi, .backspace]
    Reached s k ∧ k.state.done = false ∧ s.maxEntry = 13 ∧
      k.state.buffer = "00000000sin(π".toList ∧ k.state.buffer.length = 13 ∧
      (k.press s (.digit 7)).state.buffer = "00000000sin(π)".toList ∧
      (k.press s (.digit 7)).state.buffer.length = 14 ∧
      (k.press s (.digit 7)).display.preview = ErrorKind.divisionByZero.message.toList := by
  intro s k
  exact ⟨reached_run _ _, by decide +kernel, rfl, by decide +kernel, by decide +kernel,
    by decide +kernel, by decide +kernel, by decide +kernel⟩

end PocketCalc.Keypad
