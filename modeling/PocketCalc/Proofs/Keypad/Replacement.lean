import PocketCalc.Proofs.Keypad.Coherence
import PocketCalc.Proofs.Keypad.Typing

/-!
# One operator behind another

An operator key carries out what was pending before, and the operator itself waits.  So there are
two places where it matters which one was pressed, the operator that is pending and the end of the
trail, and another operator takes its place in both.

* `withOperator`                       an operator pending, and at the end of the trail;
* `exists_withOperator_pressOperator`  what an operator key leaves, for all operators at once;
* `press_operator_operator`            the second of two operator keys does the same alone;
* `last_operator_wins`                 however they are spelled.
-/

namespace PocketCalc.Keypad
open Text

/-- the keypad with an operator pending, which stands behind the text `t` in the trail -/
def withOperator (k : Keypad) (t : Text) (op : Operator) : Keypad :=
  { k with state.operator := some op, display.trail := t ++ [op.symbol] }

variable {s : Settings} {k : Keypad}

/-! ## Operators in the trail -/

theorem trailText_append_symbol (t : Text) (op : Operator) :
    trailText (t ++ [op.symbol]) = rewriteNumber t ++ [op.symbol] := by
  have hlast : (t ++ [op.symbol]).getLast? = some op.symbol := List.getLast?_concat
  rw [trailText, hlast]
  simp only
  rw [if_pos (isSign_symbol op), List.dropLast_concat]

theorem replaceOperator_eq_withOperator (op op' : Operator)
    (h : k.display.trail.getLast? = some op'.symbol) :
    k.replaceOperator op = k.withOperator k.display.trail.dropLast op := by
  simp only [replaceOperator, h]
  rw [if_pos (isSign_symbol op')]
  rfl

theorem replaceOperator_withOperator (k : Keypad) (t : Text) (op op' : Operator) :
    (k.withOperator t op').replaceOperator op = k.withOperator t op := by
  have htrail : (k.withOperator t op').display.trail = t ++ [op'.symbol] := rfl
  rw [replaceOperator_eq_withOperator op op' (by rw [htrail, List.getLast?_concat]),
    htrail, List.dropLast_concat]
  rfl

theorem awaitRight_eq_withOperator (op : Operator) (hb : k.state.buffer ≠ []) :
    k.awaitRight op =
      withOperator
        { k with
          state.operatorSet := true, state.buffer := [], state.scope.text := []
          display.entry := blankLine }
        (k.display.trail ++ rewriteNumber (grouped k.state.buffer)) op := by
  simp only [awaitRight]
  rw [if_neg hb, extendTrail]
  simp only [trailText_append_symbol, ← List.append_assoc]
  rfl

/-! ## The operator keys -/

/-- the operand that was entered, and what was pending, for all operators at once -/
theorem exists_withOperator_operation (ha : k.state.Active) (ho : k.state.scope.isOpen = false)
    (hentered : ∀ {k' : Keypad} {x : Float}, k.takeOperand = (k', some x) → k'.state.buffer ≠ [])
    {op : Operator}
    (hf : (operation (fun k x => awaitRight { k with state.first := x } op)
      (fun k => awaitRight { k with state.first := k.state.result } op) k).state.failed = false) :
    ∃ k₀ t, ∀ op,
      operation (fun k x => awaitRight { k with state.first := x } op)
        (fun k => awaitRight { k with state.first := k.state.result } op) k =
      withOperator k₀ t op := by
  revert hf
  unfold operation
  rcases sound_takeOperand ha ho with ⟨k', he, hstop⟩ | ⟨k', x, he, -⟩
  · rw [he]
    exact fun hf => absurd hstop (State.not_stopped hf)
  have hne := hentered he
  simp only [he]
  by_cases hset : (!k'.state.operatorSet) = true
  · simp only [if_pos hset]
    exact fun _ => ⟨_, _, fun op =>
      awaitRight_eq_withOperator (k := { k' with state.first := x }) op hne⟩
  simp only [if_neg hset]
  rw [← buffer_commit { k' with state.second := x }] at hne
  generalize commit { k' with state.second := x } = k₂ at hne ⊢
  by_cases hfailed : k₂.state.failed = true
  · rw [if_pos hfailed]
    exact fun hf => absurd (hf.symm.trans hfailed) Bool.false_ne_true
  simp only [if_neg hfailed]
  exact fun _ => ⟨_, _, fun op =>
    awaitRight_eq_withOperator (k := { k₂ with state.first := k₂.state.result }) op hne⟩

/-- Unless there is an error, what an operator key leaves is the same for all operators, but for the
one that is pending then. -/
theorem exists_withOperator_pressOperator (ha : k.state.Active) (h : k.Coherent) {op : Operator}
    (hf : (k.pressOperator s op).state.failed = false) :
    ∃ k₀ t, ∀ op, k.pressOperator s op = withOperator k₀ t op := by
  revert hf
  simp only [pressOperator]
  rcases sound_closeScope s ha with hstop | ⟨ha₁, ho₁⟩
  · rw [if_pos hstop.failed]
    exact fun hf => absurd hstop (State.not_stopped hf)
  have hshown := shown_closeScope s ha h.toShown ha₁.failed
  have hentered : ∀ {k' : Keypad} {x : Float}, (k.closeScope s).state.done = false →
      ¬ ((k.closeScope s).state.buffer = [] ∧ (k.closeScope s).state.operatorSet = true) →
      (k.closeScope s).takeOperand = (k', some x) → k'.state.buffer ≠ [] := by
    intro k' x hd
    rw [done_closeScope] at hd
    exact buffer_ne_nil_of_takeOperand ha h hd ha₁.failed
  generalize k.closeScope s = k₁ at *
  simp only [if_neg ha₁.not_failed]
  cases hd : k₁.state.done with
  | true =>
    -- behind a result
    exact fun _ => ⟨k₁.continueChain op, Format.strict k₁.state.result, fun _ => rfl⟩
  | false =>
  simp only [Bool.false_eq_true, if_false, Bool.and_eq_true, decide_eq_true_eq]
  by_cases hb : k₁.state.buffer = [] ∧ k₁.state.operatorSet = true
  · -- right behind another operator
    simp only [if_pos hb]
    obtain ⟨op', hop⟩ := Option.isSome_iff_exists.mp (ha₁.operator.symm.trans hb.2)
    have hlast : k₁.display.trail.getLast? = some op'.symbol := by rw [hshown.trail hd, hop]; rfl
    exact fun _ => ⟨k₁, _, fun op => replaceOperator_eq_withOperator op _ hlast⟩
  simp only [if_neg hb]
  exact exists_withOperator_operation ha₁ ho₁ (hentered hd hb)

/-- right behind an operator another one takes its place -/
theorem State.Awaiting.pressOperator {op' : Operator} (hw : k.state.Awaiting op') (op : Operator) :
    k.pressOperator s op = k.replaceOperator op := by
  obtain ⟨hd, ho, -⟩ := hw.idle
  have hset : k.state.operatorSet = true := by
    rw [hw.active.operator, hw.operator]
    rfl
  simp only [Keypad.pressOperator, closeScope_of_isOpen_eq_false ho]
  rw [if_neg hw.active.not_failed, if_neg (by simp [hd]), if_pos (by simp [hw.buffer, hset])]

/-- an operator key makes nothing of the preview that it finds, once the preview is renewed -/
theorem State.Awaiting.refreshPreview {op : Operator} (hw : k.state.Awaiting op) (t : Text) :
    (k.showPreview t).refreshPreview s = k.refreshPreview s := by
  obtain ⟨hd, ho, -⟩ := hw.idle
  have hsome : (previewText? s k.state).isSome = true := by
    unfold previewText?
    rw [hw.active.failed, hd, ho, hw.buffer]
    simp only [Bool.or_self, Bool.false_eq_true, if_false, Bool.false_and]
    repeat' split
    all_goals rfl
  obtain ⟨u, hu⟩ := Option.isSome_iff_exists.mp hsome
  rw [refreshPreview_eq, refreshPreview_eq, state_showPreview, hu]
  rfl

/-! ## Main result -/

theorem press_operator_operator (h : Reached s k) (hf : k.state.failed = false)
    {op₁ op₂ : Operator} (hf₁ : (k.press s (.operator op₁)).state.failed = false) :
    (k.press s (.operator op₁)).press s (.operator op₂) = k.press s (.operator op₂) := by
  have ha := h.sound.active hf
  have hpress : ∀ op, k.press s (.operator op) = (k.pressOperator s op).refreshPreview s := by
    intro op
    rw [press, if_neg ha.not_failed]
    rfl
  rw [hpress op₁, state_refreshPreview] at hf₁
  have hw := (sound_pressOperator s op₁ ha).resolve_left (State.not_stopped hf₁)
  obtain ⟨k₀, t, hall⟩ := exists_withOperator_pressOperator ha (h.coherent hf) hf₁
  -- the second key finds the operator of the first one pending, and a preview
  obtain ⟨u, hu⟩ := refreshPreview_eq_showPreview s (k.pressOperator s op₁)
  have hw₁ : ((k.pressOperator s op₁).showPreview u).state.Awaiting op₁ := hw
  have hreplaced : ((k.pressOperator s op₁).showPreview u).pressOperator s op₂ =
      (k.pressOperator s op₂).showPreview u := by
    rw [hw₁.pressOperator, hall op₂, ← replaceOperator_withOperator k₀ t op₂ op₁, ← hall op₁]
    rfl
  have hf₂ : (k.pressOperator s op₂).state.failed = false := by
    rw [hall op₂]
    rw [hall op₁] at hf₁
    exact hf₁
  have hw₂ := (sound_pressOperator s op₂ ha).resolve_left (State.not_stopped hf₂)
  rw [hpress op₁, hpress op₂, hu, press, if_neg hw₁.active.not_failed]
  show (((k.pressOperator s op₁).showPreview u).pressOperator s op₂).refreshPreview s = _
  rw [hreplaced, hw₂.refreshPreview]

/-- **The last operator wins**: on every run that shows no error, of two operator keys, however they
are spelled, the second comes to the same with the first one or without it, state, display and both
logs, unless the first one fails. -/
theorem last_operator_wins (h : Reached s k) (hf : k.state.failed = false)
    (w₁ w₂ : OperatorWord) :
    ∃ k₁ k₂, k.feed s w₁.text = .ok k₁ ∧ k.feed s w₂.text = .ok k₂ ∧
      (k₁.state.failed = false → k₁.feed s w₂.text = .ok k₂) := by
  refine ⟨_, _, feed_operator s k w₁, feed_operator s k w₂, fun hf₁ => ?_⟩
  rw [feed_operator, press_operator_operator h hf hf₁]

/-- `2 + sin 30` with `-` and then `*`: the scope is closed, the sum is carried out, and `×` is
pending -/
theorem last_operator_wins_sine :
    let s : Settings := { lib := ⟨id, id, id, id, id, id⟩ }
    let k := run s [.digit 2, .operator .add, .function .sin, .digit 3, .digit 0]
    let k₁ := k.press s (.operator .subtract)
    k.state.failed = false ∧ k₁.state.failed = false ∧ k₁.display.trail = "2+sin(30)-".toList ∧
      (k.press s (.operator .multiply)).display.trail = "2+sin(30)×".toList ∧
      k.feed s ['−'] = .ok k₁ ∧ k₁.feed s ['*'] = k.feed s ['*'] := by
  intro s k k₁
  have hf : k.state.failed = false := by decide +kernel
  have hf₁ : k₁.state.failed = false := by decide +kernel
  obtain ⟨k', k'', hk', hk'', hboth⟩ := last_operator_wins (s := s) (k := k) (reached_run _ _) hf
    ⟨['−'], .subtract, rfl⟩ ⟨['*'], .multiply, rfl⟩
  have hk₁ : k.feed s ['−'] = .ok k₁ := feed_operator s k ⟨['−'], .subtract, rfl⟩
  have hsame : k' = k₁ := Except.ok.inj (hk'.symm.trans hk₁)
  rw [hsame] at hboth
  exact ⟨hf, hf₁, by decide +kernel, by decide +kernel, hk₁, (hboth hf₁).trans hk''.symm⟩

end PocketCalc.Keypad
