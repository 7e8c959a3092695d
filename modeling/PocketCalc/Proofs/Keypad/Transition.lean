import PocketCalc.Keypad.Press

/-!
# What the transitions of the keypad can come to

Each lemma names the outcomes of one transition, with the condition for each and the keypad that it
leaves behind.  What holds of every state, and what the display shows, is derived from these.

* `closeScope_cases`     an open scope closed;
* `takeOperand_cases`    the number that was entered;
* `commit_cases`         the pending operation;
* `exists_finish_of_pressEquals`   the `=` key without an error;
* `state_dropChar`       a character taken back;
* `state_refreshPreview`, ...   what leaves the state as it is;
* `apply_of_key`         an event that presses a key;
* `related_operation`    what is kept between two keypads that do the same.
-/

namespace PocketCalc.Keypad
open Text

variable {s : Settings} {k : Keypad}

/-! ## The display alone -/

@[simp]
theorem state_showEntry (k : Keypad) : k.showEntry.state = k.state := rfl

@[simp]
theorem state_showPreview (k : Keypad) (t : Text) : (k.showPreview t).state = k.state := rfl

theorem refreshPreview_eq_showPreview (s : Settings) (k : Keypad) :
    ∃ t, k.refreshPreview s = k.showPreview t := by
  unfold refreshPreview
  simp only
  repeat' split
  all_goals exact ⟨_, rfl⟩

@[simp]
theorem state_refreshPreview (s : Settings) (k : Keypad) :
    (k.refreshPreview s).state = k.state := by
  obtain ⟨t, ht⟩ := refreshPreview_eq_showPreview s k
  rw [ht]
  rfl

@[simp]
theorem errors_refreshPreview (s : Settings) (k : Keypad) :
    (k.refreshPreview s).errors = k.errors := by
  obtain ⟨t, ht⟩ := refreshPreview_eq_showPreview s k
  rw [ht]
  rfl

@[simp]
theorem state_shortenTrail (k : Keypad) : k.shortenTrail.state = k.state := by
  unfold shortenTrail
  split
  · split <;> rfl
  · rfl

/-! ## Closing the scope -/

theorem closeScope_of_isOpen_eq_false (h : k.state.scope.isOpen = false) : k.closeScope s = k := by
  simp [closeScope, h]

@[simp]
theorem done_closeScope (s : Settings) (k : Keypad) :
    (k.closeScope s).state.done = k.state.done := by
  unfold closeScope
  simp only
  repeat' split
  all_goals rfl

/-- An open scope without an operand is an error of the entry, one whose value is no usable number
is an error of the preview, and any other is closed on its value. -/
theorem closeScope_cases {f : Trig} (hopen : k.state.scope.isOpen = true)
    (hset : k.state.scope.isSet = true) (hf : k.state.scope.function = some f) :
    (scopeOperand? k.state = none ∧
      k.closeScope s =
        fail { k with state.scope.isOpen := false } (.nothingToApply f.name) .entry) ∨
    (∃ x e, scopeOperand? k.state = some x ∧ scopeValue s k.state.scope f x = .error e ∧
      k.closeScope s =
        fail { k with state.scope.isOpen := false, state.scope.operand := x } e .preview) ∨
    (∃ x y, scopeOperand? k.state = some x ∧ scopeValue s k.state.scope f x = .ok y ∧
      k.closeScope s =
        markClosed
          { k with
            state.scope.isOpen := false, state.scope.operand := x, state.scope.result := y }) := by
  simp only [closeScope, hopen, hset, hf, Bool.not_true, Bool.false_eq_true, if_false]
  cases hx : scopeOperand? k.state with
  | none => exact .inl ⟨rfl, rfl⟩
  | some x =>
    cases hy : scopeValue s k.state.scope f x with
    | error e => exact .inr (.inl ⟨x, e, rfl, hy, by simp only [hy]⟩)
    | ok y => exact .inr (.inr ⟨x, y, rfl, hy, by simp only [hy]⟩)

/-- without an error, closing the scope changes nothing but the entry and the scope -/
theorem exists_state_closeScope (hf : (k.closeScope s).state.failed = false) :
    ∃ b sc, (k.closeScope s).state = { k.state with buffer := b, scope := sc } := by
  revert hf
  simp only [closeScope]
  split
  · exact fun _ => ⟨_, _, rfl⟩
  split
  · split
    · exact nofun
    split
    · exact nofun
    · exact fun _ => ⟨_, _, rfl⟩
  · exact fun _ => ⟨_, _, rfl⟩

/-! ## Taking the operand -/

/-- The operand is the number in the entry, else the value of the closed scope, else the constant;
without any of them there is an error of the entry. -/
theorem takeOperand_cases (k : Keypad) :
    (∃ x, readNumber? k.state.buffer = some x ∧ k.takeOperand = (k, some x)) ∨
    (readNumber? k.state.buffer = none ∧ k.state.scope.isClosed = true ∧
      k.takeOperand = ({ k with state.scope.isClosed := false }, some k.state.scope.result)) ∨
    (readNumber? k.state.buffer = none ∧ k.state.scope.isClosed = false ∧
      k.state.constantUsed = true ∧
      k.takeOperand = ({ k with state.constantUsed := false }, some k.state.constant)) ∨
    (readNumber? k.state.buffer = none ∧ k.state.scope.isClosed = false ∧
      k.state.constantUsed = false ∧
      k.takeOperand = (k.fail (.noOperand k.state.buffer) .entry, none)) := by
  unfold takeOperand
  cases hx : readNumber? k.state.buffer with
  | some x => exact .inl ⟨x, rfl, rfl⟩
  | none =>
    right
    cases hc : k.state.scope.isClosed with
    | true => exact .inl ⟨rfl, rfl, rfl⟩
    | false =>
      right
      cases hu : k.state.constantUsed with
      | true => exact .inl ⟨rfl, rfl, rfl, rfl⟩
      | false => exact .inr ⟨rfl, rfl, rfl, rfl⟩

/-! ## Carrying out the operation -/

/-- a pending operation is carried out, or it is an error of the preview -/
theorem commit_cases {op : Operator} (h : k.state.operator = some op) :
    (∃ f, op.compute [op.symbol] k.state.first k.state.second = .error f ∧
      k.commit =
        fail { k with state.commits := k.state.commits + 1, state.result := 0 } f .preview) ∨
    (∃ x, op.compute [op.symbol] k.state.first k.state.second = .ok x ∧
      k.commit =
        { k with
          state.commits := k.state.commits + 1
          state.result := x
          state.operatorSet := false
          state.justCommitted := true
          display.preview := Format.result x }) := by
  simp only [commit, h]
  cases hx : op.compute [op.symbol] k.state.first k.state.second with
  | error f => exact .inl ⟨f, rfl, rfl⟩
  | ok x => exact .inr ⟨x, rfl, rfl⟩

@[simp]
theorem second_commit (k : Keypad) : k.commit.state.second = k.state.second := by
  unfold commit
  split
  · rfl
  simp only
  split <;> rfl

@[simp]
theorem state_awaitRight (k : Keypad) (op : Operator) :
    (k.awaitRight op).state =
      { k.state with
        operator := some op, operatorSet := true, buffer := [], scope.text := [] } := by
  unfold awaitRight
  simp only
  split <;> rfl

@[simp]
theorem errors_awaitRight (k : Keypad) (op : Operator) : (k.awaitRight op).errors = k.errors := by
  unfold awaitRight
  simp only
  split <;> rfl

/-! ## The `=` key -/

/-- behind a result `=` does nothing; else, unless there is an error, it finishes -/
theorem exists_finish_of_pressEquals (hd : k.state.done = false)
    (hf : (k.pressEquals s).state.failed = false) :
    ∃ k' : Keypad, k.pressEquals s = k'.finish s := by
  revert hf
  simp only [pressEquals]
  rw [if_neg (by simp [hd])]
  split
  · rename_i hfailed
    exact fun hf => absurd (hf.symm.trans hfailed) Bool.false_ne_true
  cases htake : (k.closeScope s).takeOperand with
  | mk k' x =>
    cases x with
    | none =>
      rcases takeOperand_cases (k.closeScope s) with
        ⟨y, -, he⟩ | ⟨-, -, he⟩ | ⟨-, -, -, he⟩ | ⟨-, -, -, he⟩
      all_goals
        rw [he] at htake
        cases htake
      exact nofun
    | some x =>
      simp only
      split
      · exact fun _ => ⟨_, rfl⟩
      split
      · rename_i hfailed
        exact fun hf => absurd (hf.symm.trans hfailed) Bool.false_ne_true
      · exact fun _ => ⟨_, rfl⟩

theorem buffer_finish (s : Settings) (k : Keypad) :
    (k.finish s).state.buffer =
      if k.state.result.isFinite then writeEntry k.state.result else [] :=
  rfl

/-! ## Typing a number -/

/-- no constant is pending in front of a number -/
theorem unused_readyForNumber (s : Settings) (k : Keypad) :
    (k.readyForNumber s).state.constantUsed = false := by
  unfold readyForNumber
  split
  · rfl
  · rename_i hnot
    simp only [Bool.or_eq_true, not_or, Bool.not_eq_true] at hnot
    exact hnot.2

theorem failed_readyForNumber_of_pressDigit {d : Fin 10}
    (hf : (k.pressDigit s d).state.failed = false) :
    (k.readyForNumber s).state.failed = false := by
  revert hf
  simp only [pressDigit]
  split
  · exact id
  · rename_i hf
    exact fun _ => by simpa using hf

theorem failed_readyForNumber_of_pressPoint (hf : (k.pressPoint s).state.failed = false) :
    (k.readyForNumber s).state.failed = false := by
  revert hf
  simp only [pressPoint]
  split
  · exact id
  · rename_i hf
    exact fun _ => by simpa using hf

/-- what is typed takes the place of a result on display -/
@[simp]
theorem done_append (s : Settings) (k : Keypad) (t : Text) : (k.append s t).state.done = false := by
  simp only [append]
  have hstart : (if k.state.done then k.startOver else k).state.done = false := by
    split
    · rfl
    · rename_i hd
      simpa using hd
  generalize (if k.state.done then k.startOver else k) = k at hstart ⊢
  split
  · exact hstart
  · exact hstart

/-- a function behind a result finishes with a result, unless there is an error -/
theorem exists_finish_of_applyToResult {f : Trig}
    (hf : (k.applyToResult s f).state.failed = false) :
    ∃ k' : Keypad, k.applyToResult s f = k'.finish s := by
  revert hf
  simp only [applyToResult]
  split
  · rename_i hfailed
    exact fun hf => absurd (hf.symm.trans hfailed) Bool.false_ne_true
  · exact fun hf => exists_finish_of_pressEquals (by simp) hf

/-! ## Taking a character back -/

def Scope.dropLast (sc : Scope) : Scope :=
  if sc.isOpen then { sc with text := sc.text.dropLast, isStarted := !sc.text.dropLast.isEmpty }
  else sc

/-- a `)` taken back opens the scope again, with its constant if it ends in one -/
theorem state_dropChar_closing (k : Keypad) :
    (k.dropChar ')').state =
      { k.state with
        buffer := k.state.buffer.dropLast
        scope := { k.state.scope with isClosed := false, isOpen := true, isSet := true }
        constantUsed := k.state.scope.text.getLast?.any Constant.isSymbol } :=
  rfl

/-- any other character is taken back from the entry, and from the open scope -/
theorem state_dropChar {c : Char} (h : c ≠ ')') (k : Keypad) :
    (k.dropChar c).state =
      { k.state with
        buffer := k.state.buffer.dropLast
        scope := k.state.scope.dropLast
        constantUsed := !Constant.isSymbol c && k.state.constantUsed
        constant := if Constant.isSymbol c then 1 else k.state.constant } := by
  unfold dropChar Scope.dropLast
  rw [if_neg h]
  cases Constant.isSymbol c <;> cases ho : k.state.scope.isOpen <;> simp [ho]

/-! ## Events -/

/-- an event that carries what its key takes presses that key, whether or not an error is shown -/
theorem apply_of_key (s : Settings) (k : Keypad) {e : Event} {key : Key} (h : e.key = .ok key) :
    k.apply s e = .ok (k.press s key) := by
  cases hf : k.state.failed with
  | true =>
    rw [apply, press, hf]
    rfl
  | false =>
    rw [apply, hf, h]
    rfl

/-! ## Two keypads side by side -/

/-- two conditions that hold together take the same branch -/
theorem related_ite {α : Type} {r : α → α → Prop} {b b' : Prop} [Decidable b] [Decidable b']
    {x y x' y' : α} (hb : b' ↔ b) (ht : b → r x x') (hf : ¬ b → r y y') :
    r (if b then x else y) (if b' then x' else y') := by
  by_cases h : b
  · rw [if_pos h, if_pos (hb.mpr h)]
    exact ht h
  · rw [if_neg h, if_neg fun h' => h (hb.mp h')]
    exact hf h

/-- an operand taken, and the pending operation carried out where there is one: `first` and `last`
say what comes of the operand and of the result -/
def operation (first : Keypad → Float → Keypad) (last : Keypad → Keypad) (k : Keypad) : Keypad :=
  match k.takeOperand with
  | (k, none) => k
  | (k, some x) =>
    if !k.state.operatorSet then first k x
    else
      let k := commit { k with state.second := x }
      if k.state.failed then k else last k

/-- a relation between keypads that its parts keep is kept by an operation -/
theorem related_operation {r : Keypad → Keypad → Prop} {first : Keypad → Float → Keypad}
    {last : Keypad → Keypad}
    (hset : ∀ {k k' : Keypad}, r k k' → k'.state.operatorSet = k.state.operatorSet)
    (hfailed : ∀ {k k' : Keypad}, r k k' → k'.state.failed = k.state.failed)
    (htake : ∀ {k k' : Keypad}, r k k' →
      k'.takeOperand.2 = k.takeOperand.2 ∧ r k.takeOperand.1 k'.takeOperand.1)
    (hcommit : ∀ {k k' : Keypad} (x : Float), r k k' →
      r (commit { k with state.second := x }) (commit { k' with state.second := x }))
    (hfirst : ∀ {k k' : Keypad} (x : Float), r k k' → r (first k x) (first k' x))
    (hlast : ∀ {k k' : Keypad}, r k k' → r (last k) (last k')) {k k' : Keypad} (h : r k k') :
    r (operation first last k) (operation first last k') := by
  obtain ⟨hoperand, h⟩ := htake h
  unfold operation
  generalize k.takeOperand = p at hoperand h ⊢
  generalize k'.takeOperand = p' at hoperand h ⊢
  obtain ⟨k, x⟩ := p
  obtain ⟨k', x'⟩ := p'
  cases hoperand
  cases x with
  | none => exact h
  | some x =>
    refine related_ite (by rw [hset h]) (fun _ => hfirst x h) fun _ => ?_
    have hdone := hcommit x h
    exact related_ite (by rw [hfailed hdone]) (fun _ => hdone) fun _ => hlast hdone

end PocketCalc.Keypad
