import PocketCalc.Keypad.Program
import PocketCalc.Proofs.Keypad.Run
import PocketCalc.Proofs.Steps

/-!
# What is refused, and what cannot break off

The keys step by step come to what they come to as functions, wherever the entry and the scope go
together: the arithmetic breaks off at faults only, which are caught, and the one step of a key that
is not defined everywhere asks for the function of a scope, and is taken in an open scope only.
What is refused is refused in front of the first step that changes anything.

* `numberIn_eq`, `compute_eq`, `scopeValue_eq`   the arithmetic of the keys;
* `run_closeScope`, `run_pressEquals`, ...   each key, step by step;
* `run_handle`, `run_receive`    an event, handled or refused as a whole;
* `exists_key_of_events`         the events of a text command carry what their keys take;
* `Program.after`                the keypad behind an event, whether or not it broke off;
* `refused_unchanged`            on every run of events.
-/

namespace PocketCalc.Keypad
open Text

variable {s : Settings} {k : Keypad}

namespace Program

/-! ## Numbers and texts -/

@[simp]
theorem written_tryResult (x : Float) (limit : Int) :
    written (Format.tryResult x limit) = pure (Format.result x limit) := by
  rw [Format.tryResult_eq]
  rfl

@[simp]
theorem written_tryStrict (x : Float) (limit : Int) :
    written (Format.tryStrict x limit) = pure (Format.strict x limit) := by
  rw [Format.tryStrict_eq]
  rfl

@[simp]
theorem written_tryEntry (x : Float) : written (Format.tryEntry x) = pure (writeEntry x) := by
  rw [Format.tryEntry_eq]
  rfl

@[simp]
theorem numberIn_eq (t : Text) : numberIn t = pure (readNumber? t) := by
  rw [numberIn, Expression.Program.parseIfNumber_eq]
  rfl

/-- an operation breaks off at faults only, which are caught -/
@[simp]
theorem compute_eq (op : Operator) (a b : Float) :
    compute op a b = pure (op.compute [op.symbol] a b) := by
  rw [compute, Expression.Program.compute_eq, Expression.Program.attempt_known]
  rfl

@[simp]
theorem scopeValue_eq (s : Settings) (scope : Scope) (f : Trig) (x : Float) :
    scopeValue s scope f x = pure (Keypad.scopeValue s scope f x) := by
  rw [scopeValue, Expression.Program.computeTrig_eq, Expression.Program.attempt_known]
  rfl

/-- a text with an end is not empty, and its end can be read -/
theorem lastOf_eq {t : Text} {c : Char} (h : t.getLast? = some c) :
    ¬ t = [] ∧ lastOf t = pure c := by
  refine ⟨?_, by rw [lastOf, h]⟩
  rintro rfl
  cases h

/-! ## The preview and the trail -/

theorem resultText_eq (st : State) (x : Float) :
    resultText st x = pure (Keypad.resultText st x) := by
  simp only [resultText, Keypad.resultText, compute_eq, pure_bind, written_tryResult]
  split
  · cases st.operator with
    | none => rfl
    | some op =>
      simp only
      cases op.compute [op.symbol] st.first x <;> rfl
  · rfl

theorem showResult_eq (st : State) (x : Float) :
    showResult st x = modify (showPreview · (Keypad.resultText st x)) := by
  simp only [showResult, resultText_eq, pure_bind]

theorem run_refreshPreview (s : Settings)
    (h : k.state.scope.isSet = true → k.state.scope.function.isSome = true) :
    (refreshPreview s).run k = .ok () (k.refreshPreview s) := by
  simp only [refreshPreview, Keypad.refreshPreview, numberIn_eq, scopeValue_eq, showResult_eq,
    written_tryResult, pure_bind, EStateM.run_bind, EStateM.run_get]
  split
  · rfl
  cases readNumber? k.state.buffer with
  | some x => rfl
  | none =>
    simp only
    split
    · rename_i hset
      obtain ⟨f, hf⟩ := Option.isSome_iff_exists.mp (h (Bool.and_eq_true_iff.mp hset).2)
      cases readNumber? k.state.scope.text with
      | none => rfl
      | some x =>
        simp only [hf]
        cases Keypad.scopeValue s k.state.scope f x <;> rfl
    · repeat' split
      all_goals rfl

theorem rewriteNumber_eq (t : Text) : rewriteNumber t = pure (Keypad.rewriteNumber t) := by
  simp only [rewriteNumber, Keypad.rewriteNumber, numberIn_eq, written_tryStrict, pure_bind]
  cases readNumber? (endingWhile isNumberChar t) <;> rfl

theorem extendTrail_eq (t : Text) : extendTrail t = modify (Keypad.extendTrail · t) := by
  simp only [extendTrail, Keypad.extendTrail, trailText, rewriteNumber_eq, pure_bind]
  cases hc : t.getLast? with
  | none =>
    rw [if_pos (List.getLast?_eq_none_iff.mp hc)]
    simp
    rfl
  | some c =>
    rw [if_neg (lastOf_eq hc).1, (lastOf_eq hc).2]
    simp only [pure_bind]
    split <;> rfl

/-! ## Operations -/

theorem scopeOperand_eq (st : State) : scopeOperand st = pure (scopeOperand? st) := by
  simp only [scopeOperand, scopeOperand?, numberIn_eq, pure_bind]
  cases readNumber? st.scope.text <;> rfl

theorem run_closeScope (s : Settings) (k : Keypad) :
    (closeScope s).run k = .ok () (k.closeScope s) := by
  simp only [closeScope, Keypad.closeScope, scopeOperand_eq, scopeValue_eq, pure_bind,
    EStateM.run_bind, EStateM.run_get]
  split
  · rfl
  simp only [EStateM.run_bind, EStateM.run_modify]
  cases hset : k.state.scope.isSet with
  | false => rfl
  | true =>
    cases hf : k.state.scope.function with
    | none => rfl
    | some f =>
      cases scopeOperand? k.state with
      | none => rfl
      | some x =>
        simp only [EStateM.run_bind, EStateM.run_modify]
        cases Keypad.scopeValue s k.state.scope f x <;> rfl

theorem run_takeOperand (k : Keypad) :
    takeOperand.run k = .ok k.takeOperand.2 k.takeOperand.1 := by
  simp only [takeOperand, Keypad.takeOperand, numberIn_eq, pure_bind, EStateM.run_bind,
    EStateM.run_get]
  cases readNumber? k.state.buffer with
  | some x => rfl
  | none =>
    simp only
    split
    · rfl
    split <;> rfl

theorem run_commit (k : Keypad) : commit.run k = .ok () k.commit := by
  simp only [commit, compute_eq, pure_bind, EStateM.run_bind, EStateM.run_get]
  obtain hop | ⟨op, hop⟩ := Option.eq_none_or_eq_some k.state.operator
  · simp only [hop]
    rw [Keypad.commit, hop]
    rfl
  · simp only [hop]
    rw [EStateM.run_bind, EStateM.run_modify]
    rcases commit_cases hop with ⟨f, hf, he⟩ | ⟨x, hx, he⟩
    · rw [hf, he]
      rfl
    · rw [hx, he]
      simp only [written_tryResult, pure_bind]
      rfl

theorem run_continueChain (op : Operator) (k : Keypad) :
    (continueChain op).run k = .ok () (k.continueChain op) := by
  simp only [continueChain, written_tryStrict, written_tryResult, pure_bind]
  rfl

theorem run_replaceOperator (op : Operator) (k : Keypad) :
    (replaceOperator op).run k = .ok () (k.replaceOperator op) := by
  simp only [replaceOperator, Keypad.replaceOperator, EStateM.run_bind, EStateM.run_get]
  cases hc : k.display.trail.getLast? with
  | none =>
    rw [if_pos (List.getLast?_eq_none_iff.mp hc)]
    rfl
  | some c =>
    rw [if_neg (lastOf_eq hc).1, (lastOf_eq hc).2]
    simp only [pure_bind]
    split <;> rfl

theorem run_awaitRight (op : Operator) (k : Keypad) :
    (awaitRight op).run k = .ok () (k.awaitRight op) := by
  simp only [awaitRight, Keypad.awaitRight, extendTrail_eq, EStateM.run_bind, EStateM.run_get,
    EStateM.run_modify]
  split <;> rfl

theorem run_pressOperator (s : Settings) (op : Operator) (k : Keypad) :
    (pressOperator s op).run k = .ok () (k.pressOperator s op) := by
  simp only [pressOperator, Keypad.pressOperator, EStateM.run_bind, run_closeScope,
    EStateM.run_get]
  generalize k.closeScope s = k
  split
  · rfl
  split
  · exact run_continueChain op k
  split
  · exact run_replaceOperator op k
  simp only [EStateM.run_bind, run_takeOperand]
  cases k.takeOperand with
  | mk k x =>
    cases x with
    | none => rfl
    | some x =>
      simp only [EStateM.run_bind, EStateM.run_get]
      split
      · simp only [EStateM.run_bind, EStateM.run_modify, run_awaitRight]
      · simp only [EStateM.run_bind, EStateM.run_get, EStateM.run_modify, run_commit]
        split
        · rfl
        · simp only [EStateM.run_bind, EStateM.run_modify, run_awaitRight]

theorem run_finish (s : Settings) (k : Keypad) : (finish s).run k = .ok () (k.finish s) := by
  simp only [finish, Keypad.finish, extendTrail_eq, written_tryResult, written_tryEntry, pure_bind,
    EStateM.run_bind, EStateM.run_get, EStateM.run_modify]
  split <;> rfl

theorem run_pressEquals (s : Settings) (k : Keypad) :
    (pressEquals s).run k = .ok () (k.pressEquals s) := by
  simp only [pressEquals, Keypad.pressEquals, EStateM.run_bind, EStateM.run_get]
  split
  · rfl
  simp only [EStateM.run_bind, run_closeScope, EStateM.run_get]
  generalize k.closeScope s = k
  split
  · rfl
  simp only [EStateM.run_bind, run_takeOperand]
  cases k.takeOperand with
  | mk k x =>
    cases x with
    | none => rfl
    | some x =>
      simp only [EStateM.run_bind, EStateM.run_get]
      split
      · simp only [EStateM.run_bind, EStateM.run_modify, run_finish]
      · simp only [EStateM.run_bind, EStateM.run_get, EStateM.run_modify, run_commit]
        split
        · rfl
        · exact run_finish s _

/-! ## Typing -/

theorem run_readyForNumber (s : Settings) (k : Keypad) :
    (readyForNumber s).run k = .ok () (k.readyForNumber s) := by
  simp only [readyForNumber, Keypad.readyForNumber, EStateM.run_bind, EStateM.run_get]
  split
  · simp only [EStateM.run_bind, run_pressOperator, EStateM.run_modify]
  · rfl

theorem run_pressDigit (s : Settings) (d : Fin 10) (k : Keypad) :
    (pressDigit s d).run k = .ok () (k.pressDigit s d) := by
  simp only [pressDigit, Keypad.pressDigit, EStateM.run_bind, run_readyForNumber, EStateM.run_get]
  split <;> rfl

theorem run_pressPoint (s : Settings) (k : Keypad) :
    (pressPoint s).run k = .ok () (k.pressPoint s) := by
  simp only [pressPoint, Keypad.pressPoint, EStateM.run_bind, run_readyForNumber, EStateM.run_get]
  split
  · rfl
  simp only [EStateM.run_bind, EStateM.run_get, EStateM.run_modify]
  generalize (if (k.readyForNumber s).state.done = true then (k.readyForNumber s).startOver
    else k.readyForNumber s) = k
  split <;> rfl

/-! ## Functions and constants -/

theorem run_applyToResult (s : Settings) (f : Trig) (k : Keypad) :
    (applyToResult s f).run k = .ok () (k.applyToResult s f) := by
  simp only [applyToResult, Keypad.applyToResult, written_tryResult, pure_bind,
    EStateM.run_bind, run_closeScope, EStateM.run_get, EStateM.run_modify]
  split
  · rfl
  · exact run_pressEquals s _

theorem run_multiplyIf (s : Settings) (b : Bool) (k : Keypad) :
    (multiplyIf s b).run k = .ok () (if b then k.pressOperator s .multiply else k) := by
  cases b with
  | false => rfl
  | true => exact run_pressOperator s .multiply k

theorem run_openWithFactor (s : Settings) (f : Trig) (k : Keypad) :
    (openWithFactor s f).run k = .ok () (k.openWithFactor s f) := by
  simp only [openWithFactor, Keypad.openWithFactor, numberIn_eq, pure_bind, EStateM.run_bind,
    EStateM.run_get]
  split <;> rfl

theorem run_pressFunction (s : Settings) (f : Trig) (k : Keypad) :
    (pressFunction s f).run k = .ok () (k.pressFunction s f) := by
  simp only [pressFunction, Keypad.pressFunction, EStateM.run_bind, EStateM.run_get, run_multiplyIf]
  generalize (if (k.state.constantUsed || k.state.scope.isClosed) = true then
    k.pressOperator s .multiply else k) = k
  split
  · rfl
  split
  · exact run_applyToResult s f k
  split
  · simp only [EStateM.run_bind, run_closeScope, EStateM.run_get]
    generalize k.closeScope s = k
    split
    · rfl
    simp only [EStateM.run_bind, run_pressOperator, EStateM.run_get]
    split
    · rfl
    · exact run_openWithFactor s f _
  · exact run_openWithFactor s f k

theorem factorOf_eq (t : Text) : factorOf t = pure (Keypad.factorOf t) := by
  simp only [factorOf, Keypad.factorOf, numberIn_eq, pure_bind]
  cases readNumber? t <;> rfl

theorem run_pressConstant (s : Settings) (c : Constant) (k : Keypad) :
    (pressConstant s c).run k = .ok () (k.pressConstant s c) := by
  simp only [pressConstant, Keypad.pressConstant, EStateM.run_bind, EStateM.run_get, run_multiplyIf]
  generalize (if (k.state.constantUsed || k.state.scope.isClosed || k.state.done) = true then
    k.pressOperator s .multiply else k) = k
  split
  · rfl
  split
  · rfl
  simp only [factorOf_eq, pure_bind, EStateM.run_bind, EStateM.run_modify]
  split
  · simp only [EStateM.run_bind, EStateM.run_modify, run_closeScope]
  · rfl

/-! ## Editing -/

theorem run_shortenTrail (k : Keypad) : shortenTrail.run k = .ok () k.shortenTrail := by
  simp only [shortenTrail, Keypad.shortenTrail, EStateM.run_bind, EStateM.run_get]
  cases hc : k.display.trail.getLast? with
  | none =>
    rw [if_pos (List.getLast?_eq_none_iff.mp hc)]
    rfl
  | some c =>
    rw [if_neg (lastOf_eq hc).1, (lastOf_eq hc).2]
    simp only [pure_bind]
    split <;> rfl

/-- the one step of a key that is defined only where a scope has its function -/
theorem run_dropScope {f : Trig} (h : k.state.scope.function = some f) :
    dropScope.run k = .ok () k.dropScope := by
  simp only [dropScope, Keypad.dropScope, scopeFunction, EStateM.run_bind, EStateM.run_get, h]
  rfl

theorem run_pressBackspace
    (h : k.state.scope.isOpen = true → k.state.scope.function.isSome = true) :
    pressBackspace.run k = .ok () k.pressBackspace := by
  simp only [pressBackspace, Keypad.pressBackspace, EStateM.run_bind, EStateM.run_get]
  split
  · rfl
  cases hc : k.state.buffer.getLast? with
  | none =>
    rw [if_pos (List.getLast?_eq_none_iff.mp hc)]
    exact run_shortenTrail k
  | some c =>
    rw [if_neg (lastOf_eq hc).1, (lastOf_eq hc).2]
    simp only
    split
    · rename_i hopen
      obtain ⟨f, hf⟩ := Option.isSome_iff_exists.mp (h (Bool.and_eq_true_iff.mp hopen).1)
      exact run_dropScope hf
    · rfl

theorem run_negatedFactor (k : Keypad) :
    negatedFactor.run k = .ok (k.state.scope.factor.elim (-1) fun x => -x) k := by
  simp only [negatedFactor, EStateM.run_bind, EStateM.run_get]
  cases hfactor : k.state.scope.factor with
  | none => rfl
  | some x =>
    simp only [Option.isNone_some, Bool.false_eq_true, if_false, scopeFactor, EStateM.run_bind,
      EStateM.run_get, hfactor]
    rfl

theorem run_pressToggleSign (k : Keypad) :
    pressToggleSign.run k = .ok () k.pressToggleSign := by
  simp only [pressToggleSign, written_tryEntry, pure_bind, EStateM.run_bind, EStateM.run_get]
  split
  · rename_i hd
    simp only [Keypad.pressToggleSign]
    rw [if_pos hd]
    rfl
  split
  · rename_i hd hc
    simp only [Bool.and_eq_true, Bool.not_eq_true'] at hc
    simp only [Keypad.pressToggleSign, EStateM.run_bind, EStateM.run_modify, run_negatedFactor]
    rw [if_neg hd, if_neg (by simp [hc.1]), if_pos hc.2]
  · rfl

/-! ## Events -/

theorem ofValues_digit (t : Text) :
    Key.ofValues .digit [t] = some ((digitOf t).map .digit) := by
  match t with
  | [] => rfl
  | [c] =>
    show some ((digitOf? c).elim _ _) = some (Except.map _ ((digitOf? c).elim _ _))
    cases digitOf? c <;> rfl
  | c :: d :: t => rfl

/-- how a program ends that looks up what a key carries before anything else -/
theorem run_known_bind {α : Type} (s : Settings) (k : Keypad) {p : α → Program Unit} {g : α → Key}
    (hp : ∀ a, (p a).run k = .ok () (k.handle s (g a))) (r : Except Fault α) :
    (known r >>= p).run k =
      match some (r.map g) with
      | none => .error .undefined k
      | some (.error f) => .error (.fault f) k
      | some (.ok key) => .ok () (k.handle s key) := by
  cases r with
  | error f => rfl
  | ok a => exact hp a

/-- A key is refused before its first step, or every step of it is defined. -/
theorem run_handle (s : Settings) (h : k.state.Active) (kind : EventKind) (values : List Text) :
    (handle s kind values).run k =
      match Key.ofValues kind values with
      | none => .error .undefined k
      | some (.error f) => .error (.fault f) k
      | some (.ok key) => .ok () (k.handle s key) := by
  match kind, values with
  | .digit, [t] =>
    rw [ofValues_digit]
    exact run_known_bind s k (fun d => run_pressDigit s d k) (digitOf t)
  | .operator, [t] =>
    exact run_known_bind s k (fun op => run_pressOperator s op k) (Operator.find t)
  | .function, [t] => exact run_known_bind s k (fun f => run_pressFunction s f k) (Trig.find t)
  | .constant, [t] => exact run_known_bind s k (fun c => run_pressConstant s c k) (Constant.find t)
  | .decimalPoint, [] => exact run_pressPoint s k
  | .equals, [] => exact run_pressEquals s k
  | .backspace, [] =>
    refine run_pressBackspace ?_
    intro ho
    obtain ⟨p, f, -, -, hf, -⟩ := h.scope.of_isOpen ho
    rw [hf]
    rfl
  | .clearEntry, [] => rfl
  | .clearAll, [] => rfl
  | .signToggle, [] => exact run_pressToggleSign k
  | .digit, [] | .operator, [] | .function, [] | .constant, [] => rfl
  | .digit, _ :: _ :: _ | .operator, _ :: _ :: _ | .function, _ :: _ :: _
  | .constant, _ :: _ :: _ => rfl
  | .decimalPoint, _ :: _ | .equals, _ :: _ | .backspace, _ :: _ | .clearEntry, _ :: _
  | .clearAll, _ :: _ | .signToggle, _ :: _ => rfl

theorem run_dispatch (s : Settings) (h : k.state.Sound) (kind : EventKind) (values : List Text) :
    (dispatch s kind values).run k =
      match k.pressWith s kind values with
      | .ok k' => .ok () k'
      | .error (.fault f) => .error (.fault f) k
      | .error .wrongCount => .error .undefined k := by
  simp only [dispatch, pressWith, EStateM.run_bind, EStateM.run_get]
  split
  · rfl
  rename_i hf
  rw [Bool.not_eq_true] at hf
  have hactive := h.active hf
  simp only [EStateM.run_bind, run_handle s hactive]
  cases Key.ofValues kind values with
  | none => rfl
  | some r =>
    cases r with
    | error f => rfl
    | ok key =>
      simp only [press, hf, Bool.false_eq_true, if_false]
      apply run_refreshPreview
      rcases sound_handle s key hactive with ha | hstop
      · exact ha.scope.function_of_isSet
      · exact hstop.function

/-- **An event is refused as a whole or handled as a whole**: step by step it comes to what the
calculator does, and where it is refused the keypad is what it was before. -/
theorem run_receive (s : Settings) (h : k.state.Sound) (kind : String) (value : Option Argument) :
    (receive s kind value).run k =
      match k.applyNamed s kind value with
      | .ok k' => .ok () k'
      | .error f => .error f k := by
  unfold receive applyNamed
  cases EventKind.ofWord? kind with
  | none => rfl
  | some kind =>
    show reporting _ _ k =
      match k.apply s ⟨kind, value⟩ with
      | .ok k' => .ok () k'
      | .error f => .error f k
    rw [reporting, run_dispatch s h, pressWith, Keypad.apply, Event.key]
    cases k.state.failed with
    | true => rfl
    | false =>
      cases Key.ofValues kind (value.toList.map Argument.toText) with
      | none => rfl
      | some r => cases r <;> rfl

/-! ## Text commands -/

theorem exists_key_of_takesValue {kind : EventKind} (h : kind.takesValue = false) :
    ∃ key, (⟨kind, none⟩ : Event).key = .ok key := by
  cases kind with
  | digit | operator | function | constant => cases h
  | decimalPoint | equals | backspace | clearEntry | clearAll | signToggle => exact ⟨_, rfl⟩

theorem exists_key_ofTypedChar (c : Char) : ∃ key, (Event.ofTypedChar c).key = .ok key := by
  unfold Event.ofTypedChar
  split
  · rename_i hc
    refine ⟨.digit (Fin.ofNat 10 (c.toNat - '0'.toNat)), ?_⟩
    simp [Event.key, Key.ofValues, Argument.toText, digitOf?, hc]
  · exact ⟨.point, rfl⟩

/-- every event of a text command carries what its key takes -/
theorem exists_key_of_events {t : Text} {es : List Event} (h : Command.events t = .ok es) :
    ∀ e ∈ es, ∃ key, e.key = .ok key := by
  unfold Command.events at h
  split at h
  · rename_i kind hkind
    cases h
    obtain ⟨l, r, hsplit, -⟩ := List.lookup_eq_some_iff.mp hkind
    have hplain : ∀ p ∈ plainCommands, p.2.takesValue = false := by decide
    have htakes := hplain (t, kind) (by rw [hsplit]; simp)
    exact List.forall_mem_singleton.mpr (exists_key_of_takesValue htakes)
  split at h
  · rename_i hop
    cases h
    obtain ⟨op, hop⟩ := Option.isSome_iff_exists.mp hop
    refine List.forall_mem_singleton.mpr ⟨.operator op, ?_⟩
    simp [Event.key, Key.ofValues, Argument.toText, Operator.find, hop, Except.map]
  split at h
  · rename_i hfn
    cases h
    obtain ⟨f, hfn⟩ := Option.isSome_iff_exists.mp hfn
    refine List.forall_mem_singleton.mpr ⟨.function f, ?_⟩
    simp [Event.key, Key.ofValues, Argument.toText, Trig.find, hfn, Except.map]
  split at h
  · rename_i hc
    cases h
    obtain ⟨c, hc⟩ := Option.isSome_iff_exists.mp hc
    refine List.forall_mem_singleton.mpr ⟨.constant c, ?_⟩
    simp [Event.key, Key.ofValues, Argument.toText, Constant.find, hc, Except.map]
  split at h
  · cases h
    intro e he
    obtain ⟨c, -, rfl⟩ := List.mem_map.mp he
    exact exists_key_ofTypedChar c
  · cases h

theorem ofWord?_word (kind : EventKind) : EventKind.ofWord? kind.word = some kind := by
  cases kind <;> rfl

/-- an event that carries what its key takes is handled -/
theorem run_receive_of_key (h : Reached s k) {e : Event} {key : Key} (hkey : e.key = .ok key) :
    ∃ k', (receive s e.kind.word e.value).run k = .ok () k' ∧ k.apply s e = .ok k' ∧
      Reached s k' := by
  have happly := apply_of_key s k hkey
  refine ⟨k.press s key, ?_, happly, h.press key⟩
  rw [run_receive s h.sound, applyNamed, ofWord?_word]
  show (match k.apply s e with | .ok k' => EStateM.Result.ok () k' | .error f => .error f k) = _
  rw [happly]

theorem run_forM_receive {es : List Event} (hes : ∀ e ∈ es, ∃ key, e.key = .ok key) :
    ∀ {k : Keypad}, Reached s k →
      ∃ k', (es.forM fun e => receive s e.kind.word e.value).run k = .ok () k' ∧
        es.foldlM (Keypad.apply s) k = .ok k' := by
  induction es with
  | nil => exact fun {k} _ => ⟨k, rfl, rfl⟩
  | cons e es ih =>
    intro k h
    obtain ⟨key, hkey⟩ := hes e List.mem_cons_self
    obtain ⟨k₁, hrun, happly, hreached⟩ := run_receive_of_key h hkey
    obtain ⟨k₂, hrun', happly'⟩ := ih (fun e he => hes e (List.mem_cons_of_mem _ he)) hreached
    refine ⟨k₂, ?_, ?_⟩
    · show ((receive s e.kind.word e.value) >>= fun _ =>
        es.forM fun e => receive s e.kind.word e.value).run k = _
      rw [EStateM.run_bind, hrun]
      exact hrun'
    · rw [List.foldlM_cons, happly]
      exact happly'

theorem events_eq_error {t : Text} {f : Fault} (h : Command.events t = .error f) :
    f = .unknownCommand t := by
  unfold Command.events at h
  repeat' split at h
  all_goals cases h
  rfl

/-! ## Runs -/

/-- the keypad behind an event, as its steps have left it, whether or not they broke off -/
def after (s : Settings) (k : Keypad) (e : Signal) : Keypad :=
  match (receive s e.kind e.value).run k with
  | .ok _ k' => k'
  | .error _ k' => k'

theorem after_eq (h : k.state.Sound) (e : Signal) : after s k e = k.receive s e := by
  rw [after, run_receive s h, Keypad.receive]
  cases k.applyNamed s e.kind e.value <;> rfl

/-- an event that carries what its key takes presses that key -/
theorem after_of_key (h : k.state.Sound) {e : Event} {key : Key} (hkey : e.key = .ok key) :
    after s k ⟨e.kind.word, e.value⟩ = k.press s key := by
  have happly : k.applyNamed s e.kind.word e.value = .ok (k.press s key) := by
    rw [applyNamed, ofWord?_word]
    exact apply_of_key s k hkey
  rw [after_eq h, Keypad.receive, happly]

theorem reached_foldl_after (es : List Signal) : ∀ {k : Keypad}, Reached s k →
    Reached s (es.foldl (after s) k) := by
  induction es with
  | nil => exact fun h => h
  | cons e es ih =>
    intro k h
    rw [List.foldl_cons, after_eq h.sound]
    exact ih (h.receive e)

end Program

/-! ## Main result -/

/-- **What is refused changes nothing, and what is accepted does not break off**: behind any events,
an event that is refused leaves the keypad as it was, state, display and both logs, and it is
refused just where the calculator refuses it.  A text command is refused only as one that names no
key, in front of its first event; otherwise each of its events is handled. -/
theorem refused_unchanged (s : Settings) (history : History) (errors : ErrorLog)
    (es : List Signal) :
    let k := es.foldl (Program.after s) (.fresh history errors)
    (∀ kind value f k', (Program.receive s kind value).run k = .error f k' →
      k' = k ∧ k.applyNamed s kind value = .error f) ∧
    (∀ kind value k', (Program.receive s kind value).run k = .ok () k' →
      k.applyNamed s kind value = .ok k') ∧
    ∀ t,
      (∀ f k', (Program.feed s t).run k = .error f k' →
        k' = k ∧ f = .unknownCommand t ∧ f.kind = .invalidOperation ∧
          Command.events t = .error f) ∧
      (∀ es, Command.events t = .ok es →
        (∀ e ∈ es, ∃ k', (Program.receive s e.kind.word e.value).run k = .ok () k') ∧
        ∃ k', (Program.feed s t).run k = .ok () k' ∧ k.feed s t = .ok k') := by
  intro k
  have h : Reached s k := Program.reached_foldl_after es (.fresh history errors)
  refine ⟨?_, ?_, ?_⟩
  · intro kind value f k' hrun
    rw [Program.run_receive s h.sound] at hrun
    cases happly : k.applyNamed s kind value with
    | ok k'' => rw [happly] at hrun; cases hrun
    | error f' => rw [happly] at hrun; cases hrun; exact ⟨rfl, rfl⟩
  · intro kind value k' hrun
    rw [Program.run_receive s h.sound] at hrun
    cases happly : k.applyNamed s kind value with
    | ok k'' => rw [happly] at hrun; cases hrun; rfl
    | error f' => rw [happly] at hrun; cases hrun
  · intro t
    cases hes : Command.events t with
    | error f =>
      refine ⟨?_, nofun⟩
      intro f' k' hrun
      rw [Program.feed, hes] at hrun
      cases hrun
      cases Program.events_eq_error hes
      exact ⟨rfl, rfl, rfl, rfl⟩
    | ok es =>
      have hkeys := Program.exists_key_of_events hes
      obtain ⟨k₁, hrun, hfold⟩ := Program.run_forM_receive hkeys h
      rw [Program.feed, feed, hes]
      refine ⟨?_, ?_⟩
      · intro f k' hrun'
        rw [hrun] at hrun'
        cases hrun'
      · rintro es' ⟨⟩
        refine ⟨?_, k₁, hrun, hfold⟩
        intro e he
        obtain ⟨key, hkey⟩ := hkeys e he
        obtain ⟨k', hk', -, -⟩ := Program.run_receive_of_key h hkey
        exact ⟨k', hk'⟩

/-- With `sin(` on the entry, a digit key that carries `12` is refused and so is a word that names
no key; `pi` is one, and closes the scope. -/
theorem refused_unchanged_sine :
    let s : Settings := { lib := ⟨id, id, id, id, id, id⟩ }
    let k := [⟨"function", some (.text "sin".toList)⟩].foldl (Program.after s)
      (.fresh .initial .initial)
    (Program.receive s "digit" (some (.text ['1', '2']))).run k =
      .error (.notADigit ['1', '2']) k ∧
    (Program.feed s "hello".toList).run k = .error (.unknownCommand "hello".toList) k ∧
    Command.events "hello".toList = .error (.unknownCommand "hello".toList) ∧
    ∃ k', (Program.feed s "pi".toList).run k = .ok () k' ∧ k.feed s "pi".toList = .ok k' := by
  intro s k
  obtain ⟨hevent, hevent', htext⟩ := refused_unchanged s .initial .initial
    [⟨"function", some (.text "sin".toList)⟩]
  have hf : k.state.failed = false := by decide +kernel
  have happly : k.applyNamed s "digit" (some (.text ['1', '2'])) =
      .error (.notADigit ['1', '2']) := by
    show k.apply s ⟨.digit, _⟩ = _
    rw [apply, hf]
    rfl
  have hfeed : (Program.feed s "hello".toList).run k =
      .error (.unknownCommand "hello".toList) k := rfl
  obtain ⟨-, -, -, hevents⟩ := (htext "hello".toList).1 _ _ hfeed
  refine ⟨?_, hfeed, hevents, ((htext "pi".toList).2 _ rfl).2⟩
  cases hrun : (Program.receive s "digit" (some (.text ['1', '2']))).run k with
  | ok a k' =>
    have hok := hevent' _ _ k' hrun
    rw [happly] at hok
    cases hok
  | error f k' =>
    obtain ⟨rfl, hf'⟩ := hevent _ _ f k' hrun
    rw [happly] at hf'
    cases hf'
    rfl

end PocketCalc.Keypad
