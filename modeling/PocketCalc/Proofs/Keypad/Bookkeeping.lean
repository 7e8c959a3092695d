import PocketCalc.Keypad.Field
import PocketCalc.Proofs.Keypad.Twin

/-!
# What is kept for front ends alone

Three fields of the state are kept for whoever draws the keypad, and no step of a key looks at them.
That is said of the steps themselves, so it holds of any two keypads, also of those that no run
leads to and whose keys may break off.

* `Field.notes`, `noted`       the three fields, and the keypad with other values in them;
* `Remarked k k'`              `k'` is `k` but for these;
* `remarked_closeScope`, ...   every transition keeps it so, one lemma a transition;
* `Program.Blind`              a program that does the same to both, with a rule for each construct;
* `Program.blind_handle`, ...  the keys, step by step;
* `notes_unread`               what a run of events shows, and the other fields behind it.
-/

namespace PocketCalc.Keypad
open Text

/-! ## Notes -/

/-- the fields that are kept for front ends alone -/
def Field.notes : List Field := [.justCommitted, .scopeOperand, .scopeStarted]

/-- the keypad with other notes for front ends -/
def noted (k : Keypad) (j : Bool) (x : Float) (b : Bool) : Keypad :=
  { k with state.justCommitted := j, state.scope.operand := x, state.scope.isStarted := b }

/-- the same keypad but for its notes -/
inductive Remarked (k : Keypad) : Keypad → Prop
  | mk (j : Bool) (x : Float) (b : Bool) : Remarked k (k.noted j x b)

variable {s : Settings} {k k' : Keypad}

theorem Remarked.refl (k : Keypad) : Remarked k k :=
  .mk k.state.justCommitted k.state.scope.operand k.state.scope.isStarted

/-! ## Transitions -/

theorem remarked_closeScope (s : Settings) (h : Remarked k k') :
    Remarked (k.closeScope s) (k'.closeScope s) := by
  obtain ⟨j, x, b⟩ := h
  have hset : (k.noted j x b).state.scope.isSet = k.state.scope.isSet := rfl
  have hfunction : (k.noted j x b).state.scope.function = k.state.scope.function := rfl
  have hoperand : scopeOperand? (k.noted j x b).state = scopeOperand? k.state := rfl
  have hvalue : ∀ f y, scopeValue s (k.noted j x b).state.scope f y =
    scopeValue s k.state.scope f y := fun _ _ => rfl
  simp only [closeScope, hset, hfunction, hoperand, hvalue]
  refine related_ite Iff.rfl (fun _ => .mk j x b) fun _ => ?_
  split
  · split
    · exact .mk j x b
    rename_i y _
    split
    · exact .mk j y b
    · exact .mk j y b
  · exact .mk j x b

theorem remarked_takeOperand (h : Remarked k k') :
    k'.takeOperand.2 = k.takeOperand.2 ∧ Remarked k.takeOperand.1 k'.takeOperand.1 := by
  obtain ⟨j, x, b⟩ := h
  have hbuffer : (k.noted j x b).state.buffer = k.state.buffer := rfl
  have hclosed : (k.noted j x b).state.scope.isClosed = k.state.scope.isClosed := rfl
  have hused : (k.noted j x b).state.constantUsed = k.state.constantUsed := rfl
  simp only [takeOperand, hbuffer, hclosed, hused]
  split
  · exact ⟨rfl, .mk j x b⟩
  split
  · exact ⟨rfl, .mk j x b⟩
  split
  · exact ⟨rfl, .mk j x b⟩
  · exact ⟨rfl, .mk j x b⟩

/-- an operation that is carried out leaves a note -/
theorem remarked_commit (h : Remarked k k') : Remarked k.commit k'.commit := by
  obtain ⟨j, x, b⟩ := h
  have hop : (k.noted j x b).state.operator = k.state.operator := rfl
  have hfirst : (k.noted j x b).state.first = k.state.first := rfl
  have hsecond : (k.noted j x b).state.second = k.state.second := rfl
  simp only [commit, hop, hfirst, hsecond]
  split
  · exact .mk j x b
  split
  · exact .mk j x b
  · exact .mk true x b

theorem remarked_continueChain (h : Remarked k k') (op : Operator) :
    Remarked (k.continueChain op) (k'.continueChain op) := by
  obtain ⟨j, x, b⟩ := h
  exact .refl _

theorem remarked_replaceOperator (h : Remarked k k') (op : Operator) :
    Remarked (k.replaceOperator op) (k'.replaceOperator op) := by
  obtain ⟨j, x, b⟩ := h
  exact .mk j x b

theorem remarked_awaitRight (h : Remarked k k') (op : Operator) :
    Remarked (k.awaitRight op) (k'.awaitRight op) := by
  obtain ⟨j, x, b⟩ := h
  have hbuffer : (k.noted j x b).state.buffer = k.state.buffer := rfl
  simp only [awaitRight, hbuffer]
  split
  · exact .mk j x b
  · exact .mk j x b

theorem remarked_finish (s : Settings) (h : Remarked k k') :
    Remarked (k.finish s) (k'.finish s) := by
  obtain ⟨j, x, b⟩ := h
  exact .mk j x b

theorem remarked_startOver (h : Remarked k k') : Remarked k.startOver k'.startOver := by
  obtain ⟨j, x, b⟩ := h
  exact .refl _

/-- a text that is typed leaves notes of it -/
theorem remarked_append (s : Settings) (t : Text) (h : Remarked k k') :
    Remarked (k.append s t) (k'.append s t) := by
  have hstart : Remarked (if k.state.done then k.startOver else k)
      (if k'.state.done then k'.startOver else k') := by
    refine related_ite ?_ (fun _ => remarked_startOver h) fun _ => h
    obtain ⟨j, x, b⟩ := h
    exact Iff.rfl
  simp only [append]
  generalize (if k.state.done then k.startOver else k) = k at hstart ⊢
  generalize (if k'.state.done then k'.startOver else k') = k' at hstart ⊢
  obtain ⟨j, x, b⟩ := hstart
  refine related_ite Iff.rfl (fun _ => .mk j x b) fun _ => ?_
  cases ho : k.state.scope.isOpen with
  | false =>
    have ho' : (k.noted j x b).state.scope.isOpen = false := ho
    rw [ho']
    exact .mk false x b
  | true =>
    have ho' : (k.noted j x b).state.scope.isOpen = true := ho
    rw [ho']
    exact .mk false x true

theorem remarked_openWithFactor (s : Settings) (f : Trig) (h : Remarked k k') :
    Remarked (k.openWithFactor s f) (k'.openWithFactor s f) := by
  obtain ⟨j, x, b⟩ := h
  exact related_ite Iff.rfl (fun _ => .mk j x b) fun _ => .mk j x false

theorem remarked_shortenTrail (h : Remarked k k') :
    Remarked k.shortenTrail k'.shortenTrail := by
  obtain ⟨j, x, b⟩ := h
  have hdisplay : (k.noted j x b).display = k.display := rfl
  simp only [shortenTrail, hdisplay]
  split
  · exact related_ite Iff.rfl (fun _ => .mk j x b) fun _ => .mk j x b
  · exact .mk j x b

theorem remarked_dropChar (h : Remarked k k') (c : Char) :
    Remarked (k.dropChar c) (k'.dropChar c) := by
  obtain ⟨j, x, b⟩ := h
  simp only [dropChar]
  refine related_ite Iff.rfl (fun _ => .mk j x b) fun _ => ?_
  cases hc : Constant.isSymbol c <;> cases ho : k.state.scope.isOpen
  all_goals
    have ho' : (k.noted j x b).state.scope.isOpen = k.state.scope.isOpen := rfl
    simp only [ho', ho, if_true, if_false, Bool.false_eq_true]
  · exact .mk j x b
  · exact .mk j x _
  · exact .mk j x b
  · exact .mk j x _

theorem remarked_pressClearEntry (h : Remarked k k') :
    Remarked k.pressClearEntry k'.pressClearEntry := by
  obtain ⟨j, x, b⟩ := h
  exact related_ite Iff.rfl (fun _ => .mk j x b) fun _ => .refl _

theorem remarked_pressToggleSign (h : Remarked k k') :
    Remarked k.pressToggleSign k'.pressToggleSign := by
  obtain ⟨j, x, b⟩ := h
  simp only [pressToggleSign]
  refine related_ite Iff.rfl (fun _ => .refl _) fun _ => ?_
  refine related_ite Iff.rfl (fun _ => ?_) fun _ => ?_
  · exact related_ite Iff.rfl (fun _ => .mk j x b) fun _ => .mk j x b
  refine related_ite Iff.rfl (fun _ => .mk j x b) fun _ => ?_
  exact related_ite Iff.rfl (fun _ => .mk j x b) fun _ => .mk j x b

theorem remarked_acknowledge (h : Remarked k k') : Remarked k.acknowledge k'.acknowledge := by
  obtain ⟨j, x, b⟩ := h
  exact related_ite Iff.rfl (fun _ => .refl _) fun _ => .mk j x b

/-! ## Programs -/

namespace Program

/-- two runs that end alike, with the same value or the same break, in keypads that differ in their
notes alone -/
inductive EndAlike {ε α : Type} :
    EStateM.Result ε Keypad α → EStateM.Result ε Keypad α → Prop
  | ok (a : α) {k k' : Keypad} : Remarked k k' → EndAlike (.ok a k) (.ok a k')
  | error (e : ε) {k k' : Keypad} : Remarked k k' → EndAlike (.error e k) (.error e k')

/-- a program that does the same whatever the notes are -/
def Blind {ε α : Type} (p : EStateM ε Keypad α) : Prop :=
  ∀ k k', Remarked k k' → EndAlike (p.run k) (p.run k')

section Rules

variable {ε α β : Type}

theorem blind_pure (a : α) : Blind (pure a : EStateM ε Keypad α) :=
  fun _ _ h => .ok a h

theorem blind_throw (e : ε) : Blind (throw e : EStateM ε Keypad α) :=
  fun _ _ h => .error e h

theorem blind_modify {f : Keypad → Keypad}
    (hf : ∀ {k k' : Keypad}, Remarked k k' → Remarked (f k) (f k')) :
    Blind (modify f : EStateM ε Keypad Unit) :=
  fun _ _ h => .ok () (hf h)

/-- what is written beside the notes -/
theorem blind_write {f : Keypad → Keypad}
    (hwrite : ∀ k j x b, f (noted k j x b) = noted (f k) j x b) :
    Blind (modify f : EStateM ε Keypad Unit) := by
  refine blind_modify ?_
  rintro k _ ⟨j, x, b⟩
  rw [hwrite]
  exact .mk j x b

theorem Blind.bind {p : EStateM ε Keypad α} {q : α → EStateM ε Keypad β} (hp : Blind p)
    (hq : ∀ a, Blind (q a)) : Blind (p >>= q) := by
  intro k k' h
  rw [EStateM.run_bind, EStateM.run_bind]
  have hend := hp k k' h
  generalize p.run k = r at hend ⊢
  generalize p.run k' = r' at hend ⊢
  cases hend with
  | ok a h => exact hq a _ _ h
  | error e h => exact .error e h

/-- what is read of the keypad must not be the notes -/
theorem blind_get_bind {q : Keypad → EStateM ε Keypad β}
    (hread : ∀ k j x b, q (noted k j x b) = q k) (hq : ∀ k, Blind (q k)) : Blind (get >>= q) := by
  rintro k _ ⟨j, x, b⟩
  rw [EStateM.run_bind, EStateM.run_bind, EStateM.run_get, EStateM.run_get]
  show EndAlike ((q k).run k) ((q (k.noted j x b)).run (k.noted j x b))
  rw [hread]
  exact hq k _ _ (.mk j x b)

theorem blind_ite {c : Prop} [Decidable c] {p q : EStateM ε Keypad α} (hp : Blind p)
    (hq : Blind q) : Blind (if c then p else q) := by
  split
  · exact hp
  · exact hq

/-- a program that comes to a function on keypads -/
theorem blind_of_run {p : EStateM ε Keypad Unit} {f : Keypad → Keypad}
    (hrun : ∀ k, p.run k = .ok () (f k))
    (hf : ∀ {k k' : Keypad}, Remarked k k' → Remarked (f k) (f k')) : Blind p := by
  intro k k' h
  rw [hrun, hrun]
  exact .ok () (hf h)

end Rules

/-! ## Operations -/

theorem blind_closeScope (s : Settings) : Blind (closeScope s) :=
  blind_of_run (run_closeScope s) (remarked_closeScope s)

theorem blind_takeOperand : Blind takeOperand := by
  intro k k' h
  obtain ⟨hoperand, h⟩ := remarked_takeOperand h
  rw [run_takeOperand, run_takeOperand, hoperand]
  exact .ok _ h

theorem blind_commit : Blind commit := blind_of_run run_commit remarked_commit

theorem blind_awaitRight (op : Operator) : Blind (awaitRight op) :=
  blind_of_run (run_awaitRight op) fun h => remarked_awaitRight h op

theorem blind_finish (s : Settings) : Blind (finish s) :=
  blind_of_run (run_finish s) (remarked_finish s)

theorem blind_pressOperator (s : Settings) (op : Operator) : Blind (pressOperator s op) := by
  refine .bind (blind_closeScope s) fun _ => blind_get_bind (fun _ _ _ _ => rfl) fun k => ?_
  refine blind_ite (blind_pure ()) (blind_ite ?_ (blind_ite ?_ ?_))
  · exact blind_of_run (run_continueChain op) fun h => remarked_continueChain h op
  · exact blind_of_run (run_replaceOperator op) fun h => remarked_replaceOperator h op
  refine .bind blind_takeOperand fun x => ?_
  cases x with
  | none => exact blind_pure ()
  | some x =>
    refine blind_get_bind (fun _ _ _ _ => rfl) fun k => blind_ite ?_ ?_
    · exact .bind (blind_write fun _ _ _ _ => rfl) fun _ => blind_awaitRight op
    refine .bind (blind_write fun _ _ _ _ => rfl) fun _ => .bind blind_commit fun _ =>
      blind_get_bind (fun _ _ _ _ => rfl) fun k => blind_ite (blind_pure ()) ?_
    exact .bind (blind_write fun _ _ _ _ => rfl) fun _ => blind_awaitRight op

theorem blind_pressEquals (s : Settings) : Blind (pressEquals s) := by
  refine blind_get_bind (fun _ _ _ _ => rfl) fun k => blind_ite (blind_pure ()) ?_
  refine .bind (blind_closeScope s) fun _ => blind_get_bind (fun _ _ _ _ => rfl) fun k =>
    blind_ite (blind_pure ()) (.bind blind_takeOperand fun x => ?_)
  cases x with
  | none => exact blind_pure ()
  | some x =>
    refine blind_get_bind (fun _ _ _ _ => rfl) fun k => blind_ite ?_ ?_
    · exact .bind (blind_write fun _ _ _ _ => rfl) fun _ => blind_finish s
    exact .bind (blind_write fun _ _ _ _ => rfl) fun _ => .bind blind_commit fun _ =>
      blind_get_bind (fun _ _ _ _ => rfl) fun k => blind_ite (blind_pure ()) (blind_finish s)

/-! ## Typing -/

theorem blind_readyForNumber (s : Settings) : Blind (readyForNumber s) := by
  refine blind_get_bind (fun _ _ _ _ => rfl) fun k => blind_ite ?_ (blind_pure ())
  exact .bind (blind_pressOperator s .multiply) fun _ => blind_write fun _ _ _ _ => rfl

theorem blind_append (s : Settings) (t : Text) :
    Blind (modify fun k => k.append s t : Program Unit) :=
  blind_modify (remarked_append s t)

theorem blind_pressDigit (s : Settings) (d : Fin 10) : Blind (pressDigit s d) :=
  .bind (blind_readyForNumber s) fun _ => blind_get_bind (fun _ _ _ _ => rfl) fun _ =>
    blind_ite (blind_pure ()) (blind_append s _)

theorem blind_pressPoint (s : Settings) : Blind (pressPoint s) := by
  refine .bind (blind_readyForNumber s) fun _ => blind_get_bind (fun _ _ _ _ => rfl) fun _ =>
    blind_ite (blind_pure ()) (.bind (blind_modify ?_) fun _ => ?_)
  · rintro k _ ⟨j, x, b⟩
    exact related_ite Iff.rfl (fun _ => .refl _) fun _ => .mk j x b
  · exact blind_get_bind (fun _ _ _ _ => rfl) fun _ => blind_ite (blind_pure ()) (blind_append s _)

/-! ## Functions and constants -/

/-- behind a result a function starts from the result alone -/
theorem blind_applyToResult (s : Settings) (f : Trig) : Blind (applyToResult s f) := by
  refine blind_get_bind (fun _ _ _ _ => rfl) fun k => .bind (blind_modify ?_) fun _ => ?_
  · rintro k _ ⟨j, x, b⟩
    exact .refl _
  rw [written_tryResult, pure_bind]
  exact .bind (blind_append s _) fun _ => .bind (blind_closeScope s) fun _ =>
    blind_get_bind (fun _ _ _ _ => rfl) fun _ => blind_ite (blind_pure ()) (blind_pressEquals s)

theorem blind_multiplyIf (s : Settings) (b : Bool) : Blind (multiplyIf s b) :=
  blind_ite (blind_pressOperator s .multiply) (blind_pure ())

theorem blind_openWithFactor (s : Settings) (f : Trig) : Blind (openWithFactor s f) :=
  blind_of_run (run_openWithFactor s f) (remarked_openWithFactor s f)

theorem blind_pressFunction (s : Settings) (f : Trig) : Blind (pressFunction s f) := by
  refine blind_get_bind (fun _ _ _ _ => rfl) fun _ => .bind (blind_multiplyIf s _) fun _ =>
    blind_get_bind (fun _ _ _ _ => rfl) fun _ => blind_ite (blind_pure ()) ?_
  refine blind_ite (blind_applyToResult s f) (blind_ite ?_ (blind_openWithFactor s f))
  refine .bind (blind_closeScope s) fun _ => blind_get_bind (fun _ _ _ _ => rfl) fun _ =>
    blind_ite (blind_pure ()) (.bind (blind_pressOperator s .multiply) fun _ => ?_)
  exact blind_get_bind (fun _ _ _ _ => rfl) fun _ =>
    blind_ite (blind_pure ()) (blind_openWithFactor s f)

theorem blind_pressConstant (s : Settings) (c : Constant) : Blind (pressConstant s c) := by
  refine blind_get_bind (fun _ _ _ _ => rfl) fun _ => .bind (blind_multiplyIf s _) fun _ =>
    blind_get_bind (fun _ _ _ _ => rfl) fun _ => blind_ite (blind_pure ()) ?_
  refine blind_ite (blind_pure ()) ?_
  rw [factorOf_eq, pure_bind]
  refine .bind (blind_write fun _ _ _ _ => rfl) fun _ =>
    blind_ite ?_ (blind_write fun _ _ _ _ => rfl)
  exact .bind (blind_write fun _ _ _ _ => rfl) fun _ => .bind (blind_closeScope s) fun _ =>
    blind_write fun _ _ _ _ => rfl

/-! ## Editing -/

/-- the one step of a key that may be undefined: both keypads have the same function, or none -/
theorem blind_dropScope : Blind dropScope := by
  refine .bind (blind_get_bind (fun _ _ _ _ => rfl) fun k => ?_) fun f => blind_modify ?_
  · cases k.state.scope.function with
    | none => exact blind_throw _
    | some f => exact blind_pure f
  · rintro k _ ⟨j, x, b⟩
    exact .mk j 0 false

theorem blind_lastOf (t : Text) : Blind (lastOf t) := by
  unfold lastOf
  cases t.getLast? with
  | none => exact blind_throw _
  | some c => exact blind_pure c

theorem blind_pressBackspace : Blind pressBackspace := by
  refine blind_get_bind (fun _ _ _ _ => rfl) fun _ => blind_ite (blind_pure ()) (blind_ite ?_ ?_)
  · exact blind_of_run run_shortenTrail remarked_shortenTrail
  · exact blind_ite blind_dropScope
      (.bind (blind_lastOf _) fun c => blind_modify fun h => remarked_dropChar h c)

/-! ## Events -/

theorem blind_known {α : Type} (r : Except Fault α) : Blind (known r) := by
  cases r with
  | error f => exact blind_throw _
  | ok a => exact blind_pure a

theorem blind_handle (s : Settings) (kind : EventKind) (values : List Text) :
    Blind (handle s kind values) := by
  unfold handle
  split
  · exact .bind (blind_known _) (blind_pressDigit s)
  · exact .bind (blind_known _) (blind_pressOperator s)
  · exact .bind (blind_known _) (blind_pressFunction s)
  · exact .bind (blind_known _) (blind_pressConstant s)
  · exact blind_pressPoint s
  · exact blind_pressEquals s
  · exact blind_pressBackspace
  · exact blind_modify remarked_pressClearEntry
  · exact blind_modify remarked_startOver
  · exact blind_of_run run_pressToggleSign remarked_pressToggleSign
  · exact blind_throw _

theorem blind_showPreview (t : Text) : Blind (modify (showPreview · t) : Program Unit) :=
  blind_write fun _ _ _ _ => rfl

theorem blind_showResult (st : State) (x : Float) : Blind (showResult st x) := by
  rw [showResult_eq]
  exact blind_showPreview _

theorem blind_refreshPreview (s : Settings) : Blind (refreshPreview s) := by
  refine blind_get_bind (fun _ _ _ _ => rfl) fun k => blind_ite (blind_pure ()) ?_
  rw [numberIn_eq, pure_bind]
  cases readNumber? k.state.buffer with
  | some x => exact blind_showResult _ x
  | none =>
    refine blind_ite ?_ (blind_ite (blind_showResult _ _) (blind_ite (blind_showResult _ _) ?_))
    · rw [numberIn_eq, pure_bind]
      cases readNumber? k.state.scope.text with
      | none => exact blind_pure ()
      | some x =>
        cases k.state.scope.function with
        | none => exact blind_showPreview _
        | some f =>
          dsimp only
          rw [scopeValue_eq, pure_bind]
          split
          · exact blind_showResult _ _
          · exact blind_showPreview _
    · rw [written_tryResult, pure_bind]
      exact blind_showPreview _

theorem blind_dispatch (s : Settings) (kind : EventKind) (values : List Text) :
    Blind (dispatch s kind values) := by
  refine blind_get_bind (fun _ _ _ _ => rfl) fun _ =>
    blind_ite (blind_modify remarked_acknowledge) ?_
  exact .bind (blind_handle s kind values) fun _ => blind_refreshPreview s

theorem blind_reporting (event : Text) {p : Program Unit} (hp : Blind p) :
    Blind (reporting event p) := by
  intro k k' h
  have hend := hp k k' h
  rw [EStateM.run, EStateM.run, reporting, reporting]
  generalize p.run k = r at hend ⊢
  generalize p.run k' = r' at hend ⊢
  cases hend with
  | ok a h => exact .ok a h
  | error e h => exact .error _ h

theorem blind_receive (s : Settings) (kind : String) (value : Option Argument) :
    Blind (receive s kind value) := by
  unfold receive
  split
  · exact blind_reporting _ (blind_throw _)
  · exact blind_reporting _ (blind_dispatch s _ _)

/-! ## Runs -/

theorem remarked_after (s : Settings) (e : Signal) (h : Remarked k k') :
    refusal s k' e = refusal s k e ∧ Remarked (after s k e) (after s k' e) := by
  have hend := blind_receive s e.kind e.value k k' h
  unfold refusal after
  generalize (receive s e.kind e.value).run k = r at hend ⊢
  generalize (receive s e.kind e.value).run k' = r' at hend ⊢
  cases hend with
  | ok a h => exact ⟨rfl, h⟩
  | error f h => exact ⟨rfl, h⟩

end Program

/-! ## The fields -/

/-- a state is what stands in its fields -/
theorem State.ext_get {st st' : State} (h : ∀ f, st.get f = st'.get f) : st = st' := by
  have hscope : st.scope = st'.scope :=
    (Scope.mk.injEq ..).mpr ⟨Value.function.inj (h .scopeFunction),
      Value.number.inj (h .scopeOperand), Value.maybeNumber.inj (h .scopeFactor),
      Value.number.inj (h .scopeResult), Value.text.inj (h .scopeText),
      Value.flag.inj (h .scopeSet), Value.flag.inj (h .scopeOpen), Value.flag.inj (h .scopeClosed),
      Value.flag.inj (h .scopeStarted)⟩
  exact (State.mk.injEq ..).mpr ⟨Value.number.inj (h .result), Value.number.inj (h .first),
    Value.number.inj (h .second), Value.operator.inj (h .operator), hscope,
    Value.number.inj (h .constant), Value.flag.inj (h .operatorSet),
    Value.flag.inj (h .constantUsed), Value.flag.inj (h .justCommitted), Value.flag.inj (h .done),
    Value.flag.inj (h .failed), Value.text.inj (h .buffer), Value.count.inj (h .commits)⟩

theorem get_noted {f : Field} (hf : f ∉ Field.notes) (k : Keypad) (j : Bool) (x : Float)
    (b : Bool) : (k.noted j x b).state.get f = k.state.get f := by
  cases f
  case justCommitted | scopeOperand | scopeStarted => exact absurd (by decide) hf
  all_goals rfl

theorem remarked_iff : Remarked k k' ↔
    (∀ f, f ∉ Field.notes → k'.state.get f = k.state.get f) ∧
      k'.display = k.display ∧ k'.history = k.history ∧ k'.errors = k.errors := by
  constructor
  · rintro ⟨j, x, b⟩
    exact ⟨fun f hf => get_noted hf k j x b, rfl, rfl, rfl⟩
  · rintro ⟨hstate, hdisplay, hhistory, herrors⟩
    have heq : k' = k.noted k'.state.justCommitted k'.state.scope.operand
        k'.state.scope.isStarted := by
      have hst : k'.state = (k.noted k'.state.justCommitted k'.state.scope.operand
          k'.state.scope.isStarted).state := by
        refine State.ext_get fun f => ?_
        by_cases hf : f ∈ Field.notes
        · simp only [Field.notes, List.mem_cons, List.not_mem_nil, or_false] at hf
          obtain rfl | rfl | rfl := hf
          all_goals rfl
        · rw [hstate f hf, get_noted hf]
      obtain ⟨st, d, hi, er⟩ := k'
      cases hdisplay
      cases hhistory
      cases herrors
      exact congrArg (fun st => (⟨st, k.display, k.history, k.errors⟩ : Keypad)) hst
    rw [heq]
    exact .mk _ _ _

/-! ## Main result -/

/-- **What is kept for front ends is not read**: two keypads, of a run or not, that differ in these
fields alone refuse the same events for the same faults, show the same and record the same behind
each event, and never come to differ in another field. -/
theorem notes_unread (s : Settings) (es : List Signal)
    (hstate : ∀ f, f ∉ Field.notes → k'.state.get f = k.state.get f)
    (hdisplay : k'.display = k.display) (hhistory : k'.history = k.history)
    (herrors : k'.errors = k.errors) :
    Program.transcript s k' es = Program.transcript s k es ∧
    ∀ f, f ∉ Field.notes → (es.foldl (Program.after s) k').state.get f =
      (es.foldl (Program.after s) k).state.get f := by
  have h : Remarked k k' := remarked_iff.mpr ⟨hstate, hdisplay, hhistory, herrors⟩
  obtain ⟨htranscript, hend⟩ := Program.related_transcript (s := s)
    (fun h => (remarked_iff.mp h).2.1) (fun h => (remarked_iff.mp h).2.2.1)
    (fun h => (remarked_iff.mp h).2.2.2) (Program.remarked_after s) es h
  exact ⟨htranscript, (remarked_iff.mp hend).1⟩

/-- a scope that is open without a function, which no run leads to: a backspace breaks off, and the
notes stay unread -/
theorem notes_unread_broken :
    let s : Settings := {}
    let k : Keypad := { state := { buffer := ['2'], scope := { isOpen := true } } }
    let k' := k.noted true 7 true
    let es : List Signal := [⟨"backspace", none⟩, ⟨"digit", some (.number 3)⟩]
    k'.state.get .scopeStarted ≠ k.state.get .scopeStarted ∧
      (Program.refusal s k ⟨"backspace", none⟩).isSome = true ∧
      Program.transcript s k' es = Program.transcript s k es ∧
      (es.foldl (Program.after s) k').state.get .buffer = .text ['2', '3'] := by
  intro s k k' es
  have hstate : ∀ f, f ∉ Field.notes → k'.state.get f = k.state.get f :=
    fun f hf => get_noted hf k true 7 true
  obtain ⟨htranscript, hend⟩ := notes_unread s es hstate rfl rfl rfl
  refine ⟨by decide, by decide +kernel, htranscript, ?_⟩
  rw [hend .buffer (by decide)]
  decide +kernel

end PocketCalc.Keypad
