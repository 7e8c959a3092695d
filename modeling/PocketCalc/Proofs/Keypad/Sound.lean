import PocketCalc.Proofs.Keypad.Transition
import PocketCalc.Proofs.Written

/-!
# Sound states

The documented invariants of a state are not kept by the keys on their own: taking back a `)` opens
the scope again without a look at its function.  What is kept ties the entry to the scope.

* `ScopeShape`      the entry is plain, or it ends in the scope that the scope fields speak of;
* `State.Active`    a state in which keys are handled;
* `State.Stopped`   a state with an error on display;
* `State.Sound`     either of them; `State.Sound.violations_eq_nil` are the documented invariants;
* `sound_handle`    every key leaves a sound state behind.
-/

namespace PocketCalc.Keypad
open Text

/-! ## The invariant -/

/-- how the entry and the scope go together -/
inductive ScopeShape (buffer : Text) (sc : Scope) : Prop
  /-- no scope, and no parenthesis in the entry -/
  | idle : sc.isOpen = false → sc.isClosed = false → sc.isSet = false → Plain buffer →
      ScopeShape buffer sc
  /-- an open scope, its text the end of the entry -/
  | opened (p : Text) (f : Trig) : sc.isOpen = true → sc.isClosed = false → sc.isSet = true →
      sc.function = some f → Plain p → Plain sc.text → buffer = p ++ f.name ++ '(' :: sc.text →
      ScopeShape buffer sc
  /-- a scope that was just closed -/
  | closed (p : Text) (f : Trig) : sc.isOpen = false → sc.isClosed = true → sc.isSet = false →
      sc.function = some f → Plain p → Plain sc.text →
      buffer = p ++ f.name ++ '(' :: sc.text ++ [')'] → ScopeShape buffer sc

/-- a state in which keys are handled -/
structure State.Active (st : State) : Prop where
  failed : st.failed = false
  /-- an operator is set where there is one to wait with -/
  operator : st.operatorSet = st.operator.isSome
  scope : ScopeShape st.buffer st.scope
  /-- a result on display leaves nothing pending -/
  done : st.done = true →
    st.operator = none ∧ st.scope.isOpen = false ∧ st.scope.isClosed = false

/-- a state with an error on display -/
structure State.Stopped (st : State) : Prop where
  failed : st.failed = true
  operatorSet : st.operatorSet = false
  operator : st.operator = none
  isOpen : st.scope.isOpen = false
  function : st.scope.isSet = true → st.scope.function.isSome = true

/-- a state that the keys lead to -/
def State.Sound (st : State) : Prop := st.Active ∨ st.Stopped

/-- no error and no scope, whatever the entry still shows of one -/
structure State.Free (st : State) : Prop where
  failed : st.failed = false
  isOpen : st.scope.isOpen = false
  isClosed : st.scope.isClosed = false
  isSet : st.scope.isSet = false

/-- an active state right behind an operator -/
structure State.Awaiting (st : State) (op : Operator) : Prop where
  active : st.Active
  operator : st.operator = some op
  buffer : st.buffer = []

/-! ## What it says -/

theorem ScopeShape.not_both {b : Text} {sc : Scope} (h : ScopeShape b sc) :
    ¬ (sc.isOpen = true ∧ sc.isClosed = true) := by
  rintro ⟨ho, hc⟩
  cases h with
  | idle ho' => rw [ho'] at ho; cases ho
  | opened _ _ _ hc' => rw [hc'] at hc; cases hc
  | closed _ _ ho' => rw [ho'] at ho; cases ho

theorem ScopeShape.function_of_isSet {b : Text} {sc : Scope} (h : ScopeShape b sc)
    (hset : sc.isSet = true) : sc.function.isSome = true := by
  cases h with
  | idle _ _ hset' => rw [hset'] at hset; cases hset
  | opened _ f _ _ _ hf => simp [hf]
  | closed _ f _ _ _ hf => simp [hf]

/-- an entry without a scope is plain -/
theorem ScopeShape.plain {b : Text} {sc : Scope} (h : ScopeShape b sc) (ho : sc.isOpen = false)
    (hc : sc.isClosed = false) : Plain b ∧ sc.isSet = false := by
  cases h with
  | idle _ _ hset hb => exact ⟨hb, hset⟩
  | opened _ _ ho' => rw [ho'] at ho; cases ho
  | closed _ _ _ hc' => rw [hc'] at hc; cases hc

theorem ScopeShape.of_isOpen {b : Text} {sc : Scope} (h : ScopeShape b sc) (ho : sc.isOpen = true) :
    ∃ p f, sc.isClosed = false ∧ sc.isSet = true ∧ sc.function = some f ∧ Plain p ∧
      Plain sc.text ∧ b = p ++ f.name ++ '(' :: sc.text := by
  cases h with
  | idle ho' => rw [ho'] at ho; cases ho
  | opened p f _ hc hset hf hp ht hb => exact ⟨p, f, hc, hset, hf, hp, ht, hb⟩
  | closed _ _ ho' => rw [ho'] at ho; cases ho

theorem ScopeShape.of_isClosed {b : Text} {sc : Scope} (h : ScopeShape b sc)
    (hc : sc.isClosed = true) :
    ∃ p f, sc.isOpen = false ∧ sc.isSet = false ∧ sc.function = some f ∧ Plain p ∧
      Plain sc.text ∧ b = p ++ f.name ++ '(' :: sc.text ++ [')'] := by
  cases h with
  | idle _ hc' => rw [hc'] at hc; cases hc
  | opened _ _ _ hc' => rw [hc'] at hc; cases hc
  | closed p f ho _ hset hf hp ht hb => exact ⟨p, f, ho, hset, hf, hp, ht, hb⟩

theorem ScopeShape.readNumber? {b : Text} {sc : Scope} (h : ScopeShape b sc)
    (hsc : sc.isOpen = true ∨ sc.isClosed = true) : readNumber? b = none := by
  apply readNumber?_of_not_plain
  rcases hsc with ho | hc
  · obtain ⟨p, f, -, -, -, -, -, rfl⟩ := h.of_isOpen ho
    simp
  · obtain ⟨p, f, -, -, -, -, -, rfl⟩ := h.of_isClosed hc
    simp

theorem ScopeShape.of_nil {sc : Scope} (h : ScopeShape [] sc) :
    sc.isOpen = false ∧ sc.isClosed = false := by
  cases h with
  | idle ho hc => exact ⟨ho, hc⟩
  | opened _ _ _ _ _ _ _ _ hb => simp at hb
  | closed _ _ _ _ _ _ _ _ hb => simp at hb

/-- only behind a closed scope an entry ends in a parenthesis -/
theorem ScopeShape.isClosed_of_getLast? {b : Text} {sc : Scope} (h : ScopeShape b sc)
    (hlast : b.getLast? = some ')') (ht : sc.isOpen = true → sc.text ≠ []) :
    sc.isClosed = true := by
  cases h with
  | idle _ _ _ hb => exact absurd rfl (hb _ (List.mem_of_getLast? hlast)).2
  | opened p f ho _ _ _ _ htext hb =>
    have hne := ht ho
    rw [hb, List.getLast?_append, List.getLast?_cons,
      List.getLast?_eq_some_getLast hne] at hlast
    have heq : sc.text.getLast hne = ')' := Option.some.inj hlast
    exact absurd heq (htext _ (List.getLast_mem hne)).2
  | closed _ _ _ hclosed => exact hclosed

namespace State

theorem Stopped.violations_eq_nil {st : State} (h : st.Stopped) : st.violations = [] := by
  rw [violations_eq_nil_iff]
  refine ⟨?_, h.function, ?_⟩
  · intro hop
    rw [h.operatorSet] at hop
    cases hop
  · rintro ⟨ho, -⟩
    rw [h.isOpen] at ho
    cases ho

theorem Active.violations_eq_nil {st : State} (h : st.Active) : st.violations = [] := by
  rw [violations_eq_nil_iff]
  refine ⟨?_, h.scope.function_of_isSet, h.scope.not_both⟩
  intro hop
  rw [← h.operator, hop]

theorem Sound.violations_eq_nil {st : State} (h : st.Sound) : st.violations = [] := by
  rcases h with h | h
  · exact h.violations_eq_nil
  · exact h.violations_eq_nil

theorem Sound.active {st : State} (h : st.Sound) (hf : st.failed = false) : st.Active := by
  rcases h with h | h
  · exact h
  · rw [h.failed] at hf
    cases hf

theorem Active.not_failed {st : State} (h : st.Active) : ¬ st.failed = true := by
  rw [h.failed]
  exact Bool.false_ne_true

theorem not_stopped {st : State} (hf : st.failed = false) : ¬ st.Stopped :=
  fun h => absurd (hf.symm.trans h.failed) Bool.false_ne_true

theorem Free.of_scope_eq {st st' : State} (h : st.Free) (hf : st'.failed = st.failed)
    (hsc : st'.scope = st.scope) : st'.Free := by
  refine ⟨hf.trans h.failed, ?_, ?_, ?_⟩
  all_goals rw [hsc]
  · exact h.isOpen
  · exact h.isClosed
  · exact h.isSet

/-- nothing pending: what is on display may be a result -/
theorem Free.active {st : State} (h : st.Free) (ho : st.operatorSet = false)
    (hop : st.operator = none) (hb : Plain st.buffer) : st.Active where
  failed := h.failed
  operator := by rw [ho, hop]; rfl
  scope := .idle h.isOpen h.isClosed h.isSet hb
  done := fun _ => ⟨hop, h.isOpen, h.isClosed⟩

/-- no result on display: an operation may be pending, and a scope open -/
theorem active_of_not_done {st : State} (hf : st.failed = false) (hd : st.done = false)
    (hop : st.operatorSet = st.operator.isSome) (hsc : ScopeShape st.buffer st.scope) :
    st.Active := by
  refine ⟨hf, hop, hsc, ?_⟩
  intro hd'
  rw [hd] at hd'
  cases hd'

end State

variable {s : Settings} {k : Keypad}

theorem active_startOver (k : Keypad) : k.startOver.state.Active :=
  State.Free.active ⟨rfl, rfl, rfl, rfl⟩ rfl rfl plain_nil

theorem stopped_fail (f : Fault) (pane : Pane) (ho : k.state.scope.isOpen = false)
    (hfn : k.state.scope.isSet = true → k.state.scope.function.isSome = true) :
    (k.fail f pane).state.Stopped :=
  ⟨rfl, rfl, rfl, ho, hfn⟩

/-! ## Transitions -/

theorem active_openScope (h : k.state.Active) (hd : k.state.done = false)
    (ho : k.state.scope.isOpen = false) (hc : k.state.scope.isClosed = false) (f : Trig) :
    (k.openScope f).state.Active :=
  State.active_of_not_done h.failed hd h.operator
    (.opened k.state.buffer f rfl rfl rfl rfl (h.scope.plain ho hc).1 plain_nil rfl)

/-- closing the scope stops the keypad or leaves a closed scope where one was open -/
theorem sound_closeScope (s : Settings) (h : k.state.Active) :
    (k.closeScope s).state.Stopped ∨
      ((k.closeScope s).state.Active ∧ (k.closeScope s).state.scope.isOpen = false) := by
  cases ho : k.state.scope.isOpen with
  | false =>
    rw [closeScope_of_isOpen_eq_false ho]
    exact .inr ⟨h, ho⟩
  | true =>
    obtain ⟨p, f, -, hset, hf, hp, ht, hb⟩ := h.scope.of_isOpen ho
    have hfn : k.state.scope.isSet = true → k.state.scope.function.isSome = true := by
      intro _
      rw [hf]
      rfl
    rcases closeScope_cases (s := s) ho hset hf with ⟨-, he⟩ | ⟨x, e, -, -, he⟩ | ⟨x, y, -, -, he⟩
    · rw [he]
      exact .inl (stopped_fail _ _ rfl hfn)
    · rw [he]
      exact .inl (stopped_fail _ _ rfl hfn)
    · rw [he]
      refine .inr ⟨⟨h.failed, h.operator, ?_, ?_⟩, rfl⟩
      · refine .closed p f rfl rfl rfl hf hp ht ?_
        show k.state.buffer ++ [')'] = p ++ f.name ++ '(' :: k.state.scope.text ++ [')']
        rw [hb]
      · intro hd
        obtain ⟨-, ho', -⟩ := h.done hd
        rw [ho] at ho'
        cases ho'

/-- An operand taken, or the keypad stopped.  With an operand there is no scope any more, whatever
the entry still shows of it. -/
theorem sound_takeOperand (h : k.state.Active) (ho : k.state.scope.isOpen = false) :
    (∃ k', k.takeOperand = (k', none) ∧ k'.state.Stopped) ∨
    (∃ k' x, k.takeOperand = (k', some x) ∧ k'.state.Free ∧ k'.state.done = k.state.done ∧
      k'.state.operatorSet = k.state.operatorSet ∧ k'.state.operator = k.state.operator) := by
  have hset : k.state.scope.isSet = false := by
    cases hs : k.state.scope.isSet with
    | false => rfl
    | true =>
      cases h.scope with
      | idle _ _ hset => rw [hset] at hs; cases hs
      | opened _ _ ho' => rw [ho'] at ho; cases ho
      | closed _ _ _ _ hset => rw [hset] at hs; cases hs
  have hfn : k.state.scope.isSet = true → k.state.scope.function.isSome = true :=
    h.scope.function_of_isSet
  rcases takeOperand_cases k with ⟨x, hx, he⟩ | ⟨-, -, he⟩ | ⟨-, hc, -, he⟩ | ⟨-, -, -, he⟩
  · have hc : k.state.scope.isClosed = false := by
      cases hc : k.state.scope.isClosed with
      | false => rfl
      | true =>
        rw [h.scope.readNumber? (.inr hc)] at hx
        cases hx
    exact .inr ⟨k, x, he, ⟨h.failed, ho, hc, hset⟩, rfl, rfl, rfl⟩
  · exact .inr ⟨_, _, he, ⟨h.failed, ho, rfl, hset⟩, rfl, rfl, rfl⟩
  · exact .inr ⟨_, _, he, ⟨h.failed, ho, hc, hset⟩, rfl, rfl, rfl⟩
  · exact .inl ⟨_, he, stopped_fail _ _ ho hfn⟩

theorem awaiting_awaitRight (op : Operator) (h : k.state.Free) (hd : k.state.done = false) :
    (k.awaitRight op).state.Awaiting op := by
  rw [state_awaitRight]
  refine ⟨State.active_of_not_done h.failed hd rfl ?_, rfl, rfl⟩
  exact .idle h.isOpen h.isClosed h.isSet plain_nil

/-- carrying out the operation stops the keypad or leaves it without one -/
theorem sound_commit (h : k.state.Free) (hop : k.state.operator.isSome = true) :
    k.commit.state.Stopped ∨ (k.commit.state.Free ∧ k.commit.state.done = k.state.done) := by
  obtain ⟨op, hop⟩ := Option.isSome_iff_exists.mp hop
  have hfn : k.state.scope.isSet = true → k.state.scope.function.isSome = true := by
    intro hs
    rw [h.isSet] at hs
    cases hs
  rcases commit_cases hop with ⟨f, -, he⟩ | ⟨x, -, he⟩
  · rw [he]
    exact .inl (stopped_fail _ _ h.isOpen hfn)
  · rw [he]
    exact .inr ⟨h.of_scope_eq rfl rfl, rfl⟩

/-! ## The operator keys and `=` -/

/-- an operator key stops the keypad or leaves it waiting behind that operator -/
theorem sound_pressOperator (s : Settings) (op : Operator) (h : k.state.Active) :
    (k.pressOperator s op).state.Stopped ∨ (k.pressOperator s op).state.Awaiting op := by
  simp only [pressOperator]
  rcases sound_closeScope s h with hstop | ⟨h, ho⟩
  · rw [if_pos hstop.failed]
    exact .inl hstop
  generalize k.closeScope s = k at h ho ⊢
  rw [if_neg h.not_failed]
  split
  · exact .inr ⟨⟨rfl, rfl, .idle rfl rfl rfl plain_nil, nofun⟩, rfl, rfl⟩
  rename_i hd
  rw [Bool.not_eq_true] at hd
  split
  · rename_i hb
    simp only [Bool.and_eq_true, decide_eq_true_eq] at hb
    exact .inr ⟨State.active_of_not_done h.failed hd hb.2 h.scope, rfl, hb.1⟩
  rcases sound_takeOperand h ho with ⟨k', he, hstop⟩ | ⟨k', x, he, hfree, hd', hos, hop⟩
  · rw [he]
    exact .inl hstop
  rw [he]
  simp only
  split
  · exact .inr (awaiting_awaitRight op (hfree.of_scope_eq rfl rfl) (hd'.trans hd))
  rename_i hnot
  have hsome : k'.state.operator.isSome = true := by
    rw [hop, ← h.operator, ← hos]
    simpa using hnot
  rcases sound_commit (k := { k' with state.second := x }) (hfree.of_scope_eq rfl rfl) hsome with
    hstop | ⟨hfree, hd''⟩
  · rw [if_pos hstop.failed]
    exact .inl hstop
  · rw [if_neg (by rw [hfree.failed]; exact Bool.false_ne_true)]
    exact .inr
      (awaiting_awaitRight op (hfree.of_scope_eq rfl rfl) (hd''.trans (hd'.trans hd)))

theorem active_finish (s : Settings) (h : k.state.Free) : (k.finish s).state.Active := by
  refine State.Free.active ⟨h.failed, h.isOpen, h.isClosed, h.isSet⟩ rfl rfl ?_
  show Plain (if k.state.result.isFinite then writeEntry k.state.result else [])
  split
  · exact plain_writeEntry _
  · exact plain_nil

theorem sound_pressEquals (s : Settings) (h : k.state.Active) :
    (k.pressEquals s).state.Stopped ∨
      ((k.pressEquals s).state.Active ∧ (k.pressEquals s).state.done = true) := by
  simp only [pressEquals]
  split
  · rename_i hd
    exact .inr ⟨h, hd⟩
  rcases sound_closeScope s h with hstop | ⟨h, ho⟩
  · rw [if_pos hstop.failed]
    exact .inl hstop
  generalize k.closeScope s = k at h ho ⊢
  rw [if_neg h.not_failed]
  rcases sound_takeOperand h ho with ⟨k', he, hstop⟩ | ⟨k', x, he, hfree, -, hos, hop⟩
  · rw [he]
    exact .inl hstop
  rw [he]
  simp only
  split
  · exact .inr ⟨active_finish s (hfree.of_scope_eq rfl rfl), rfl⟩
  rename_i hnot
  have hsome : k'.state.operator.isSome = true := by
    rw [hop, ← h.operator, ← hos]
    simpa using hnot
  rcases sound_commit (k := { k' with state.second := x }) (hfree.of_scope_eq rfl rfl) hsome with
    hstop | ⟨hfree, -⟩
  · rw [if_pos hstop.failed]
    exact .inl hstop
  · rw [if_neg (by rw [hfree.failed]; exact Bool.false_ne_true)]
    exact .inr ⟨active_finish s (hfree.of_scope_eq rfl rfl), rfl⟩

/-! ## Typing -/

/-- an active state, neither done nor right behind a scope -/
structure State.Typable (st : State) : Prop where
  active : st.Active
  isClosed : st.scope.isClosed = false

theorem State.Awaiting.typable {st : State} {op : Operator} (h : st.Awaiting op) : st.Typable := by
  refine ⟨h.active, ?_⟩
  have hsc := h.active.scope
  rw [h.buffer] at hsc
  exact hsc.of_nil.2

theorem typable_startOver (k : Keypad) : k.startOver.state.Typable := ⟨active_startOver k, rfl⟩

theorem typable_append (s : Settings) (h : k.state.Typable) {t : Text} (ht : Plain t) :
    (k.append s t).state.Typable := by
  simp only [append]
  have h' : (if k.state.done then k.startOver else k).state.Typable ∧
      (if k.state.done then k.startOver else k).state.done = false := by
    split
    · exact ⟨typable_startOver k, rfl⟩
    · rename_i hd
      exact ⟨h, by simpa using hd⟩
  generalize (if k.state.done then k.startOver else k) = k at h' ⊢
  obtain ⟨h, hd⟩ := h'
  split
  · exact h
  cases ho : k.state.scope.isOpen with
  | false =>
    obtain ⟨hb, hset⟩ := h.active.scope.plain ho h.isClosed
    exact ⟨State.active_of_not_done h.active.failed hd h.active.operator
      (.idle ho h.isClosed hset (plain_append.mpr ⟨hb, ht⟩)), h.isClosed⟩
  | true =>
    obtain ⟨p, f, hc, hset, hf, hp, htext, hb⟩ := h.active.scope.of_isOpen ho
    refine ⟨State.active_of_not_done h.active.failed hd h.active.operator ?_, hc⟩
    refine .opened p f rfl hc hset hf hp (plain_append.mpr ⟨htext, ht⟩) ?_
    show k.state.buffer ++ t = p ++ f.name ++ '(' :: (k.state.scope.text ++ t)
    rw [hb, List.append_assoc, List.cons_append]

/-- a number can be typed behind a closed scope or a constant once that is multiplied -/
theorem sound_readyForNumber (s : Settings) (h : k.state.Active) :
    (k.readyForNumber s).state.Stopped ∨ (k.readyForNumber s).state.Typable := by
  unfold readyForNumber
  split
  · rcases sound_pressOperator s .multiply h with hstop | hw
    · exact .inl ⟨hstop.failed, hstop.operatorSet, hstop.operator, hstop.isOpen, hstop.function⟩
    · have hsc := hw.active.scope
      rw [hw.buffer] at hsc
      obtain ⟨ho, hc⟩ := hsc.of_nil
      obtain ⟨hb, hset⟩ := hsc.plain ho hc
      refine .inr ⟨⟨hw.active.failed, hw.active.operator, .idle ho rfl hset ?_, ?_⟩, rfl⟩
      · exact (hw.active.scope.plain ho hc).1
      · exact fun hd => ⟨(hw.active.done hd).1, ho, rfl⟩
  · rename_i hnot
    simp only [Bool.or_eq_true, not_or, Bool.not_eq_true] at hnot
    exact .inr ⟨h, hnot.1⟩

theorem sound_pressDigit (s : Settings) (d : Fin 10) (h : k.state.Active) :
    (k.pressDigit s d).state.Sound := by
  have hplain : ∀ d : Fin 10, Plain [Nat.digitChar d] := by decide
  simp only [pressDigit]
  rcases sound_readyForNumber s h with hstop | h
  · rw [if_pos hstop.failed]
    exact .inr hstop
  · rw [if_neg h.active.not_failed]
    exact .inl (typable_append s h (hplain d)).active

theorem sound_pressPoint (s : Settings) (h : k.state.Active) : (k.pressPoint s).state.Sound := by
  simp only [pressPoint]
  rcases sound_readyForNumber s h with hstop | h
  · rw [if_pos hstop.failed]
    exact .inr hstop
  rw [if_neg h.active.not_failed]
  have h' : (if (k.readyForNumber s).state.done then (k.readyForNumber s).startOver
      else k.readyForNumber s).state.Typable := by
    split
    · exact typable_startOver _
    · exact h
  generalize (if (k.readyForNumber s).state.done then (k.readyForNumber s).startOver
      else k.readyForNumber s) = k at h' ⊢
  split
  · exact .inl h'.active
  · apply Or.inl
    apply State.Typable.active
    apply typable_append s h'
    split <;> decide

/-! ## Functions and constants -/

/-- the result on display keyed into a scope of its own -/
theorem active_seeded (s : Settings) (f : Trig) (k : Keypad) :
    ((openScope { k with state := { result := k.state.result }, display := {} } f).append s
      (Format.result k.state.result)).state.Active := by
  have hstart : ({ result := k.state.result } : State).Active :=
    State.Free.active ⟨rfl, rfl, rfl, rfl⟩ rfl rfl plain_nil
  have hopen := active_openScope
    (k := { k with state := { result := k.state.result }, display := {} }) hstart rfl rfl rfl f
  exact (typable_append s ⟨hopen, rfl⟩ (Format.plain_result k.state.result)).active

theorem sound_applyToResult (s : Settings) (f : Trig) (k : Keypad) :
    (k.applyToResult s f).state.Sound := by
  simp only [applyToResult]
  rcases sound_closeScope s (active_seeded s f k) with hstop | ⟨h, -⟩
  · rw [if_pos hstop.failed]
    exact .inr hstop
  · rw [if_neg h.not_failed]
    rcases sound_pressEquals s h with hstop | ⟨h, -⟩
    · exact .inr hstop
    · exact .inl h

theorem sound_openWithFactor (s : Settings) (f : Trig) (h : k.state.Active)
    (hd : k.state.done = false) (ho : k.state.scope.isOpen = false)
    (hc : k.state.scope.isClosed = false) : (k.openWithFactor s f).state.Sound := by
  unfold openWithFactor
  split
  · exact .inl h
  · have hfactor :
        ({ k.state with scope.factor := readNumber? k.state.buffer } : State).Active := by
      obtain ⟨hb, hset⟩ := h.scope.plain ho hc
      exact ⟨h.failed, h.operator, .idle ho hc hset hb, h.done⟩
    exact .inl (active_openScope
      (k := { k with state.scope.factor := readNumber? k.state.buffer }) hfactor hd ho hc f)

/-- behind an operator a function can be opened -/
theorem State.Awaiting.idle {st : State} {op : Operator} (h : st.Awaiting op) :
    st.done = false ∧ st.scope.isOpen = false ∧ st.scope.isClosed = false := by
  have hsc := h.active.scope
  rw [h.buffer] at hsc
  refine ⟨?_, hsc.of_nil⟩
  cases hd : st.done with
  | false => rfl
  | true =>
    have hop := (h.active.done hd).1
    rw [h.operator] at hop
    cases hop

/-- what is in front of a function or a constant, multiplied where it cannot be a factor -/
theorem multiplied_cases {b : Bool} {k₁ : Keypad}
    (hk₁ : (if b then k.pressOperator s .multiply else k) = k₁) (h : k.state.Active) :
    k₁.state.Stopped ∨
      (b = true ∧ k₁ = k.pressOperator s .multiply ∧ k₁.state.Awaiting .multiply) ∨
      (b = false ∧ k₁ = k) := by
  cases b with
  | false => exact .inr (.inr ⟨rfl, hk₁.symm⟩)
  | true =>
    rw [if_pos rfl] at hk₁
    rw [← hk₁]
    exact (sound_pressOperator s .multiply h).imp_right fun hw => .inl ⟨rfl, rfl, hw⟩

theorem sound_pressFunction (s : Settings) (f : Trig) (h : k.state.Active) :
    (k.pressFunction s f).state.Sound := by
  simp only [pressFunction]
  generalize hk₁ : (if (k.state.constantUsed || k.state.scope.isClosed) = true then
    k.pressOperator s .multiply else k) = k₁
  have hm : k₁.state.Stopped ∨ k₁.state.Typable := by
    rcases multiplied_cases hk₁ h with hstop | ⟨-, -, hw⟩ | ⟨hb, rfl⟩
    · exact .inl hstop
    · exact .inr hw.typable
    · exact .inr ⟨h, (Bool.or_eq_false_iff.mp hb).2⟩
  rcases hm with hstop | h
  · rw [if_pos hstop.failed]
    exact .inr hstop
  rw [if_neg h.active.not_failed]
  split
  · exact sound_applyToResult s f k₁
  rename_i hd
  rw [Bool.not_eq_true] at hd
  split
  · rcases sound_closeScope s h.active with hstop | ⟨h, -⟩
    · rw [if_pos hstop.failed]
      exact .inr hstop
    rw [if_neg h.not_failed]
    rcases sound_pressOperator s .multiply h with hstop | hw
    · rw [if_pos hstop.failed]
      exact .inr hstop
    · rw [if_neg hw.active.not_failed]
      exact sound_openWithFactor s f hw.active hw.idle.1 hw.idle.2.1 hw.idle.2.2
  · rename_i ho
    rw [Bool.not_eq_true] at ho
    exact sound_openWithFactor s f h.active hd ho h.isClosed

/-- the state with a constant typed in its open scope, which is not closed on it yet -/
def State.constantInScope (st : State) (c : Constant) : State :=
  { st with
    constant := c.value * factorOf (typedText st)
    buffer := st.buffer ++ [c.symbol]
    constantUsed := true
    scope.text := st.scope.text ++ [c.symbol] }

theorem active_constantInScope {st : State} (c : Constant) (h : st.Active) (hd : st.done = false)
    (ho : st.scope.isOpen = true) : (st.constantInScope c).Active := by
  obtain ⟨p, g, hc, hset, hf, hp, htext, hb⟩ := h.scope.of_isOpen ho
  refine State.active_of_not_done h.failed hd h.operator ?_
  refine .opened p g ho hc hset hf hp (plain_append.mpr ⟨htext, c.plain_symbol⟩) ?_
  show st.buffer ++ [c.symbol] = p ++ g.name ++ '(' :: (st.scope.text ++ [c.symbol])
  rw [hb, List.append_assoc, List.cons_append]

theorem sound_pressConstant (s : Settings) (c : Constant) (h : k.state.Active) :
    (k.pressConstant s c).state.Sound := by
  simp only [pressConstant]
  generalize hk₁ : (if (k.state.constantUsed || k.state.scope.isClosed || k.state.done) = true then
    k.pressOperator s .multiply else k) = k₁
  have hm : k₁.state.Stopped ∨ (k₁.state.Typable ∧ k₁.state.done = false) := by
    rcases multiplied_cases hk₁ h with hstop | ⟨-, -, hw⟩ | ⟨hb, rfl⟩
    · exact .inl hstop
    · exact .inr ⟨hw.typable, hw.idle.1⟩
    · simp only [Bool.or_eq_false_iff] at hb
      exact .inr ⟨⟨h, hb.1.2⟩, hb.2⟩
  rcases hm with hstop | ⟨h, hd⟩
  · rw [if_pos hstop.failed]
    exact .inr hstop
  rw [if_neg h.active.not_failed]
  split
  · exact .inl h.active
  split
  · rename_i ho
    rcases sound_closeScope (k := { k₁ with state := k₁.state.constantInScope c }) s
      (active_constantInScope c h.active hd ho) with hstop | ⟨h, -⟩
    · exact .inr ⟨hstop.failed, hstop.operatorSet, hstop.operator, hstop.isOpen, hstop.function⟩
    · exact .inl ⟨h.failed, h.operator, h.scope, h.done⟩
  · rename_i ho
    rw [Bool.not_eq_true] at ho
    obtain ⟨hb, hset⟩ := h.active.scope.plain ho h.isClosed
    exact .inl (State.active_of_not_done h.active.failed hd h.active.operator
      (.idle ho h.isClosed hset (plain_append.mpr ⟨hb, c.plain_symbol⟩)))

/-! ## Editing -/

theorem sound_dropScope (h : k.state.Active) (hd : k.state.done = false)
    (ho : k.state.scope.isOpen = true) (ht : k.state.scope.text = []) :
    k.dropScope.state.Active := by
  obtain ⟨p, f, -, -, hf, hp, -, hb⟩ := h.scope.of_isOpen ho
  refine State.active_of_not_done h.failed hd h.operator (.idle rfl rfl rfl ?_)
  have htake : k.dropScope.state.buffer = p := by
    show k.state.buffer.take
      (k.state.buffer.length - ((k.state.scope.function.elim 0 fun f => f.name.length) + 1)) = p
    rw [hf, hb, ht]
    simp
  rw [htake]
  exact hp

/-- Without its last character an entry still goes with its scope: a `)` taken back opens the scope
that it closed. -/
theorem sound_dropChar (h : k.state.Active) (hd : k.state.done = false) {c : Char}
    (hc : k.state.buffer.getLast? = some c)
    (ht : k.state.scope.isOpen = true → k.state.scope.text ≠ []) : (k.dropChar c).state.Active := by
  by_cases hparen : c = ')'
  · subst hparen
    have hclosed : k.state.scope.isClosed = true := h.scope.isClosed_of_getLast? hc ht
    obtain ⟨p, f, -, -, hf, hp, htext, hb⟩ := h.scope.of_isClosed hclosed
    rw [state_dropChar_closing]
    refine State.active_of_not_done h.failed hd h.operator
      (.opened p f rfl rfl rfl hf hp htext ?_)
    show k.state.buffer.dropLast = p ++ f.name ++ '(' :: k.state.scope.text
    rw [hb, List.dropLast_concat]
  · rw [state_dropChar hparen]
    refine State.active_of_not_done h.failed hd h.operator ?_
    show ScopeShape k.state.buffer.dropLast k.state.scope.dropLast
    cases h.scope with
    | idle ho hclosed hset hb =>
      have hsc : k.state.scope.dropLast = k.state.scope := if_neg (by simp [ho])
      rw [hsc]
      exact .idle ho hclosed hset hb.dropLast
    | opened p f ho hclosed hset hf hp htext hb =>
      have hsc : k.state.scope.dropLast =
          { k.state.scope with
            text := k.state.scope.text.dropLast
            isStarted := !k.state.scope.text.dropLast.isEmpty } := if_pos ho
      rw [hsc]
      refine .opened p f ho hclosed hset hf hp htext.dropLast ?_
      rw [hb, List.dropLast_append_of_ne_nil (List.cons_ne_nil _ _),
        List.dropLast_cons_of_ne_nil (ht ho)]
    | closed p f _ _ _ _ _ _ hb =>
      rw [hb, List.getLast?_concat] at hc
      exact absurd (Option.some.inj hc).symm hparen

theorem sound_pressBackspace (h : k.state.Active) : k.pressBackspace.state.Active := by
  unfold pressBackspace
  split
  · exact h
  rename_i hd
  rw [Bool.not_eq_true] at hd
  split
  · rw [state_shortenTrail]
    exact h
  rename_i c hc
  split
  · rename_i hopen
    simp only [Bool.and_eq_true, decide_eq_true_eq] at hopen
    exact sound_dropScope h hd hopen.1 hopen.2
  · rename_i hopen
    refine sound_dropChar h hd hc ?_
    intro ho ht
    simp [ho, ht] at hopen

theorem sound_pressClearEntry (h : k.state.Active) : k.pressClearEntry.state.Active := by
  unfold pressClearEntry
  split
  · exact h
  rename_i hd
  rw [Bool.not_eq_true] at hd
  exact State.active_of_not_done h.failed hd h.operator (.idle rfl rfl rfl plain_nil)

/-- what is typed in an open scope replaced -/
theorem replaced_scope {b p t : Text} {f : Trig} (h : b = p ++ f.name ++ '(' :: t) (r : Text) :
    b.take (b.length - t.length) ++ r = p ++ f.name ++ '(' :: r := by
  have hsplit : b = (p ++ f.name ++ ['(']) ++ t := by
    rw [h]
    simp
  rw [hsplit, List.length_append, Nat.add_sub_cancel, List.take_left' rfl]
  simp

theorem sound_pressToggleSign (h : k.state.Active) : k.pressToggleSign.state.Active := by
  simp only [pressToggleSign]
  split
  · exact State.Free.active ⟨rfl, rfl, rfl, rfl⟩ rfl rfl (plain_writeEntry _)
  rename_i hd
  rw [Bool.not_eq_true] at hd
  split
  · rename_i ho
    obtain ⟨p, f, hc, hset, hf, hp, ht, hb⟩ := h.scope.of_isOpen ho
    split
    · exact h
    · refine State.active_of_not_done h.failed hd h.operator
        (.opened p f ho hc hset hf hp (plain_toggled ht) ?_)
      exact replaced_scope hb _
  · split
    · rename_i hc
      obtain ⟨p, f, ho, hset, hf, hp, ht, hb⟩ := h.scope.of_isClosed hc
      refine State.active_of_not_done h.failed hd h.operator
        (.closed (toggled p) f ho hc hset hf (plain_toggled hp) ht ?_)
      show toggled k.state.buffer =
        toggled p ++ f.name ++ '(' :: k.state.scope.text ++ [')']
      rw [hb, List.append_assoc, List.append_assoc, toggled_append p (f.bare_name_append _),
        ← List.append_assoc, ← List.append_assoc]
    · rename_i ho hc
      rw [Bool.not_eq_true] at ho hc
      split
      · exact h
      · obtain ⟨hb, hset⟩ := h.scope.plain ho hc
        exact State.active_of_not_done h.failed hd h.operator
          (.idle ho hc hset (plain_toggled hb))

/-! ## Every key -/

/-- what a key does to an active state is sound -/
theorem sound_handle (s : Settings) (key : Key) (h : k.state.Active) :
    (k.handle s key).state.Sound := by
  cases key with
  | digit d => exact sound_pressDigit s d h
  | point => exact sound_pressPoint s h
  | operator op => exact (sound_pressOperator s op h).elim .inr fun hw => .inl hw.active
  | function f => exact sound_pressFunction s f h
  | constant c => exact sound_pressConstant s c h
  | equals => exact (sound_pressEquals s h).elim .inr fun he => .inl he.1
  | backspace => exact .inl (sound_pressBackspace h)
  | clearEntry => exact .inl (sound_pressClearEntry h)
  | clearAll => exact .inl (active_startOver k)
  | toggleSign => exact .inl (sound_pressToggleSign h)

/-- a key leaves a sound state behind, whatever is on display -/
theorem sound_press (s : Settings) (key : Key) (h : k.state.Sound) :
    (k.press s key).state.Sound := by
  unfold press
  split
  · rename_i hf
    rw [acknowledge, if_pos hf]
    exact .inl (active_startOver k)
  · rename_i hf
    rw [state_refreshPreview]
    exact sound_handle s key (h.active (by simpa using hf))

end PocketCalc.Keypad
