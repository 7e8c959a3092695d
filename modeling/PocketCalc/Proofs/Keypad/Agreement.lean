import PocketCalc.Proofs.Keypad.Run
import PocketCalc.Proofs.Keypad.Typing

/-!
# Keyed chains and evaluated texts

A chain keyed on a fresh keypad comes to the same as its text evaluated at once.  Between two
operands the keypad holds what is pending, an operator with its left operand; behind an operand it
holds that, too, and the operand in the entry.

* `Going`, `Ready`, `Entered`   what is pending, nothing typed yet, an operand typed;
* `entered_of_ready`            the commands of an operand;
* `settled_of_entered`          what closing the scope and taking the operand come to;
* `pressOperator_of_entered`, `pressEquals_of_entered`   the key behind an operand;
* `obey_rest`                   what is left of a chain, keyed;
* `agrees_with_evaluate`        the whole chain.
-/

namespace PocketCalc.Keypad
open Text

/-- the settings where nothing but the functions and the clock is chosen -/
def standard (lib : TrigLibrary) (now : TimeOfDay) : Settings := { lib, now }

/-- no error and no result on display, an operator with its left operand or nothing pending, and the
error log as given -/
structure Going (k : Keypad) (p : Option (Float × Operator)) (log : ErrorLog) : Prop where
  failed : k.state.failed = false
  done : k.state.done = false
  operatorSet : k.state.operatorSet = p.isSome
  operator : k.state.operator = p.map Prod.snd
  first : ∀ q ∈ p, k.state.first = q.1
  errors : k.errors = log

/-- besides, nothing is typed -/
structure Ready (k : Keypad) (p : Option (Float × Operator)) (log : ErrorLog) : Prop
    extends Going k p log where
  buffer : k.state.buffer = []
  isOpen : k.state.scope.isOpen = false
  isClosed : k.state.scope.isClosed = false
  constantUsed : k.state.constantUsed = false

/-- an operand is typed -/
inductive Entered (k : Keypad) : Operand → Prop
  | number {m : Numeral} : k.state.buffer = m.text → k.state.scope.isOpen = false →
      k.state.scope.isClosed = false → k.state.constantUsed = false → Entered k (.number m)
  | applied {factor : Option Numeral} {f : FunctionWord} {x : Numeral} :
      k.state.buffer = (Operand.applied factor f x).entry → k.state.scope.isOpen = true →
      k.state.scope.isSet = true → k.state.scope.function = some f.fn →
      k.state.scope.factor = factor.map Numeral.value → k.state.scope.text = x.text →
      k.state.constantUsed = false → Entered k (.applied factor f x)
  | constant {factor : Option Numeral} {c : ConstantWord} :
      k.state.buffer = (Operand.constant factor c).entry → k.state.scope.isOpen = false →
      k.state.scope.isClosed = false → k.state.constantUsed = true →
      k.state.constant = c.constant.value * factor.elim 1 Numeral.value →
      Entered k (.constant factor c)

variable (lib : TrigLibrary) (now : TimeOfDay) {k : Keypad} {p : Option (Float × Operator)}
  {log : ErrorLog}

/-! ## Keying an operand -/

theorem obey_append {s : Settings} {k' : Keypad} {ts us : List Text} (h : obey s k ts = .ok k') :
    obey s k (ts ++ us) = obey s k' us := by
  induction ts generalizing k with
  | nil =>
    cases h
    rfl
  | cons t ts ih =>
    rw [obey] at h
    split at h
    · rename_i hf
      cases h
      rw [obey_of_failed hf, obey_of_failed hf]
    · rename_i hf
      cases ht : k.feed s t with
      | error f =>
        rw [ht] at h
        cases h
      | ok k₁ =>
        rw [ht] at h
        rw [List.cons_append, obey, if_neg hf, ht]
        exact ih h

theorem Ready.keying (h : Ready k p log) : k.state.Keying :=
  ⟨h.failed, h.done, h.isClosed, h.constantUsed⟩

theorem Ready.typedText (h : Ready k p log) : typedText k.state = [] := by
  rw [Keypad.typedText, h.isOpen, if_neg Bool.false_ne_true, h.buffer]

/-- what is pending, and what is on display besides the entry -/
def outlook (k : Keypad) : Bool × Bool × Bool × Option Operator × Float × ErrorLog :=
  (k.state.failed, k.state.done, k.state.operatorSet, k.state.operator, k.state.first, k.errors)

theorem Going.of_outlook_eq {k' : Keypad} (h : Going k p log) (hk : k'.outlook = k.outlook) :
    Going k' p log := by
  simp only [outlook, Prod.mk.injEq] at hk
  obtain ⟨hf, hd, hset, hop, hfirst, he⟩ := hk
  refine ⟨hf.trans h.failed, hd.trans h.done, hset.trans h.operatorSet, hop.trans h.operator, ?_,
    he.trans h.errors⟩
  intro q hq
  exact hfirst.trans (h.first q hq)

theorem Typed.outlook_eq {k' : Keypad} {t : Text} (h : Typed k t k') : k'.outlook = k.outlook := by
  obtain ⟨⟨_, _, hs⟩, he⟩ := h
  rw [outlook, hs, he]
  rfl

theorem readNumber?_factor (factor : Option Numeral) :
    readNumber? (factor.elim [] Numeral.text) = factor.map Numeral.value := by
  cases factor with
  | none => rfl
  | some m => exact m.readNumber?_text

/-- a numeral in the entry, or nothing, is what a function or a constant is keyed behind -/
structure Fronted (k : Keypad) (factor : Option Numeral) (p : Option (Float × Operator))
    (log : ErrorLog) : Prop extends Going k p log where
  keying : k.state.Keying
  isOpen : k.state.scope.isOpen = false
  buffer : k.state.buffer = factor.elim [] Numeral.text

theorem fronted_of_ready (h : Ready k p log) (factor : Option Numeral)
    (hlen : (factor.elim [] Numeral.text).length ≤ 13) :
    ∃ k', obey (standard lib now) k (factor.toList.map Numeral.text) = .ok k' ∧
      Fronted k' factor p log := by
  cases factor with
  | none => exact ⟨k, rfl, h.toGoing, h.keying, h.isOpen, h.buffer⟩
  | some m =>
    have hlen : m.text.length ≤ 13 := hlen
    have hroom : (k.state.buffer.length + m.text.length : Int) ≤ (standard lib now).maxEntry := by
      rw [h.buffer]
      show ((0 : Nat) + m.text.length : Int) ≤ 13
      omega
    obtain ⟨k', hk', ht⟩ := typed_numeral m h.keying h.typedText hroom
    refine ⟨k', obey_cons h.failed hk' [], h.toGoing.of_outlook_eq ht.outlook_eq,
      ht.keying h.keying, ?_, ?_⟩
    · obtain ⟨⟨_, _, hs⟩, -⟩ := ht
      rw [hs]
      exact h.isOpen
    · rw [ht.buffer, h.buffer]
      rfl

theorem press_function (hk : k.state.Keying) (ho : k.state.scope.isOpen = false) (f : Trig)
    (hroom : k.state.buffer.length + f.name.length + 1 < 30) :
    (k.press (standard lib now) (.function f)).state =
        { k.state with
          buffer := k.state.buffer ++ f.name ++ ['(']
          scope :=
            { k.state.scope with
              function := some f
              factor := readNumber? k.state.buffer
              text := []
              isSet := true
              isOpen := true
              isClosed := false
              isStarted := false } } ∧
      (k.press (standard lib now) (.function f)).errors = k.errors := by
  have hpress : k.press (standard lib now) (.function f) =
      (openScope { k with state.scope.factor := readNumber? k.state.buffer } f).refreshPreview
        (standard lib now) := by
    have hlimit : ¬ (standard lib now).maxScope ≤
        (k.state.buffer.length : Int) + f.name.length + 1 := by
      show ¬ (30 : Int) ≤ _
      omega
    rw [press, if_neg (by simp [hk.failed]), handle, pressFunction, hk.constantUsed, hk.isClosed]
    simp only [Bool.or_self, Bool.false_eq_true, if_false]
    rw [if_neg (by simp [hk.failed]), if_neg (by simp [hk.done]), if_neg (by simp [ho]),
      openWithFactor, if_neg hlimit]
  rw [hpress, state_refreshPreview, errors_refreshPreview]
  exact ⟨rfl, rfl⟩

theorem press_constant (hk : k.state.Keying) (ho : k.state.scope.isOpen = false) (c : Constant)
    (hroom : k.state.buffer.length < 13) :
    (k.press (standard lib now) (.constant c)).state =
        { k.state with
          constant := c.value * factorOf k.state.buffer
          buffer := k.state.buffer ++ [c.symbol]
          constantUsed := true } ∧
      (k.press (standard lib now) (.constant c)).errors = k.errors := by
  have hpress : k.press (standard lib now) (.constant c) =
      (showEntry
        { k with
          state.constant := c.value * factorOf k.state.buffer
          state.buffer := k.state.buffer ++ [c.symbol]
          state.constantUsed := true }).refreshPreview (standard lib now) := by
    have hlimit : ¬ (standard lib now).maxEntry ≤ (k.state.buffer.length : Int) := by
      show ¬ (13 : Int) ≤ _
      omega
    rw [press, if_neg (by simp [hk.failed]), handle, pressConstant, hk.constantUsed, hk.isClosed,
      hk.done]
    simp only [Bool.or_self, Bool.false_eq_true, if_false]
    rw [if_neg (by simp [hk.failed]), if_neg hlimit, if_neg (by simp [ho])]
    simp only [typedText, ho, Bool.false_eq_true, if_false]
  rw [hpress, state_refreshPreview, errors_refreshPreview]
  exact ⟨rfl, rfl⟩

theorem factorOf_factor (factor : Option Numeral) :
    factorOf (factor.elim [] Numeral.text) = factor.elim 1 Numeral.value := by
  rw [factorOf, readNumber?_factor]
  cases factor <;> rfl

theorem entered_applied {factor : Option Numeral} (h : Fronted k factor p log) (f : FunctionWord)
    (x : Numeral) (hfits : (Operand.applied factor f x).Fits) :
    ∃ k', obey (standard lib now) k [f.text, x.text] = .ok k' ∧ Going k' p log ∧
      Entered k' (.applied factor f x) := by
  have hlen : (factor.elim [] Numeral.text).length + f.fn.name.length + 1 + x.text.length ≤ 13 := by
    simp only [Operand.Fits, Operand.entry, List.length_append, List.length_cons] at hfits
    omega
  obtain ⟨hs, he⟩ := press_function lib now h.keying h.isOpen f.fn
    (by rw [h.buffer]; omega)
  have hfeed := feed_function (standard lib now) k f
  generalize k.press (standard lib now) (.function f.fn) = k₁ at hs he hfeed
  have hkeying : k₁.state.Keying := by
    rw [hs]
    exact ⟨h.failed, h.done, rfl, h.keying.constantUsed⟩
  have hroom : (k₁.state.buffer.length + x.text.length : Int) ≤ (standard lib now).maxEntry := by
    rw [hs, h.buffer]
    show (((factor.elim [] Numeral.text ++ f.fn.name ++ ['(']).length : Int) + x.text.length) ≤ 13
    rw [List.length_append, List.length_append, List.length_singleton]
    omega
  obtain ⟨k', hk', ht⟩ := typed_numeral x hkeying (by rw [hs]; rfl) hroom
  refine ⟨k', ?_, ?_, ?_⟩
  · rw [obey_cons h.failed hfeed, obey_cons hkeying.failed hk']
    rfl
  · apply h.toGoing.of_outlook_eq
    rw [ht.outlook_eq, outlook, hs, he]
    rfl
  · obtain ⟨⟨_, _, hs'⟩, -⟩ := ht
    rw [hs] at hs'
    refine .applied ?_ ?_ ?_ ?_ ?_ ?_ ?_
    all_goals rw [hs']
    · show k.state.buffer ++ f.fn.name ++ ['('] ++ x.text = _
      rw [h.buffer, List.append_assoc _ ['(']]
      rfl
    · show readNumber? k.state.buffer = _
      rw [h.buffer, readNumber?_factor]
    · rfl
    · exact h.keying.constantUsed

theorem entered_constant {factor : Option Numeral} (h : Fronted k factor p log) (c : ConstantWord)
    (hfits : (Operand.constant factor c).Fits) :
    ∃ k', obey (standard lib now) k [c.text] = .ok k' ∧ Going k' p log ∧
      Entered k' (.constant factor c) := by
  have hlen : (factor.elim [] Numeral.text).length + 1 ≤ 13 := by
    simp only [Operand.Fits, Operand.entry, List.length_append, List.length_singleton] at hfits
    exact hfits
  obtain ⟨hs, he⟩ := press_constant lib now h.keying h.isOpen c.constant
    (by rw [h.buffer]; omega)
  refine ⟨_, obey_cons h.failed (feed_constant _ k c) [], ?_, ?_⟩
  · apply h.toGoing.of_outlook_eq
    rw [outlook, hs, he]
    rfl
  · refine .constant ?_ ?_ ?_ ?_ ?_
    all_goals rw [hs]
    · show k.state.buffer ++ [c.constant.symbol] = _
      rw [h.buffer]
      rfl
    · exact h.isOpen
    · exact h.keying.isClosed
    · show c.constant.value * factorOf k.state.buffer = _
      rw [h.buffer, factorOf_factor]

/-- an operand that fits into the entry is typed there -/
theorem entered_of_ready (h : Ready k p log) {o : Operand} (ho : o.Fits) :
    ∃ k', obey (standard lib now) k o.commands = .ok k' ∧ Going k' p log ∧ Entered k' o := by
  cases o with
  | number m =>
    obtain ⟨k', hk', hfront⟩ := fronted_of_ready lib now h (some m) ho
    exact ⟨k', hk', hfront.toGoing,
      .number hfront.buffer hfront.isOpen hfront.keying.isClosed hfront.keying.constantUsed⟩
  | applied factor f x =>
    have hlen : (factor.elim [] Numeral.text).length ≤ 13 := by
      simp only [Operand.Fits, Operand.entry, List.length_append] at ho
      omega
    obtain ⟨k₁, hk₁, hfront⟩ := fronted_of_ready lib now h factor hlen
    obtain ⟨k', hk', hout⟩ := entered_applied lib now hfront f x ho
    exact ⟨k', by rw [Operand.commands, obey_append hk₁, hk'], hout⟩
  | constant factor c =>
    have hlen : (factor.elim [] Numeral.text).length ≤ 13 := by
      simp only [Operand.Fits, Operand.entry, List.length_append] at ho
      omega
    obtain ⟨k₁, hk₁, hfront⟩ := fronted_of_ready lib now h factor hlen
    obtain ⟨k', hk', hout⟩ := entered_constant lib now hfront c ho
    exact ⟨k', by rw [Operand.commands, obey_append hk₁, hk'], hout⟩

/-! ## The key behind an operand -/

/-- an error is on display, and it is the only thing that was reported -/
structure FailedWith (k : Keypad) (f : Fault) (log : ErrorLog) : Prop where
  failed : k.state.failed = true
  preview : k.display.preview = f.message.toList
  errors : k.errors = log.report f.kind (some f.message.toList) f.detail

/-- what is pending, carried out on a right operand -/
def carry (p : Option (Float × Operator)) (x : Float) : Except Fault Float :=
  match p with
  | none => .ok x
  | some (a, op) => op.compute [op.symbol] a x

theorem readNumber?_constant_entry (factor : Option Numeral) (c : ConstantWord) :
    readNumber? (Operand.constant factor c).entry = none := by
  cases h : readNumber? (Operand.constant factor c).entry with
  | none => rfl
  | some x =>
    have hlast := last_of_readNumber? h (c := c.constant.symbol) List.getLast?_concat
    have hsymbol : ∀ c : Constant, ¬ (isBlank c.symbol = true ∨ isValuedDigit c.symbol = true ∨
        c.symbol = '.' ∨ c.symbol = ',') := by
      intro c
      cases c <;> decide
    exact absurd hlast (hsymbol c.constant)

/-- the scope closed, and the operand `x` to be taken -/
structure Settled (k : Keypad) (x : Float) (p : Option (Float × Operator)) (log : ErrorLog) :
    Prop extends Going k p log where
  isOpen : k.state.scope.isOpen = false
  buffer : k.state.buffer ≠ []
  takes : ∃ k', k.takeOperand = (k', some x) ∧ Going k' p log ∧ k'.state.scope.isOpen = false ∧
    k'.state.scope.isClosed = false ∧ k'.state.constantUsed = false

theorem settled_of_isClosed (h : Going k p log) (ho : k.state.scope.isOpen = false)
    (hc : k.state.scope.isClosed = true) (hu : k.state.constantUsed = false)
    (hb : readNumber? k.state.buffer = none) (hne : k.state.buffer ≠ []) :
    Settled k k.state.scope.result p log := by
  refine ⟨h, ho, hne, { k with state.scope.isClosed := false }, ?_, ?_, ho, rfl, hu⟩
  · rw [takeOperand, hb, hc]
    rfl
  · exact ⟨h.failed, h.done, h.operatorSet, h.operator, h.first, h.errors⟩

/-- closing the scope comes to the value of the operand, or to its error -/
theorem settled_of_entered (h : Going k p log) {o : Operand} (he : Entered k o) :
    (∃ f, o.value lib = .error f ∧ FailedWith (k.closeScope (standard lib now)) f log) ∨
    ∃ x, o.value lib = .ok x ∧ Settled (k.closeScope (standard lib now)) x p log := by
  cases he with
  | @number m hb ho hc hu =>
    right
    rw [closeScope_of_isOpen_eq_false ho]
    refine ⟨m.value, rfl, h, ho, ?_, k, ?_, h, ho, hc, hu⟩
    · rw [hb, Numeral.text]
      simp [m.ne_nil]
    · rw [takeOperand, hb, m.readNumber?_text]
  | @constant factor c hb ho hc hu hconst =>
    right
    rw [closeScope_of_isOpen_eq_false ho]
    refine ⟨k.state.constant, ?_, h, ho, ?_, { k with state.constantUsed := false }, ?_, ?_, ho, hc,
      rfl⟩
    · rw [hconst]
      rfl
    · rw [hb]
      simp [Operand.entry]
    · rw [takeOperand, hb, readNumber?_constant_entry, hc, hu]
      rfl
    · exact ⟨h.failed, h.done, h.operatorSet, h.operator, h.first, h.errors⟩
  | @applied factor f x hb ho hset hfn hfactor ht hu =>
    have hoperand : scopeOperand? k.state = some x.value := by
      rw [scopeOperand?, ht, x.readNumber?_text]
    have hvalue : scopeValue (standard lib now) k.state.scope f.fn x.value =
        (Operand.applied factor f x).value lib := by
      rw [scopeValue, hfactor]
      rfl
    rcases closeScope_cases (s := standard lib now) ho hset hfn with
      ⟨hnone, -⟩ | ⟨x', e, hx', hy, hclose⟩ | ⟨x', y, hx', hy, hclose⟩
    · rw [hoperand] at hnone
      cases hnone
    · rw [hoperand] at hx'
      cases hx'
      left
      rw [hclose]
      exact ⟨e, hvalue.symm.trans hy, rfl, rfl, congrArg (ErrorLog.report · _ _ _) h.errors⟩
    · rw [hoperand] at hx'
      cases hx'
      right
      rw [hclose]
      have hunread : readNumber? (k.state.buffer ++ [')']) = none := by
        apply readNumber?_of_not_plain
        simp
      have hne : (k.state.buffer ++ [')']) ≠ [] := by simp
      refine ⟨y, hvalue.symm.trans hy, settled_of_isClosed ?_ rfl rfl hu hunread hne⟩
      exact ⟨h.failed, h.done, h.operatorSet, h.operator, h.first, h.errors⟩

/-- the pending operation carried out on the right operand, or its error -/
theorem commit_of_going {a x : Float} {op : Operator} (h : Going k (some (a, op)) log) :
    (∃ f, carry (some (a, op)) x = .error f ∧
      FailedWith (commit { k with state.second := x }) f log) ∨
    ∃ y, carry (some (a, op)) x = .ok y ∧
      (commit { k with state.second := x }).state =
        { k.state with
          second := x
          commits := k.state.commits + 1
          result := y
          operatorSet := false
          justCommitted := true } ∧
      (commit { k with state.second := x }).errors = log := by
  have hfirst : k.state.first = a := h.first (a, op) rfl
  rcases commit_cases (k := { k with state.second := x }) h.operator with
    ⟨f, hy, he⟩ | ⟨y, hy, he⟩
  · left
    rw [he, carry, ← hfirst]
    exact ⟨f, hy, rfl, rfl, congrArg (ErrorLog.report · _ _ _) h.errors⟩
  · right
    rw [he, carry, ← hfirst]
    exact ⟨y, hy, rfl, h.errors⟩

theorem ready_awaitRight {y : Float} (op : Operator) (hf : k.state.failed = false)
    (hd : k.state.done = false) (hy : k.state.first = y) (he : k.errors = log)
    (ho : k.state.scope.isOpen = false) (hc : k.state.scope.isClosed = false)
    (hu : k.state.constantUsed = false) : Ready (k.awaitRight op) (some (y, op)) log := by
  refine ⟨⟨?_, ?_, ?_, ?_, ?_, (errors_awaitRight k op).trans he⟩, ?_, ?_, ?_, ?_⟩
  all_goals rw [state_awaitRight]
  · exact hf
  · exact hd
  · rfl
  · rfl
  · intro q hq
    cases hq
    exact hy
  · exact ho
  · exact hc
  · exact hu

/-- Behind an operand an operator key comes to the value so far as its left operand, or to the first
error. -/
theorem pressOperator_of_entered (h : Going k p log) {o : Operand} (he : Entered k o)
    (op : Operator) :
    (∃ f, (o.value lib >>= carry p) = .error f ∧
      FailedWith (k.pressOperator (standard lib now) op) f log) ∨
    ∃ y, (o.value lib >>= carry p) = .ok y ∧
      Ready (k.pressOperator (standard lib now) op) (some (y, op)) log := by
  simp only [pressOperator]
  rcases settled_of_entered lib now h he with ⟨f, hf, hstop⟩ | ⟨x, hx, hk⟩
  · left
    rw [if_pos hstop.failed, hf]
    exact ⟨f, rfl, hstop⟩
  generalize k.closeScope (standard lib now) = k at hk ⊢
  obtain ⟨k', htake, hgoing, ho, hc, hu⟩ := hk.takes
  rw [if_neg (by simp [hk.failed]), if_neg (by simp [hk.done]), if_neg (by simp [hk.buffer]), htake,
    hx]
  show (∃ f, carry p x = .error f ∧ _) ∨ ∃ y, carry p x = .ok y ∧ _
  cases p with
  | none =>
    right
    simp only
    rw [if_pos (by simp [hgoing.operatorSet])]
    exact ⟨x, rfl, ready_awaitRight op hgoing.failed hgoing.done rfl hgoing.errors ho hc hu⟩
  | some q =>
    obtain ⟨a, op'⟩ := q
    simp only
    rw [if_neg (by simp [hgoing.operatorSet])]
    rcases commit_of_going (x := x) hgoing with ⟨f, hf, hstop⟩ | ⟨y, hy, hs, herr⟩
    · left
      rw [if_pos hstop.failed]
      exact ⟨f, hf, hstop⟩
    · right
      rw [if_neg (by rw [hs]; simp [hgoing.failed])]
      refine ⟨y, hy, ready_awaitRight op ?_ ?_ ?_ herr ?_ ?_ ?_⟩
      all_goals
        simp only [hs]
      · exact hgoing.failed
      · exact hgoing.done
      · exact ho
      · exact hc
      · exact hu

/-- a result is on display, and nothing was reported -/
structure DoneWith (k : Keypad) (x : Float) (log : ErrorLog) : Prop where
  failed : k.state.failed = false
  done : k.state.done = true
  result : k.state.result = x
  errors : k.errors = log

/-- behind an operand `=` comes to the value so far, or to the first error -/
theorem pressEquals_of_entered (h : Going k p log) {o : Operand} (he : Entered k o) :
    (∃ f, (o.value lib >>= carry p) = .error f ∧
      FailedWith (k.pressEquals (standard lib now)) f log) ∨
    ∃ y, (o.value lib >>= carry p) = .ok y ∧
      DoneWith (k.pressEquals (standard lib now)) y log := by
  rw [pressEquals, if_neg (by simp [h.done])]
  simp only
  rcases settled_of_entered lib now h he with ⟨f, hf, hstop⟩ | ⟨x, hx, hk⟩
  · left
    rw [if_pos hstop.failed, hf]
    exact ⟨f, rfl, hstop⟩
  generalize k.closeScope (standard lib now) = k at hk ⊢
  obtain ⟨k', htake, hgoing, -⟩ := hk.takes
  rw [if_neg (by simp [hk.failed]), htake, hx]
  show (∃ f, carry p x = .error f ∧ _) ∨ ∃ y, carry p x = .ok y ∧ _
  cases p with
  | none =>
    right
    simp only
    rw [if_pos (by simp [hgoing.operatorSet])]
    exact ⟨x, rfl, hgoing.failed, rfl, rfl, hgoing.errors⟩
  | some q =>
    obtain ⟨a, op'⟩ := q
    simp only
    rw [if_neg (by simp [hgoing.operatorSet])]
    rcases commit_of_going (x := x) hgoing with ⟨f, hf, hstop⟩ | ⟨y, hy, hs, herr⟩
    · left
      rw [if_pos hstop.failed]
      exact ⟨f, hf, hstop⟩
    · right
      rw [if_neg (by rw [hs]; simp [hgoing.failed])]
      refine ⟨y, hy, ?_, rfl, ?_, herr⟩
      · show (commit { k' with state.second := x }).state.failed = false
        rw [hs]
        exact hgoing.failed
      · show (commit { k' with state.second := x }).state.result = y
        rw [hs]

/-! ## Keying a chain -/

theorem FailedWith.refreshPreview {f : Fault} (h : FailedWith k f log) (s : Settings) :
    FailedWith (k.refreshPreview s) f log := by
  rw [Keypad.refreshPreview, h.failed]
  exact h

theorem DoneWith.refreshPreview {x : Float} (h : DoneWith k x log) (s : Settings) :
    DoneWith (k.refreshPreview s) x log := by
  refine ⟨?_, ?_, ?_, (errors_refreshPreview s k).trans h.errors⟩
  all_goals rw [state_refreshPreview]
  · exact h.failed
  · exact h.done
  · exact h.result

theorem Ready.refreshPreview (h : Ready k p log) (s : Settings) :
    Ready (k.refreshPreview s) p log := by
  refine ⟨⟨?_, ?_, ?_, ?_, ?_, (errors_refreshPreview s k).trans h.errors⟩, ?_, ?_, ?_, ?_⟩
  all_goals rw [state_refreshPreview]
  · exact h.failed
  · exact h.done
  · exact h.operatorSet
  · exact h.operator
  · exact h.first
  · exact h.buffer
  · exact h.isOpen
  · exact h.isClosed
  · exact h.constantUsed

/-- What is left of a chain behind an operand, and `=`: the keys come to the value of the chain, or
to its first error. -/
theorem obey_rest (rest : List (OperatorWord × Operand)) : (∀ r ∈ rest, r.2.Fits) →
    ∀ {k : Keypad} {p : Option (Float × Operator)} {o : Operand}, Going k p log → Entered k o →
    ∃ k', obey (standard lib now) k
        (rest.flatMap (fun r => r.1.text :: r.2.commands) ++ [['=']]) = .ok k' ∧
      ((∃ f, ((o.value lib >>= carry p) >>= rest.foldlM (Chain.stepValue lib)) = .error f ∧
          FailedWith k' f log) ∨
        ∃ x, ((o.value lib >>= carry p) >>= rest.foldlM (Chain.stepValue lib)) = .ok x ∧
          DoneWith k' x log) := by
  induction rest with
  | nil =>
    intro _ k p o h he
    refine ⟨k.press (standard lib now) .equals, obey_cons h.failed (feed_equals _ k) [], ?_⟩
    have hpress : k.press (standard lib now) .equals =
        (k.pressEquals (standard lib now)).refreshPreview (standard lib now) := by
      rw [press, if_neg (by simp [h.failed])]
      rfl
    rw [hpress]
    rcases pressEquals_of_entered lib now h he with ⟨f, hf, hstop⟩ | ⟨x, hx, hdone⟩
    · rw [hf]
      exact .inl ⟨f, rfl, hstop.refreshPreview _⟩
    · rw [hx]
      exact .inr ⟨x, rfl, hdone.refreshPreview _⟩
  | cons r rest ih =>
    intro hfits k p o h he
    have hpress : k.press (standard lib now) (.operator r.1.op) =
        (k.pressOperator (standard lib now) r.1.op).refreshPreview (standard lib now) := by
      rw [press, if_neg (by simp [h.failed])]
      rfl
    have hfeed := feed_operator (standard lib now) k r.1
    rw [hpress] at hfeed
    rw [List.flatMap_cons, List.cons_append, List.cons_append, obey_cons h.failed hfeed]
    rcases pressOperator_of_entered lib now h he r.1.op with
      ⟨f, hf, hstop⟩ | ⟨y, hy, hready⟩
    · have hstop := hstop.refreshPreview (standard lib now)
      rw [hf]
      exact ⟨_, obey_of_failed hstop.failed _, .inl ⟨f, rfl, hstop⟩⟩
    · obtain ⟨k₁, hk₁, hgoing, hentered⟩ := entered_of_ready lib now
        (hready.refreshPreview _) (hfits r List.mem_cons_self)
      obtain ⟨k', hk', hout⟩ := ih (fun r hr => hfits r (List.mem_cons_of_mem _ hr)) hgoing hentered
      rw [hy]
      rw [List.append_assoc, obey_append hk₁]
      exact ⟨k', hk', hout⟩

theorem ready_fresh (history : History) (errors : ErrorLog) :
    Ready (fresh history errors) none errors := by
  refine ⟨⟨rfl, rfl, rfl, rfl, ?_, rfl⟩, rfl, rfl, rfl, rfl⟩
  intro q hq
  cases hq

/-- a chain keyed on a fresh keypad, and `=`: its value is on display, or its first error -/
theorem obey_chain (lib : TrigLibrary) (now : TimeOfDay) (history : History) (errors : ErrorLog)
    {ch : Chain} (hfits : ∀ o ∈ ch.operands, o.Fits) :
    ∃ k, obey (standard lib now) (fresh history errors) (ch.commands ++ [['=']]) = .ok k ∧
      ((∃ f, ch.value lib = .error f ∧ FailedWith k f errors) ∨
        ∃ x, ch.value lib = .ok x ∧ DoneWith k x errors) := by
  obtain ⟨k₁, hk₁, hgoing, hentered⟩ := entered_of_ready lib now
    (ready_fresh history errors) (hfits ch.first List.mem_cons_self)
  have hrest : ∀ r ∈ ch.rest, r.2.Fits :=
    fun r hr => hfits _ (List.mem_cons_of_mem _ (List.mem_map_of_mem hr))
  obtain ⟨k, hk, hout⟩ := obey_rest lib now ch.rest hrest hgoing hentered
  refine ⟨k, ?_, ?_⟩
  · rw [Chain.commands, List.append_assoc, obey_append hk₁]
    exact hk
  · have hvalue : ((ch.first.value lib >>= carry none) >>= ch.rest.foldlM (Chain.stepValue lib)) =
        ch.value lib := by
      rw [Chain.value]
      cases ch.first.value lib <;> rfl
    rw [hvalue] at hout
    exact hout

/-- **Keys and text agree.**  A chain keyed on a fresh keypad, and `=`, either leaves on display the
number that its text is evaluated to, or an error of the kind that the evaluation ends with,
reported as the newest one. -/
theorem agrees_with_evaluate {lib : TrigLibrary} (hlib : lib.Regular) (now : TimeOfDay)
    (history : History) (errors : ErrorLog) {ch : Chain} (hfits : ∀ o ∈ ch.operands, o.Fits) :
    ∃ k, obey (standard lib now) (fresh history errors) (ch.commands ++ [['=']]) = .ok k ∧
      ((k.state.failed = false ∧ k.state.done = true ∧ k.errors = errors ∧
          Expression.evaluate lib ch.tree.text = .ok (some k.state.result)) ∨
        ∃ f g : Fault, k.state.failed = true ∧
          Expression.evaluate lib ch.tree.text = .error (.fault g) ∧
          f.kind = g.kind ∧ k.display.preview = f.message.toList ∧
          k.errors = errors.push ⟨f.kind, f.message.toList, f.detail⟩) := by
  obtain ⟨k, hk, hout⟩ := obey_chain lib now history errors hfits
  refine ⟨k, hk, ?_⟩
  rw [Expression.evaluate_text lib ch.spelled_tree]
  have halike := Chain.alike_value hlib hfits
  rcases hout with ⟨f, hf, hstop⟩ | ⟨x, hx, hdone⟩
  · right
    rw [hf] at halike
    generalize ch.tree.eval lib = r at halike ⊢
    cases halike with
    | @error _ g hkind =>
      exact ⟨f, g, hstop.failed, rfl, hkind, hstop.preview, hstop.errors⟩
  · left
    rw [hx] at halike
    generalize ch.tree.eval lib = r at halike ⊢
    cases halike with
    | ok =>
      rw [hdone.result]
      exact ⟨hdone.failed, hdone.done, hdone.errors, rfl⟩

/-- `5 + 2 sin 30 × 3` as it is keyed -/
def sampleChain : Chain where
  first := .number (.ofWhole ['5'] (by decide) (by decide))
  rest := [
    (⟨['+'], .add, rfl⟩,
      .applied (some (.ofWhole ['2'] (by decide) (by decide))) ⟨"sin".toList, .sin, rfl⟩
        (.ofWhole "30".toList (by decide) (by decide))),
    (⟨['×'], .multiply, rfl⟩, .number (.ofWhole ['3'] (by decide) (by decide)))]

/-- a library whose functions are all `sin 30°`, as a double -/
def sineOfThirty : TrigLibrary where
  sin _ := 0.49999999999999994
  cos _ := 0.49999999999999994
  tan _ := 0.49999999999999994
  arcsin _ := 0.49999999999999994
  arccos _ := 0.49999999999999994
  arctan _ := 0.49999999999999994

theorem regular_sineOfThirty : sineOfThirty.Regular := by
  have heval : ∀ f x, sineOfThirty.eval f x = 0.49999999999999994 := by
    intro f x
    cases f <;> rfl
  constructor
  · intro f x _
    rw [heval]
    decide +kernel
  · intro f x _ _
    rw [heval]
    exact .inr ⟨by decide +kernel, by decide +kernel⟩

/-- the keys of `5 + 2 sin 30 × 3` come to what `((5+(2×sin(30)))×3)` is evaluated to -/
theorem agrees_with_evaluate_sample :
    sampleChain.commands ++ [['=']] =
        [['5'], ['+'], ['2'], "sin".toList, "30".toList, ['×'], ['3'], ['=']] ∧
      sampleChain.tree.text = "((5+(2×sin(30)))×3)".toList ∧
      ∃ k, obey (standard sineOfThirty ⟨9, 30, 0⟩) (fresh .initial .initial)
          (sampleChain.commands ++ [['=']]) = .ok k ∧ k.state.failed = false ∧
        Expression.evaluate sineOfThirty sampleChain.tree.text = .ok (some k.state.result) := by
  refine ⟨rfl, by decide +kernel, ?_⟩
  have hfits : ∀ o ∈ sampleChain.operands, o.Fits := by decide
  have hvalue : (sampleChain.tree.eval sineOfThirty).toOption = some 18 := by decide +kernel
  obtain ⟨k, hk, ⟨hfailed, -, -, hresult⟩ | ⟨f, g, -, heval, -⟩⟩ :=
    agrees_with_evaluate regular_sineOfThirty ⟨9, 30, 0⟩ .initial .initial hfits
  · exact ⟨k, hk, hfailed, hresult⟩
  · rw [Expression.evaluate_text _ sampleChain.spelled_tree] at heval
    cases hr : sampleChain.tree.eval sineOfThirty with
    | ok x =>
      rw [hr] at heval
      cases heval
    | error e =>
      rw [hr] at hvalue
      cases hvalue

end PocketCalc.Keypad
