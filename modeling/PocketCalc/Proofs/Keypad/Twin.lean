import PocketCalc.Proofs.Keypad.Coherence
import PocketCalc.Proofs.Keypad.Refusal
import PocketCalc.Proofs.Keypad.Respect

/-!
# What no key looks at

Much of what the keypad remembers of a function or a constant stays behind when its entry is gone,
and no key looks at it before a key has written it anew.  Two keypads that differ there alone are
told apart by no run.

* `holding`                 the keypad with other leftovers;
* `Unseen`                  leftovers that agree with the memory wherever keys look at it;
* `Twin k k'`               `k'` is `k` but for such leftovers;
* `twin_closeScope`, ...    every step keeps twins twins, one lemma a step;
* `respected_twin`          so the keys do that are made of them;
* `twin_press`              and so does every key;
* `Program.transcript`      all that a run of events shows;
* `Twin.transcript_eq`      twins have the same transcripts.
-/

namespace PocketCalc.Keypad
open Text

/-! ## Leftovers -/

/-- the keypad with another note of the last operation, constant and scope -/
def holding (k : Keypad) (j : Bool) (c : Float) (sc : Scope) : Keypad :=
  { k with state := { k.state with justCommitted := j, constant := c, scope := sc } }

/-- A scope and a constant that keys cannot tell from `sc` and `c`: a scope that is open or closed
agrees but for what only a front end looks at, and so does a constant that is pending, or that a `)`
taken back makes pending. -/
structure Unseen (sc : Scope) (used : Bool) (c : Float) (sc' : Scope) (c' : Float) : Prop where
  isOpen : sc'.isOpen = sc.isOpen
  isClosed : sc'.isClosed = sc.isClosed
  shown : sc.isOpen = true ∨ sc.isClosed = true →
    sc.function.isSome = true ∧ sc'.function = sc.function ∧ sc'.factor = sc.factor ∧
      sc'.text = sc.text
  opened : sc.isOpen = true → sc.isClosed = false ∧ sc.isSet = true ∧ sc'.isSet = true
  result : sc.isClosed = true → sc'.result = sc.result
  pending : used = true → c' = c
  kept : sc.isClosed = true → endsInConstant sc.text = true → c' = c

/-- the same keypad but for leftovers that no key looks at -/
inductive Twin (k : Keypad) : Keypad → Prop
  | mk (j : Bool) (c : Float) (sc : Scope)
      (h : Unseen k.state.scope k.state.constantUsed k.state.constant sc c) :
      Twin k (k.holding j c sc)

variable {s : Settings} {k k' : Keypad}

/-- without a scope, open or closed, all of it is unseen -/
theorem Unseen.of_idle {sc sc' : Scope} {used : Bool} {c c' : Float} (ho : sc.isOpen = false)
    (hc : sc.isClosed = false) (ho' : sc'.isOpen = false) (hc' : sc'.isClosed = false)
    (hu : used = true → c' = c) : Unseen sc used c sc' c' := by
  refine ⟨ho'.trans ho.symm, hc'.trans hc.symm, ?_, ?_, ?_, hu, ?_⟩
  all_goals simp [ho, hc]

theorem twin_refl_of_idle (ho : k.state.scope.isOpen = false)
    (hc : k.state.scope.isClosed = false) : Twin k k :=
  .mk k.state.justCommitted k.state.constant k.state.scope (.of_idle ho hc ho hc fun _ => rfl)

namespace Twin

theorem display (h : Twin k k') : k'.display = k.display := by
  cases h
  rfl

theorem history (h : Twin k k') : k'.history = k.history := by
  cases h
  rfl

theorem errors (h : Twin k k') : k'.errors = k.errors := by
  cases h
  rfl

theorem failed (h : Twin k k') : k'.state.failed = k.state.failed := by
  cases h
  rfl

theorem done (h : Twin k k') : k'.state.done = k.state.done := by
  cases h
  rfl

theorem buffer (h : Twin k k') : k'.state.buffer = k.state.buffer := by
  cases h
  rfl

theorem operatorSet (h : Twin k k') : k'.state.operatorSet = k.state.operatorSet := by
  cases h
  rfl

theorem result (h : Twin k k') : k'.state.result = k.state.result := by
  cases h
  rfl

theorem constantUsed (h : Twin k k') : k'.state.constantUsed = k.state.constantUsed := by
  cases h
  rfl

theorem isOpen (h : Twin k k') : k'.state.scope.isOpen = k.state.scope.isOpen := by
  cases h with
  | mk j c sc h => exact h.isOpen

theorem isClosed (h : Twin k k') : k'.state.scope.isClosed = k.state.scope.isClosed := by
  cases h with
  | mk j c sc h => exact h.isClosed

theorem text (h : Twin k k') (ho : k.state.scope.isOpen = true) :
    k'.state.scope.text = k.state.scope.text := by
  cases h with
  | mk j c sc h => exact (h.shown (.inl ho)).2.2.2

end Twin

theorem twin_ite {b b' : Prop} [Decidable b] [Decidable b'] {k₁ k₂ k₁' k₂' : Keypad}
    (hb : b' ↔ b) (ht : b → Twin k₁ k₁') (hf : ¬ b → Twin k₂ k₂') :
    Twin (if b then k₁ else k₂) (if b' then k₁' else k₂') :=
  related_ite hb ht hf

/-- what is no longer pending need not agree -/
theorem twin_unused (h : Twin k k') :
    Twin { k with state.constantUsed := false } { k' with state.constantUsed := false } := by
  obtain ⟨j, c, sc, h⟩ := h
  refine .mk j c sc ?_
  exact ⟨h.isOpen, h.isClosed, h.shown, h.opened, h.result, nofun, h.kept⟩

/-! ## The scope -/

theorem twin_showEntry (h : Twin k k') : Twin k.showEntry k'.showEntry := by
  obtain ⟨j, c, sc, h⟩ := h
  exact .mk j c sc h

theorem twin_fail (h : Twin k k') (f : Fault) (pane : Pane) :
    Twin (k.fail f pane) (k'.fail f pane) := by
  obtain ⟨j, c, sc, h⟩ := h
  exact .mk j c sc h

theorem twin_openScope (f : Trig) (x : Option Float) (h : Twin k k') :
    Twin (openScope { k with state.scope.factor := x } f)
      (openScope { k' with state.scope.factor := x } f) := by
  obtain ⟨j, c, sc, h⟩ := h
  refine .mk j c
    { sc with
      factor := x, function := some f, text := [], isSet := true, isOpen := true,
      isClosed := false, isStarted := false } ?_
  exact ⟨rfl, rfl, fun _ => ⟨rfl, rfl, rfl, rfl⟩, fun _ => ⟨rfl, rfl, rfl⟩, nofun, h.pending, nofun⟩

/-- closing an open scope, as one equation -/
theorem closeScope_eq {f : Trig} (hopen : k.state.scope.isOpen = true)
    (hset : k.state.scope.isSet = true) (hf : k.state.scope.function = some f) :
    k.closeScope s =
      match scopeOperand? k.state with
      | none => fail { k with state.scope.isOpen := false } (.nothingToApply f.name) .entry
      | some x =>
        match scopeValue s k.state.scope f x with
        | .error e =>
          fail { k with state.scope.isOpen := false, state.scope.operand := x } e .preview
        | .ok y =>
          markClosed
            { k with
              state.scope.isOpen := false, state.scope.operand := x, state.scope.result := y } := by
  rcases closeScope_cases (s := s) hopen hset hf with
    ⟨hx, he⟩ | ⟨x, e, hx, hy, he⟩ | ⟨x, y, hx, hy, he⟩
  · rw [he, hx]
  · rw [he, hx]
    simp only [hy]
  · rw [he, hx]
    simp only [hy]

theorem scopeOperand?_congr {st st' : State} (htext : st'.scope.text = st.scope.text)
    (hused : st'.constantUsed = st.constantUsed)
    (hc : st.constantUsed = true → st'.constant = st.constant) :
    scopeOperand? st' = scopeOperand? st := by
  unfold scopeOperand?
  rw [htext, hused]
  cases readNumber? st.scope.text with
  | some x => rfl
  | none => exact ite_congr rfl (fun hu => congrArg some (hc hu)) fun _ => rfl

theorem twin_closeScope (s : Settings) (h : Twin k k') :
    Twin (k.closeScope s) (k'.closeScope s) := by
  obtain ⟨j, c, sc, h⟩ := h
  cases ho : k.state.scope.isOpen with
  | false =>
    rw [closeScope_of_isOpen_eq_false ho, closeScope_of_isOpen_eq_false (h.isOpen.trans ho)]
    exact .mk j c sc h
  | true =>
    obtain ⟨hknown, hfunction, hfactor, htext⟩ := h.shown (.inl ho)
    obtain ⟨f, hf⟩ := Option.isSome_iff_exists.mp hknown
    have ho' : (k.holding j c sc).state.scope.isOpen = true := h.isOpen.trans ho
    obtain ⟨-, hset, hset'⟩ := h.opened ho
    have hset' : (k.holding j c sc).state.scope.isSet = true := hset'
    have hf' : (k.holding j c sc).state.scope.function = some f := hfunction.trans hf
    have hoperand : scopeOperand? (k.holding j c sc).state = scopeOperand? k.state :=
      scopeOperand?_congr htext rfl h.pending
    have hvalue : ∀ x, scopeValue s (k.holding j c sc).state.scope f x =
        scopeValue s k.state.scope f x := by
      intro x
      show f.compute s.lib f.name x sc.factor = _
      rw [hfactor]
      rfl
    rw [closeScope_eq ho hset hf, closeScope_eq ho' hset' hf', hoperand]
    cases hx : scopeOperand? k.state with
    | none =>
      dsimp only
      refine .mk j c { sc with isOpen := false } ?_
      exact ⟨rfl, h.isClosed, fun _ => h.shown (.inl ho), (absurd · Bool.false_ne_true), h.result,
        h.pending, h.kept⟩
    | some x =>
      simp only [hvalue]
      cases hy : scopeValue s k.state.scope f x with
      | error e =>
        dsimp only
        refine .mk j c { sc with isOpen := false, operand := x } ?_
        exact ⟨rfl, h.isClosed, fun _ => h.shown (.inl ho), (absurd · Bool.false_ne_true), h.result,
          h.pending, h.kept⟩
      | ok y =>
        -- a scope that ends in a constant was closed on that constant, which was pending
        have hkept : endsInConstant k.state.scope.text = true → c = k.state.constant := by
          intro hend
          apply h.pending
          rw [scopeOperand?, readNumber?_of_endsInConstant hend] at hx
          simp only [Option.ite_none_right_eq_some] at hx
          exact hx.1
        dsimp only
        refine .mk j c
          { sc with isOpen := false, operand := x, result := y, isSet := false, isClosed := true }
          ?_
        exact ⟨rfl, rfl, fun _ => h.shown (.inl ho), (absurd · Bool.false_ne_true), fun _ => rfl,
          h.pending, fun _ => hkept⟩

/-! ## Operands and operations -/

theorem twin_takeOperand (h : Twin k k') :
    k'.takeOperand.2 = k.takeOperand.2 ∧ Twin k.takeOperand.1 k'.takeOperand.1 := by
  obtain ⟨j, c, sc, h⟩ := h
  have hisClosed : (k.holding j c sc).state.scope.isClosed = k.state.scope.isClosed := h.isClosed
  have hbuffer : (k.holding j c sc).state.buffer = k.state.buffer := rfl
  have hused : (k.holding j c sc).state.constantUsed = k.state.constantUsed := rfl
  simp only [takeOperand, hisClosed, hbuffer, hused]
  cases readNumber? k.state.buffer with
  | some x => exact ⟨rfl, .mk j c sc h⟩
  | none =>
    cases hc : k.state.scope.isClosed with
    | true =>
      refine ⟨congrArg some (h.result hc), .mk j c { sc with isClosed := false } ?_⟩
      exact ⟨h.isOpen, rfl, fun _ => h.shown (.inr hc), fun ho => ⟨rfl, (h.opened ho).2⟩,
        (absurd · Bool.false_ne_true), h.pending, (absurd · Bool.false_ne_true)⟩
    | false =>
      cases hu : k.state.constantUsed with
      | true =>
        refine ⟨congrArg some (h.pending hu), .mk j c sc ?_⟩
        exact ⟨h.isOpen, h.isClosed, h.shown, h.opened, h.result, (absurd · Bool.false_ne_true),
          h.kept⟩
      | false => exact ⟨rfl, twin_fail (.mk j c sc h) _ _⟩

theorem twin_commit (h : Twin k k') : Twin k.commit k'.commit := by
  obtain ⟨j, c, sc, h⟩ := h
  cases ho : k.state.operator with
  | none =>
    have hnone : ∀ k : Keypad, k.state.operator = none → k.commit = k := by
      intro k ho
      simp only [commit, ho]
    rw [hnone k ho, hnone (k.holding j c sc) ho]
    exact .mk j c sc h
  | some op =>
    rcases commit_cases ho with ⟨f, hx, he⟩ | ⟨x, hx, he⟩
    · rcases commit_cases (k := k.holding j c sc) ho with ⟨g, hy, he'⟩ | ⟨y, hy, -⟩
      · cases hx.symm.trans hy
        rw [he, he']
        exact .mk j c sc h
      · cases hx.symm.trans hy
    · rcases commit_cases (k := k.holding j c sc) ho with ⟨g, hy, -⟩ | ⟨y, hy, he'⟩
      · cases hx.symm.trans hy
      · cases hx.symm.trans hy
        rw [he, he']
        exact .mk true c sc h

theorem twin_awaitRight (h : Twin k k') (op : Operator) :
    Twin (k.awaitRight op) (k'.awaitRight op) := by
  obtain ⟨j, c, sc, h⟩ := h
  have hbuffer : (k.holding j c sc).state.buffer = k.state.buffer := rfl
  have hcleared : Unseen { k.state.scope with text := [] } k.state.constantUsed k.state.constant
      { sc with text := [] } c := by
    refine ⟨h.isOpen, h.isClosed, fun hsc => ?_, h.opened, h.result, h.pending, nofun⟩
    obtain ⟨hknown, hfunction, hfactor, -⟩ := h.shown hsc
    exact ⟨hknown, hfunction, hfactor, rfl⟩
  unfold awaitRight
  simp only [hbuffer]
  split
  · exact .mk j c { sc with text := [] } hcleared
  · exact .mk j c { sc with text := [] } hcleared

theorem twin_continueChain (h : Twin k k') (op : Operator) :
    Twin (k.continueChain op) (k'.continueChain op) := by
  obtain ⟨j, c, sc, h⟩ := h
  exact twin_refl_of_idle rfl rfl

theorem twin_replaceOperator (h : Twin k k') (op : Operator) :
    Twin (k.replaceOperator op) (k'.replaceOperator op) := by
  obtain ⟨j, c, sc, h⟩ := h
  exact .mk j c sc h

theorem twin_finish (s : Settings) (h : Twin k k') : Twin (k.finish s) (k'.finish s) := by
  obtain ⟨j, c, sc, h⟩ := h
  refine .mk j c { sc with text := [] } ?_
  refine ⟨h.isOpen, h.isClosed, fun hsc => ?_, h.opened, h.result, h.pending, nofun⟩
  obtain ⟨hknown, hfunction, hfactor, -⟩ := h.shown hsc
  exact ⟨hknown, hfunction, hfactor, rfl⟩

/-! ## Typing -/

theorem twin_startOver (h : Twin k k') : Twin k.startOver k'.startOver := by
  obtain ⟨j, c, sc, h⟩ := h
  exact twin_refl_of_idle rfl rfl

theorem twin_append (s : Settings) (t : Text) (h : Twin k k') :
    Twin (k.append s t) (k'.append s t) := by
  have hstart : Twin (if k.state.done then k.startOver else k)
      (if k'.state.done then k'.startOver else k') :=
    twin_ite (by rw [h.done]) (fun _ => twin_startOver h) fun _ => h
  simp only [append]
  generalize (if k.state.done then k.startOver else k) = k at hstart ⊢
  generalize (if k'.state.done then k'.startOver else k') = k' at hstart ⊢
  refine twin_ite (by rw [hstart.buffer]) (fun _ => hstart) fun _ => ?_
  obtain ⟨j, c, sc, h⟩ := hstart
  by_cases ho : k.state.scope.isOpen = true
  · have ho' : (k.holding j c sc).state.scope.isOpen = true := h.isOpen.trans ho
    obtain ⟨hknown, hfunction, hfactor, htext⟩ := h.shown (.inl ho)
    rw [if_pos ho, if_pos ho']
    refine .mk false c { sc with text := sc.text ++ t, isStarted := true } ?_
    refine ⟨h.isOpen, h.isClosed, fun _ => ⟨hknown, hfunction, hfactor, ?_⟩, h.opened, h.result,
      h.pending, ?_⟩
    · exact congrArg (· ++ t) htext
    · exact fun hc => absurd ((h.opened ho).1.symm.trans hc) Bool.false_ne_true
  · have ho' : ¬ (k.holding j c sc).state.scope.isOpen = true :=
      fun ho' => ho (h.isOpen.symm.trans ho')
    rw [if_neg ho, if_neg ho']
    exact .mk false c sc h

theorem typedText_eq (h : Twin k k') : typedText k'.state = typedText k.state := by
  unfold typedText
  rw [h.isOpen, h.buffer]
  cases ho : k.state.scope.isOpen with
  | false => rfl
  | true => exact h.text ho

/-- a closed scope and a constant that were multiplied need not agree -/
theorem twin_multiplied (h : Twin k k') :
    Twin { k with state.scope.isClosed := false, state.constantUsed := false }
      { k' with state.scope.isClosed := false, state.constantUsed := false } := by
  obtain ⟨j, c, sc, h⟩ := h
  refine .mk j c { sc with isClosed := false } ?_
  exact ⟨h.isOpen, rfl, fun ho => h.shown (ho.imp_right nofun), fun ho => ⟨rfl, (h.opened ho).2⟩,
    nofun, nofun, nofun⟩

/-! ## Functions and constants -/

theorem twin_openWithFactor (s : Settings) (f : Trig) (h : Twin k k') :
    Twin (k.openWithFactor s f) (k'.openWithFactor s f) := by
  refine twin_ite (by rw [h.buffer]) (fun _ => h) fun _ => ?_
  rw [h.buffer]
  exact twin_openScope f _ h

theorem twin_typeConstant (c : Constant) (h : Twin k k') (ho : k.state.scope.isOpen = true) :
    Twin { k with state := k.state.constantInScope c }
      { k' with state := k'.state.constantInScope c } := by
  unfold State.constantInScope
  rw [typedText_eq h]
  obtain ⟨j, d, sc, h⟩ := h
  obtain ⟨hknown, hfunction, hfactor, htext⟩ := h.shown (.inl ho)
  refine .mk j (c.value * factorOf (typedText k.state)) { sc with text := sc.text ++ [c.symbol] } ?_
  exact ⟨h.isOpen, h.isClosed, fun _ => ⟨hknown, hfunction, hfactor, congrArg (· ++ _) htext⟩,
    h.opened, h.result, fun _ => rfl, fun _ _ => rfl⟩

theorem twin_showConstant (c : Constant) (x : Float) (h : Twin k k') :
    Twin
      (showEntry
        { k with
          state.constant := x
          state.buffer := k.state.buffer ++ [c.symbol]
          state.constantUsed := true })
      (showEntry
        { k' with
          state.constant := x
          state.buffer := k'.state.buffer ++ [c.symbol]
          state.constantUsed := true }) := by
  obtain ⟨j, d, sc, h⟩ := h
  refine .mk j x sc ?_
  exact ⟨h.isOpen, h.isClosed, h.shown, h.opened, h.result, fun _ => rfl, fun _ _ => rfl⟩

/-! ## Editing -/

theorem twin_shortenTrail (h : Twin k k') : Twin k.shortenTrail k'.shortenTrail := by
  obtain ⟨j, c, sc, h⟩ := h
  have hdisplay : (k.holding j c sc).display = k.display := rfl
  unfold shortenTrail
  rw [hdisplay]
  split
  · exact twin_ite Iff.rfl (fun _ => .mk j c sc h) fun _ => .mk j c sc h
  · exact .mk j c sc h

theorem twin_dropScope (h : Twin k k') (ho : k.state.scope.isOpen = true) :
    Twin k.dropScope k'.dropScope := by
  obtain ⟨j, c, sc, h⟩ := h
  obtain ⟨-, hfunction, -⟩ := h.shown (.inl ho)
  have hfunction : (k.holding j c sc).state.scope.function = k.state.scope.function := hfunction
  unfold dropScope
  rw [hfunction]
  exact .mk j c {} (.of_idle rfl rfl rfl rfl h.pending)

/-- a `)` taken back opens the scope again, with the constant it ends in -/
theorem twin_dropChar_closing (h : Twin k k') (hc : k.state.scope.isClosed = true) :
    Twin (k.dropChar ')') (k'.dropChar ')') := by
  obtain ⟨j, c, sc, h⟩ := h
  obtain ⟨hknown, hfunction, hfactor, htext⟩ := h.shown (.inr hc)
  have htext' : (k.holding j c sc).state.scope.text = k.state.scope.text := htext
  simp only [dropChar, if_true, htext']
  refine .mk j c
    { sc with text := k.state.scope.text, isClosed := false, isOpen := true, isSet := true } ?_
  exact ⟨rfl, rfl, fun _ => ⟨hknown, hfunction, hfactor, rfl⟩, fun _ => ⟨rfl, rfl, rfl⟩, nofun,
    h.kept hc, nofun⟩

theorem Unseen.dropLast {sc sc' : Scope} {used : Bool} {c c' : Float} (h : Unseen sc used c sc' c')
    (hclosed : sc.isClosed = false) {u : Bool} {d d' : Float} (hu : u = true → d' = d) :
    Unseen sc.dropLast u d sc'.dropLast d' := by
  have hkept : ∀ {t : Text}, sc.isClosed = true → endsInConstant t = true → d' = d :=
    fun hc => absurd (hclosed.symm.trans hc) Bool.false_ne_true
  unfold Scope.dropLast
  by_cases ho : sc.isOpen = true
  · rw [if_pos ho, if_pos (h.isOpen.trans ho)]
    obtain ⟨hknown, hfunction, hfactor, htext⟩ := h.shown (.inl ho)
    exact ⟨h.isOpen, h.isClosed,
      fun _ => ⟨hknown, hfunction, hfactor, congrArg List.dropLast htext⟩, h.opened, h.result, hu,
      hkept⟩
  · rw [if_neg ho, if_neg fun ho' => ho (h.isOpen.symm.trans ho')]
    exact ⟨h.isOpen, h.isClosed, h.shown, h.opened, h.result, hu, hkept⟩

/-- any other character taken back leaves the scope open or away -/
theorem twin_dropChar (h : Twin k k') {c : Char} (hc : c ≠ ')')
    (hclosed : k.state.scope.isClosed = false) : Twin (k.dropChar c) (k'.dropChar c) := by
  rw [(dropChar_eq_showEntry k c).1, (dropChar_eq_showEntry k' c).1, state_dropChar hc,
    state_dropChar hc]
  apply twin_showEntry
  obtain ⟨j, d, sc, h⟩ := h
  refine .mk j (if Constant.isSymbol c then 1 else d) sc.dropLast (h.dropLast hclosed fun hu => ?_)
  cases hs : Constant.isSymbol c with
  | true => rfl
  | false =>
    rw [hs] at hu
    exact h.pending hu

theorem twin_pressBackspace (ha : k.state.Active) (h : Twin k k') :
    Twin k.pressBackspace k'.pressBackspace := by
  refine twin_ite (by rw [h.done]) (fun _ => h) fun _ => ?_
  rw [h.buffer]
  cases hlast : k.state.buffer.getLast? with
  | none => exact twin_shortenTrail h
  | some c =>
    have hempty : (k'.state.scope.isOpen && k'.state.scope.text = []) =
        (k.state.scope.isOpen && k.state.scope.text = []) := by
      rw [h.isOpen]
      cases ho : k.state.scope.isOpen with
      | false => rfl
      | true => rw [h.text ho]
    refine twin_ite (by rw [hempty]) (fun hopen => ?_) fun hopen => ?_
    · exact twin_dropScope h (Bool.and_eq_true_iff.mp hopen).1
    have htext : k.state.scope.isOpen = true → k.state.scope.text ≠ [] := by
      intro ho ht
      exact hopen (by simp [ho, ht])
    -- an entry ends in `)` just where a scope was closed
    by_cases hc : c = ')'
    · subst hc
      exact twin_dropChar_closing h (ha.scope.isClosed_of_getLast? hlast htext)
    · refine twin_dropChar h hc ?_
      cases hclosed : k.state.scope.isClosed with
      | false => rfl
      | true =>
        obtain ⟨p, f, -, -, -, -, -, hb⟩ := ha.scope.of_isClosed hclosed
        rw [hb, List.getLast?_concat] at hlast
        exact absurd (Option.some.inj hlast).symm hc

theorem twin_pressToggleSign (h : Twin k k') : Twin k.pressToggleSign k'.pressToggleSign := by
  have hsigned : ∀ {c c' : Float}, (k.state.constantUsed = true → c' = c) →
      k.state.constantUsed = true → (if k.state.constantUsed = true then -c' else c') =
        if k.state.constantUsed = true then -c else c :=
    fun heq hu => by rw [heq hu]
  simp only [pressToggleSign]
  refine twin_ite (by rw [h.done]) (fun _ => ?_) fun _ => ?_
  · obtain ⟨j, c, sc, -⟩ := h
    exact twin_refl_of_idle rfl rfl
  refine twin_ite (by rw [h.isOpen]) (fun ho => ?_) fun ho => ?_
  · refine twin_ite (by rw [h.text ho]) (fun _ => h) fun _ => ?_
    rw [h.text ho]
    apply twin_showEntry
    obtain ⟨j, c, sc, h⟩ := h
    obtain ⟨hknown, hfunction, hfactor, -⟩ := h.shown (.inl ho)
    refine .mk j (if k.state.constantUsed = true then -c else c)
      { sc with text := toggled k.state.scope.text } ?_
    exact ⟨h.isOpen, h.isClosed, fun _ => ⟨hknown, hfunction, hfactor, rfl⟩, h.opened, h.result,
      hsigned h.pending, fun hc => absurd ((h.opened ho).1.symm.trans hc) Bool.false_ne_true⟩
  refine twin_ite (by rw [h.isClosed]) (fun hc => ?_) fun hc => ?_
  · apply twin_showEntry
    obtain ⟨j, c, sc, h⟩ := h
    obtain ⟨hknown, hfunction, hfactor, htext⟩ := h.shown (.inr hc)
    have hnegated := congrArg (fun x : Option Float => some (x.elim (-1) fun x => -x)) hfactor
    refine .mk j c
      { sc with factor := some (sc.factor.elim (-1) fun x => -x), result := -sc.result } ?_
    exact ⟨h.isOpen, h.isClosed, fun _ => ⟨hknown, hfunction, hnegated, htext⟩, h.opened,
      fun _ => congrArg (fun x => -x) (h.result hc), h.pending, h.kept⟩
  refine twin_ite (by rw [h.buffer]) (fun _ => h) fun _ => ?_
  apply twin_showEntry
  obtain ⟨j, c, sc, h⟩ := h
  refine .mk j (if k.state.constantUsed = true then -c else c) sc ?_
  exact ⟨h.isOpen, h.isClosed, h.shown, h.opened, h.result, hsigned h.pending,
    fun hc' => absurd hc' hc⟩

theorem twin_pressClearEntry (h : Twin k k') : Twin k.pressClearEntry k'.pressClearEntry := by
  refine twin_ite (by rw [h.done]) (fun _ => h) fun _ => ?_
  obtain ⟨j, c, sc, h⟩ := h
  exact twin_refl_of_idle rfl rfl

/-! ## Every key -/

theorem respected_twin (s : Settings) : Respected s Twin where
  agrees h := ⟨h.failed, h.done, h.operatorSet, h.constantUsed, h.isOpen, h.isClosed, h.buffer,
    typedText_eq h, h.result⟩
  closeScope h := twin_closeScope s h
  takeOperand h := twin_takeOperand h
  commit x h := by
    obtain ⟨j, c, sc, h⟩ := h
    refine twin_commit ?_
    exact .mk j c sc h
  awaitRight x op h := by
    obtain ⟨j, c, sc, h⟩ := h
    refine twin_awaitRight ?_ op
    exact .mk j c sc h
  continueChain op h := twin_continueChain h op
  replaceOperator op h := twin_replaceOperator h op
  finish x h := by
    obtain ⟨j, c, sc, h⟩ := h
    refine twin_finish s ?_
    exact .mk j c sc h
  startOver h := twin_startOver h
  append t h := twin_append s t h
  multiplied h := twin_multiplied h
  unused h := twin_unused h
  openWithFactor f h := twin_openWithFactor s f h
  resume {k _} f h := by
    -- behind a result a function starts from the result alone
    obtain ⟨j, c, sc, -⟩ := h
    have hidle : Twin ({ k with state := { result := k.state.result }, display := {} } : Keypad)
        { k with state := { result := k.state.result }, display := {} } :=
      twin_refl_of_idle rfl rfl
    exact twin_openScope f none hidle
  typeConstant c h ho := twin_typeConstant c h ho
  showConstant c x h := twin_showConstant c x h
  clearEntry h := twin_pressClearEntry h
  toggleSign h := twin_pressToggleSign h

theorem twin_handle (s : Settings) (key : Key) (ha : k.state.Active) (h : Twin k k') :
    Twin (k.handle s key) (k'.handle s key) :=
  (respected_twin s).handle key h (twin_pressBackspace ha h)

theorem scopeText_congr {st st' : State} (hfactor : st'.scope.factor = st.scope.factor)
    (hresult : ∀ y, resultText st' y = resultText st y) (s : Settings) (f : Trig) (x : Float) :
    scopeText s st' f x = scopeText s st f x := by
  unfold scopeText scopeValue
  rw [hfactor]
  simp only [hresult]

/-- the preview looks at nothing that twins may differ in -/
theorem previewText?_eq (h : Twin k k') (s : Settings) :
    previewText? s k'.state = previewText? s k.state := by
  obtain ⟨j, c, sc, h⟩ := h
  have hbuffer : (k.holding j c sc).state.buffer = k.state.buffer := rfl
  have hopened : ∀ sc : Scope, sc.isOpen && sc.isSet ↔ sc.isOpen = true ∧ sc.isSet = true := by simp
  have hscoped : (k.holding j c sc).state.scope.isOpen && (k.holding j c sc).state.scope.isSet ↔
      k.state.scope.isOpen && k.state.scope.isSet := by
    rw [hopened, hopened]
    show sc.isOpen = true ∧ sc.isSet = true ↔ _
    rw [h.isOpen]
    exact and_congr_right fun ho => iff_of_true (h.opened ho).2.2 (h.opened ho).2.1
  unfold previewText?
  refine ite_congr rfl (fun _ => rfl) fun _ => ?_
  rw [hbuffer]
  cases readNumber? k.state.buffer with
  | some x => rfl
  | none =>
    refine ite_congr (propext hscoped) (fun ho => ?_) fun _ => ?_
    · obtain ⟨-, hfunction, hfactor, htext⟩ := h.shown (.inl ((hopened _).mp ho).1)
      have hfunction : (k.holding j c sc).state.scope.function = k.state.scope.function := hfunction
      have htext : (k.holding j c sc).state.scope.text = k.state.scope.text := htext
      rw [htext, hfunction]
      cases readNumber? k.state.scope.text with
      | none => rfl
      | some x =>
        cases k.state.scope.function with
        | none => rfl
        | some f =>
          have hresult : ∀ y, resultText (k.holding j c sc).state y = resultText k.state y :=
            fun _ => rfl
          exact congrArg some (scopeText_congr hfactor hresult s f x)
    refine ite_congr (congrArg (· = true) h.isClosed) (fun hc => ?_) fun _ => ?_
    · exact congrArg (fun x => some (resultText k.state x)) (h.result hc)
    exact ite_congr rfl (fun hu => congrArg (fun x => some (resultText k.state x)) (h.pending hu))
      fun _ => rfl

theorem twin_refreshPreview (h : Twin k k') (s : Settings) :
    Twin (k.refreshPreview s) (k'.refreshPreview s) := by
  rw [refreshPreview_eq, refreshPreview_eq, previewText?_eq h]
  cases previewText? s k.state with
  | none => exact h
  | some t =>
    obtain ⟨j, c, sc, h⟩ := h
    exact .mk j c sc h

theorem twin_press (s : Settings) (key : Key) (hs : k.state.Sound) (h : Twin k k') :
    Twin (k.press s key) (k'.press s key) := by
  unfold press acknowledge
  refine twin_ite (by rw [h.failed]) (fun hf => ?_) fun hf => ?_
  · exact twin_ite (by rw [h.failed]) (fun _ => twin_startOver h) fun hnot => absurd hf hnot
  · exact twin_refreshPreview (twin_handle s key (hs.active (by simpa using hf)) h) s

/-! ## Events -/

/-- twins refuse the same events, for the same fault, and a key that is pressed leaves twins -/
theorem twin_applyNamed (s : Settings) (kind : String) (value : Option Argument)
    (hs : k.state.Sound) (h : Twin k k') :
    (∃ f, k.applyNamed s kind value = .error f ∧ k'.applyNamed s kind value = .error f) ∨
      ∃ k₁ k₁', k.applyNamed s kind value = .ok k₁ ∧ k'.applyNamed s kind value = .ok k₁' ∧
        Twin k₁ k₁' := by
  unfold applyNamed
  cases EventKind.ofWord? kind with
  | none => exact .inl ⟨_, rfl, rfl⟩
  | some kind =>
    simp only [apply]
    rw [h.failed]
    split
    · rename_i hf
      refine .inr ⟨_, _, rfl, rfl, ?_⟩
      rw [acknowledge, acknowledge, if_pos hf, if_pos (h.failed.trans hf)]
      exact twin_startOver h
    · cases Event.key ⟨kind, value⟩ with
      | error f => exact .inl ⟨f, rfl, rfl⟩
      | ok key => exact .inr ⟨_, _, rfl, rfl, twin_press s key hs h⟩

namespace Program

/-- the fault that an event is refused with, if it is refused -/
def refusal (s : Settings) (k : Keypad) (e : Signal) : Option Fault :=
  match (receive s e.kind e.value).run k with
  | .ok _ _ => none
  | .error f _ => some f

/-- what a front end finds behind an event -/
structure Observation where
  refusal : Option Fault
  display : Display
  history : History
  errors : ErrorLog

/-- all that a run of events shows, event by event -/
def transcript (s : Settings) : Keypad → List Signal → List Observation
  | _, [] => []
  | k, e :: es =>
    let k' := after s k e
    ⟨refusal s k e, k'.display, k'.history, k'.errors⟩ :: transcript s k' es

/-- keypads that are related have the same transcripts, if every event is refused by both or by
neither and leaves them related, and what is related shows the same -/
theorem related_transcript {r : Keypad → Keypad → Prop}
    (hdisplay : ∀ {k k' : Keypad}, r k k' → k'.display = k.display)
    (hhistory : ∀ {k k' : Keypad}, r k k' → k'.history = k.history)
    (herrors : ∀ {k k' : Keypad}, r k k' → k'.errors = k.errors)
    (hafter : ∀ {k k' : Keypad} (e : Signal), r k k' →
      refusal s k' e = refusal s k e ∧ r (after s k e) (after s k' e))
    (es : List Signal) : ∀ {k k' : Keypad}, r k k' →
      transcript s k' es = transcript s k es ∧
        r (es.foldl (after s) k) (es.foldl (after s) k') := by
  induction es with
  | nil => exact fun h => ⟨rfl, h⟩
  | cons e es ih =>
    intro k k' h
    obtain ⟨hrefusal, h₁⟩ := hafter e h
    obtain ⟨hrest, h₂⟩ := ih h₁
    refine ⟨?_, h₂⟩
    simp only [transcript]
    rw [hrefusal, hdisplay h₁, hhistory h₁, herrors h₁, hrest]

theorem refusal_eq (h : k.state.Sound) (e : Signal) :
    refusal s k e = match k.applyNamed s e.kind e.value with
      | .ok _ => none
      | .error f => some f := by
  rw [refusal, run_receive s h]
  cases k.applyNamed s e.kind e.value <;> rfl

end Program

theorem twin_after (s : Settings) (e : Signal) (hs : k.state.Sound) (hs' : k'.state.Sound)
    (h : Twin k k') :
    Program.refusal s k' e = Program.refusal s k e ∧
      Twin (Program.after s k e) (Program.after s k' e) := by
  rw [Program.refusal_eq hs, Program.refusal_eq hs', Program.after_eq hs, Program.after_eq hs',
    receive, receive]
  rcases twin_applyNamed s e.kind e.value hs h with ⟨f, hk, hk'⟩ | ⟨k₁, k₁', hk, hk', h₁⟩
  · rw [hk, hk']
    exact ⟨rfl, h⟩
  · rw [hk, hk']
    exact ⟨rfl, h₁⟩

/-- **Twins are told apart by no run**: whatever comes next, they refuse the same events for the
same faults, and display and logs are the same behind each of them. -/
theorem Twin.transcript_eq (s : Settings) (es : List Signal) {k k' : Keypad} (hk : Reached s k)
    (hk' : Reached s k') (h : Twin k k') :
    Program.transcript s k' es = Program.transcript s k es := by
  refine (Program.related_transcript (s := s)
    (r := fun k k' => Reached s k ∧ Reached s k' ∧ Twin k k')
    (fun h => h.2.2.display) (fun h => h.2.2.history) (fun h => h.2.2.errors) ?_ es
    ⟨hk, hk', h⟩).1
  rintro k k' e ⟨hk, hk', h⟩
  obtain ⟨hrefusal, h₁⟩ := twin_after s e hk.sound hk'.sound h
  exact ⟨hrefusal, Program.reached_foldl_after [e] hk, Program.reached_foldl_after [e] hk', h₁⟩

end PocketCalc.Keypad
