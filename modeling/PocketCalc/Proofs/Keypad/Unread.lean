import PocketCalc.Proofs.Keypad.Respect

/-!
# The logs are not read

No key looks at the history or at the errors: whatever they hold, keys do the same to the state and
to the display, and they record the same calculations.

* `Relogged p k k'`            `k'` is `k` but for its logs;
* `relogged_closeScope`, ...   every step keeps it so, one lemma a step;
* `respected_relogged`         so every key does;
* `relogged_keys`              and so do keys, one after the other.
-/

namespace PocketCalc.Keypad
open Text

/-- the same keypad with other logs; on a condition its history is the same too -/
inductive Relogged (p : Prop) (k : Keypad) : Keypad → Prop
  | mk (h : History) (e : ErrorLog) (same : p → h = k.history) :
      Relogged p k { k with history := h, errors := e }

variable {s : Settings} {p : Prop} {k k' : Keypad}

namespace Relogged

theorem state (h : Relogged p k k') : k'.state = k.state := by
  cases h
  rfl

theorem display (h : Relogged p k k') : k'.display = k.display := by
  cases h
  rfl

theorem history (h : Relogged p k k') (hp : p) : k'.history = k.history := by
  cases h with
  | mk _ _ same => exact same hp

end Relogged

/-- what is done to the state alone -/
theorem relogged_state (f : State → State) (h : Relogged p k k') :
    Relogged p { k with state := f k.state } { k' with state := f k'.state } := by
  obtain ⟨h, e, same⟩ := h
  exact .mk h e same

/-- a condition on what is no log holds of both or of neither -/
theorem relogged_ite {b b' : Prop} [Decidable b] [Decidable b'] {k₁ k₂ k₁' k₂' : Keypad}
    (hb : b' = b) (ht : Relogged p k₁ k₁') (hf : Relogged p k₂ k₂') :
    Relogged p (if b then k₁ else k₂) (if b' then k₁' else k₂') :=
  related_ite (by rw [hb]) (fun _ => ht) fun _ => hf

/-! ## The scope -/

theorem relogged_closeScope (s : Settings) (h : Relogged p k k') :
    Relogged p (k.closeScope s) (k'.closeScope s) := by
  obtain ⟨h, e, same⟩ := h
  simp only [closeScope]
  split
  · exact .mk h e same
  split
  · split
    · exact .mk h (e.report _ _ _) same
    split
    · exact .mk h (e.report _ _ _) same
    · exact .mk h e same
  · exact .mk h e same

/-! ## Operands and operations -/

theorem relogged_takeOperand (h : Relogged p k k') :
    k'.takeOperand.2 = k.takeOperand.2 ∧ Relogged p k.takeOperand.1 k'.takeOperand.1 := by
  obtain ⟨h, e, same⟩ := h
  simp only [takeOperand]
  split
  · exact ⟨rfl, .mk h e same⟩
  split
  · exact ⟨rfl, .mk h e same⟩
  split
  · exact ⟨rfl, .mk h e same⟩
  · exact ⟨rfl, .mk h (e.report _ _ _) same⟩

theorem relogged_commit (h : Relogged p k k') : Relogged p k.commit k'.commit := by
  obtain ⟨h, e, same⟩ := h
  simp only [commit]
  split
  · exact .mk h e same
  split
  · exact .mk h (e.report _ _ _) same
  · exact .mk h e same

theorem relogged_awaitRight (h : Relogged p k k') (op : Operator) :
    Relogged p (k.awaitRight op) (k'.awaitRight op) := by
  obtain ⟨h, e, same⟩ := h
  simp only [awaitRight]
  split
  · exact .mk h e same
  · exact .mk h e same

theorem relogged_continueChain (h : Relogged p k k') (op : Operator) :
    Relogged p (k.continueChain op) (k'.continueChain op) := by
  obtain ⟨h, e, same⟩ := h
  exact .mk h e same

theorem relogged_replaceOperator (h : Relogged p k k') (op : Operator) :
    Relogged p (k.replaceOperator op) (k'.replaceOperator op) := by
  obtain ⟨h, e, same⟩ := h
  exact .mk h e same

/-- the result is recorded in both histories -/
theorem relogged_finish (s : Settings) (h : Relogged p k k') :
    Relogged p (k.finish s) (k'.finish s) := by
  obtain ⟨h, e, same⟩ := h
  simp only [finish]
  split
  · refine .mk (h.push _) e ?_
    intro hp
    rw [same hp]
    rfl
  · exact .mk h e same

/-! ## Typing -/

theorem relogged_startOver (h : Relogged p k k') : Relogged p k.startOver k'.startOver := by
  obtain ⟨h, e, same⟩ := h
  exact .mk h e same

theorem relogged_append (s : Settings) (t : Text) (h : Relogged p k k') :
    Relogged p (k.append s t) (k'.append s t) := by
  have h := relogged_ite (congrArg (·.done = true) h.state) (relogged_startOver h) h
  simp only [append]
  generalize (if k.state.done = true then k.startOver else k) = k at h ⊢
  generalize (if k'.state.done = true then k'.startOver else k') = k' at h ⊢
  refine relogged_ite (by rw [h.state]) h ?_
  obtain ⟨h, e, same⟩ := h
  exact .mk h e same

/-! ## Functions and constants -/

theorem relogged_openWithFactor (s : Settings) (f : Trig) (h : Relogged p k k') :
    Relogged p (k.openWithFactor s f) (k'.openWithFactor s f) := by
  refine relogged_ite (by rw [h.state]) h ?_
  obtain ⟨h, e, same⟩ := h
  exact .mk h e same

/-! ## Editing -/

theorem relogged_pressBackspace (h : Relogged p k k') :
    Relogged p k.pressBackspace k'.pressBackspace := by
  obtain ⟨h, e, same⟩ := h
  simp only [pressBackspace, shortenTrail, dropScope, dropChar]
  repeat' split
  all_goals exact .mk h e same

theorem relogged_pressClearEntry (h : Relogged p k k') :
    Relogged p k.pressClearEntry k'.pressClearEntry := by
  obtain ⟨h, e, same⟩ := h
  exact relogged_ite rfl (.mk h e same) (.mk h e same)

theorem relogged_pressToggleSign (h : Relogged p k k') :
    Relogged p k.pressToggleSign k'.pressToggleSign := by
  obtain ⟨h, e, same⟩ := h
  simp only [pressToggleSign]
  repeat' split
  all_goals exact .mk h e same

/-! ## Every key -/

theorem respected_relogged (s : Settings) (p : Prop) : Respected s (Relogged p) where
  agrees h := by
    obtain ⟨h, e, same⟩ := h
    exact ⟨rfl, rfl, rfl, rfl, rfl, rfl, rfl, rfl, rfl⟩
  closeScope h := relogged_closeScope s h
  takeOperand h := relogged_takeOperand h
  commit x h := relogged_commit (relogged_state (fun st => { st with second := x }) h)
  awaitRight x op h := relogged_awaitRight (relogged_state (fun st => { st with first := x }) h) op
  continueChain op h := relogged_continueChain h op
  replaceOperator op h := relogged_replaceOperator h op
  finish x h := relogged_finish s (relogged_state (fun st => { st with result := x }) h)
  startOver h := relogged_startOver h
  append t h := relogged_append s t h
  multiplied h := relogged_state
    (fun st => { st with scope := { st.scope with isClosed := false }, constantUsed := false }) h
  unused h := relogged_state (fun st => { st with constantUsed := false }) h
  openWithFactor f h := relogged_openWithFactor s f h
  resume f h := by
    obtain ⟨h, e, same⟩ := h
    exact .mk h e same
  typeConstant c h _ := relogged_state (fun st => st.constantInScope c) h
  showConstant c x h := by
    obtain ⟨h, e, same⟩ := h
    exact .mk h e same
  clearEntry h := relogged_pressClearEntry h
  toggleSign h := relogged_pressToggleSign h

theorem relogged_refreshPreview (s : Settings) (h : Relogged p k k') :
    Relogged p (k.refreshPreview s) (k'.refreshPreview s) := by
  obtain ⟨h, e, same⟩ := h
  simp only [refreshPreview]
  repeat' split
  all_goals exact .mk h e same

theorem relogged_acknowledge (h : Relogged p k k') : Relogged p k.acknowledge k'.acknowledge :=
  relogged_ite (by rw [h.state]) (relogged_startOver h) h

theorem relogged_press (s : Settings) (key : Key) (h : Relogged p k k') :
    Relogged p (k.press s key) (k'.press s key) :=
  relogged_ite (by rw [h.state]) (relogged_acknowledge h)
    (relogged_refreshPreview s ((respected_relogged s p).handle key h (relogged_pressBackspace h)))

/-- **The logs are not read**: keypads that differ in their logs alone differ in their logs alone
behind any keys, and their histories are the same if they were the same before. -/
theorem relogged_keys (s : Settings) (keys : List Key) : ∀ {k k' : Keypad}, Relogged p k k' →
    Relogged p (keys.foldl (press s) k) (keys.foldl (press s) k') := by
  induction keys with
  | nil => exact fun h => h
  | cons key keys ih => exact fun h => ih (relogged_press s key h)

end PocketCalc.Keypad
