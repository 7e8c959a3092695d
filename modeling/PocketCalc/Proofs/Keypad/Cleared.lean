import PocketCalc.Proofs.Keypad.Coherence
import PocketCalc.Proofs.Keypad.Twin

/-!
# Clearing the entry

What is being typed is apart from the operation that waits for it: no key that types or edits
touches the operation, unless it carries one out, and then the trail gets longer.  So the key that
clears the entry takes back all that was typed since the last operation.

* `blanked`                 the keypad without what is being typed;
* `Key.multiplies`          a key that carries out a multiplication before it types;
* `trail_lt_handle`         such a key lengthens the trail;
* `blanked_handle`          any other key that types or edits leaves all but the entry;
* `Drafted k k'`            `k'` is `k` with something else typed;
* `Drafted.foldl_after`     the run lemma: `Drafted` as long as the trail stays;
* `clear_entry_leaves_no_trace`   clearing the entry leads back, whatever comes next.
-/

namespace PocketCalc.Keypad
open Text

variable {s : Settings} {k k' : Keypad}

/-! ## Without the entry -/

/-- the keypad without what is being typed, and without its preview -/
def blanked (k : Keypad) : Keypad :=
  { k with
    state :=
      { k.state with
        buffer := [], justCommitted := false, constantUsed := false, constant := 1, scope := {} }
    display := { k.display with entry := blankLine, preview := blankLine } }

theorem trail_eq_of_blanked (h : k'.blanked = k.blanked) : k'.display.trail = k.display.trail :=
  congrArg (fun k => k.display.trail) h

theorem done_eq_of_blanked (h : k'.blanked = k.blanked) : k'.state.done = k.state.done :=
  congrArg (fun k => k.state.done) h

theorem blanked_closeScope (s : Settings) (hf : (k.closeScope s).state.failed = false) :
    (k.closeScope s).blanked = k.blanked := by
  revert hf
  simp only [closeScope]
  split
  · exact fun _ => rfl
  split
  · split
    · exact fun hf => absurd hf.symm Bool.false_ne_true
    split
    · exact fun hf => absurd hf.symm Bool.false_ne_true
    · exact fun _ => rfl
  · exact fun _ => rfl

theorem blanked_append (s : Settings) (hd : k.state.done = false) (t : Text) :
    (k.append s t).blanked = k.blanked := by
  have hsame : (if k.state.done then k.startOver else k) = k := if_neg (by simp [hd])
  simp only [append]
  rw [hsame]
  split
  · rfl
  · rfl

theorem blanked_openWithFactor (s : Settings) (f : Trig) (k : Keypad) :
    (k.openWithFactor s f).blanked = k.blanked := by
  rcases openWithFactor_cases s f k with he | he
  · rw [he]
  · rw [he]
    rfl

theorem blanked_refreshPreview (s : Settings) (k : Keypad) :
    (k.refreshPreview s).blanked = k.blanked := by
  obtain ⟨t, ht⟩ := refreshPreview_eq_showPreview s k
  rw [ht]
  rfl

/-! ## The trail gets longer -/

theorem trail_takeOperand {x : Float} (hx : k.takeOperand = (k', some x)) :
    k'.display.trail = k.display.trail := by
  rcases takeOperand_cases k with ⟨y, -, he⟩ | ⟨-, -, he⟩ | ⟨-, -, -, he⟩ | ⟨-, -, -, he⟩
  all_goals
    rw [he] at hx
    cases hx
  all_goals rfl

theorem trail_commit (k : Keypad) : k.commit.display.trail = k.display.trail := by
  unfold commit
  simp only
  repeat' split
  all_goals rfl

theorem trail_lt_awaitRight (op : Operator) (hb : k.state.buffer ≠ []) :
    k.display.trail.length < (k.awaitRight op).display.trail.length := by
  have hadded : trailText (grouped k.state.buffer ++ [op.symbol]) ≠ [] := by
    intro hnil
    have hlast := getLast?_trailText (grouped k.state.buffer) op
    rw [hnil] at hlast
    cases hlast
  unfold awaitRight
  simp only
  rw [if_neg hb]
  show _ < (k.display.trail ++ trailText (grouped k.state.buffer ++ [op.symbol])).length
  rw [List.length_append]
  have := List.length_pos_of_ne_nil hadded
  omega

/-- an operator behind an entry that is not empty goes into the trail with it -/
theorem trail_lt_pressOperator (s : Settings) (op : Operator) (ha : k.state.Active)
    (hd : k.state.done = false) (hb : k.state.buffer ≠ [])
    (hf : (k.pressOperator s op).state.failed = false) :
    k.display.trail.length < (k.pressOperator s op).display.trail.length := by
  revert hf
  simp only [pressOperator]
  rcases sound_closeScope s ha with hstop | ⟨ha₁, ho₁⟩
  · rw [if_pos hstop.failed]
    exact fun hf => absurd hstop (State.not_stopped hf)
  have hclosed := blanked_closeScope s ha₁.failed
  have hb₁ : (k.closeScope s).state.buffer ≠ [] := by
    cases ho : k.state.scope.isOpen with
    | false =>
      rw [closeScope_of_isOpen_eq_false ho]
      exact hb
    | true =>
      obtain ⟨b, sc, hne, he⟩ := exists_showEntry_closeScope s ha ho ha₁.failed
      rw [he]
      exact hne
  rw [← trail_eq_of_blanked hclosed]
  have hd₁ := (done_eq_of_blanked hclosed).trans hd
  generalize k.closeScope s = k₁ at *
  rw [if_neg ha₁.not_failed, if_neg (by simp [hd₁]), if_neg (by simp [hb₁])]
  rcases sound_takeOperand ha₁ ho₁ with ⟨k', he, hstop⟩ | ⟨k', x, he, -⟩
  · rw [he]
    exact fun hf => absurd hstop (State.not_stopped hf)
  rw [← trail_takeOperand he]
  rw [← buffer_takeOperand he] at hb₁
  rw [he]
  simp only
  split
  · intro _
    exact trail_lt_awaitRight (k := { k' with state.first := x }) op hb₁
  split
  · rename_i hfailed
    exact fun hf => absurd (hf.symm.trans hfailed) Bool.false_ne_true
  · intro _
    have htrail := trail_commit { k' with state.second := x }
    have hbuffer := buffer_commit { k' with state.second := x }
    generalize commit { k' with state.second := x } = k₂ at *
    rw [← show k₂.display.trail = k'.display.trail from htrail]
    exact trail_lt_awaitRight (k := { k₂ with state.first := k₂.state.result }) op
      (by rw [show k₂.state.buffer = k'.state.buffer from hbuffer]; exact hb₁)

/-! ## Keys that type and edit -/

/-- the keys that type or edit an entry -/
def EventKind.edits : EventKind → Bool
  | .digit | .decimalPoint | .function | .constant | .backspace | .signToggle => true
  | .operator | .equals | .clearEntry | .clearAll => false

/-- a key that carries out a multiplication before it types: the entry ends in something that what
is typed cannot be joined to -/
def State.multiplies (st : State) : Key → Bool
  | .digit _ | .point | .constant _ => st.scope.isClosed || st.constantUsed
  | .function _ => st.scope.isClosed || st.constantUsed || st.scope.isOpen
  | .operator _ | .equals | .backspace | .clearEntry | .clearAll | .toggleSign => false

/-- an entry that cannot be joined to is not empty -/
theorem buffer_ne_nil_of_multiplies {st : State} {key : Key} (ha : st.Active)
    (h : st.ShowsConstant) (hm : st.multiplies key = true) : st.buffer ≠ [] := by
  intro hnil
  have hsc := ha.scope
  rw [hnil] at hsc
  obtain ⟨ho, hc⟩ := hsc.of_nil
  have hu : st.constantUsed = false := h.unused (by rw [hnil]; rfl)
  cases key <;> simp [State.multiplies, ho, hc, hu] at hm

theorem readyForNumber_eq_self (hm : (k.state.scope.isClosed || k.state.constantUsed) = false) :
    k.readyForNumber s = k := by
  unfold readyForNumber
  rw [if_neg (by simp [hm])]

theorem trail_lt_readyForNumber (s : Settings) (ha : k.state.Active) (hd : k.state.done = false)
    (hb : k.state.buffer ≠ []) (hm : (k.state.scope.isClosed || k.state.constantUsed) = true)
    (hf : (k.readyForNumber s).state.failed = false) :
    (k.readyForNumber s).state.done = false ∧
      k.display.trail.length < (k.readyForNumber s).display.trail.length := by
  revert hf
  unfold readyForNumber
  rw [if_pos hm]
  intro hf
  refine ⟨?_, trail_lt_pressOperator s .multiply ha hd hb hf⟩
  exact ((sound_pressOperator s .multiply ha).resolve_left (State.not_stopped hf)).idle.1

theorem blanked_pressDigit (s : Settings) (d : Fin 10)
    (hd : (k.readyForNumber s).state.done = false) :
    (k.pressDigit s d).blanked = (k.readyForNumber s).blanked := by
  simp only [pressDigit]
  split
  · rfl
  · exact blanked_append s hd _

theorem blanked_pressPoint (s : Settings) (hd : (k.readyForNumber s).state.done = false) :
    (k.pressPoint s).blanked = (k.readyForNumber s).blanked := by
  simp only [pressPoint]
  generalize k.readyForNumber s = k at hd ⊢
  have hsame : (if k.state.done then k.startOver else k) = k := if_neg (by simp [hd])
  split
  · rfl
  rw [hsame]
  split
  · rfl
  · exact blanked_append s hd _

/-- behind what is multiplied in front of it, a constant is typed like anything else -/
theorem blanked_pressConstant (s : Settings) (c : Constant) {k₁ : Keypad}
    (hk₁ : (if k.state.constantUsed || k.state.scope.isClosed || k.state.done then
      k.pressOperator s .multiply else k) = k₁)
    (hf : (k.pressConstant s c).state.failed = false) :
    k₁.state.failed = false ∧ (k.pressConstant s c).blanked = k₁.blanked := by
  revert hf
  simp only [pressConstant]
  rw [hk₁]
  split
  · rename_i hfailed
    exact fun hf => absurd (hf.symm.trans hfailed) Bool.false_ne_true
  rename_i hf
  rw [Bool.not_eq_true] at hf
  split
  · exact fun _ => ⟨hf, rfl⟩
  split
  · intro hclosed
    exact ⟨hf, blanked_closeScope s hclosed⟩
  · exact fun _ => ⟨hf, rfl⟩

theorem trail_lt_pressFunction (s : Settings) (f : Trig) (ha : k.state.Active)
    (hd : k.state.done = false) (hb : k.state.buffer ≠ [])
    (hm : (k.state.scope.isClosed || k.state.constantUsed || k.state.scope.isOpen) = true)
    (hf : (k.pressFunction s f).state.failed = false) :
    k.display.trail.length < (k.pressFunction s f).display.trail.length := by
  revert hf
  simp only [pressFunction]
  generalize hk₁ : (if (k.state.constantUsed || k.state.scope.isClosed) = true then
    k.pressOperator s .multiply else k) = k₁
  rcases multiplied_cases hk₁ ha with hstop | ⟨-, he, hw⟩ | ⟨hnot, he⟩
  · rw [if_pos hstop.failed]
    exact fun hf => absurd hstop (State.not_stopped hf)
  · rw [if_neg hw.active.not_failed, if_neg (by simp [hw.idle.1]), if_neg (by simp [hw.idle.2.1]),
      trail_eq_of_blanked (blanked_openWithFactor s f k₁), he]
    exact fun _ => trail_lt_pressOperator s .multiply ha hd hb (he ▸ hw.active.failed)
  · have ho : k.state.scope.isOpen = true := by
      rw [Bool.or_comm k.state.scope.isClosed, hnot, Bool.false_or] at hm
      exact hm
    rw [he, if_neg ha.not_failed, if_neg (by simp [hd]), if_pos ho]
    rcases sound_closeScope s ha with hstop | ⟨ha₁, ho₁⟩
    · rw [if_pos hstop.failed]
      exact fun hf => absurd hstop (State.not_stopped hf)
    obtain ⟨b, sc, hne, he⟩ := exists_showEntry_closeScope s ha ho ha₁.failed
    have hb₁ : (k.closeScope s).state.buffer ≠ [] := by
      rw [he]
      exact hne
    have hclosed := blanked_closeScope s ha₁.failed
    have hd₁ := (done_eq_of_blanked hclosed).trans hd
    rw [if_neg ha₁.not_failed, ← trail_eq_of_blanked hclosed]
    generalize k.closeScope s = k₁ at *
    split
    · exact fun hf => trail_lt_pressOperator s .multiply ha₁ hd₁ hb₁ hf
    · rename_i hf
      rw [Bool.not_eq_true] at hf
      rw [trail_eq_of_blanked (blanked_openWithFactor s f _)]
      exact fun _ => trail_lt_pressOperator s .multiply ha₁ hd₁ hb₁ hf

/-- **A key that multiplies lengthens the trail.** -/
theorem trail_lt_handle (s : Settings) {key : Key} (ha : k.state.Active)
    (hd : k.state.done = false) (h : k.state.ShowsConstant) (hm : k.state.multiplies key = true)
    (hf : (k.handle s key).state.failed = false) :
    k.display.trail.length < (k.handle s key).display.trail.length := by
  have hb := buffer_ne_nil_of_multiplies ha h hm
  cases key with
  | digit d =>
    obtain ⟨hd₁, hlt⟩ :=
      trail_lt_readyForNumber s ha hd hb hm (failed_readyForNumber_of_pressDigit hf)
    exact hlt.trans_eq (congrArg _ (trail_eq_of_blanked (blanked_pressDigit s d hd₁)).symm)
  | point =>
    obtain ⟨hd₁, hlt⟩ :=
      trail_lt_readyForNumber s ha hd hb hm (failed_readyForNumber_of_pressPoint hf)
    exact hlt.trans_eq (congrArg _ (trail_eq_of_blanked (blanked_pressPoint s hd₁)).symm)
  | function f => exact trail_lt_pressFunction s f ha hd hb hm hf
  | constant c =>
    have hpos : (k.state.constantUsed || k.state.scope.isClosed || k.state.done) = true := by
      have hm' : (k.state.scope.isClosed || k.state.constantUsed) = true := hm
      rw [Bool.or_comm k.state.constantUsed, hm', Bool.true_or]
    obtain ⟨hf₁, hblanked⟩ := blanked_pressConstant s c (if_pos hpos) hf
    exact (trail_lt_pressOperator s .multiply ha hd hb hf₁).trans_eq
      (congrArg _ (trail_eq_of_blanked hblanked).symm)
  | operator | equals | backspace | clearEntry | clearAll | toggleSign => cases hm

theorem blanked_pressFunction (s : Settings) (f : Trig) (ha : k.state.Active)
    (hd : k.state.done = false)
    (hm : (k.state.scope.isClosed || k.state.constantUsed || k.state.scope.isOpen) = false) :
    (k.pressFunction s f).blanked = k.blanked := by
  simp only [Bool.or_eq_false_iff] at hm
  obtain ⟨⟨hc, hu⟩, ho⟩ := hm
  have hsame : (if k.state.constantUsed || k.state.scope.isClosed then k.pressOperator s .multiply
      else k) = k := if_neg (by simp [hc, hu])
  simp only [pressFunction]
  rw [hsame, if_neg ha.not_failed, if_neg (by simp [hd]), if_neg (by simp [ho])]
  exact blanked_openWithFactor s f k

theorem blanked_pressBackspace (hd : k.state.done = false) (h : k.Shown) :
    k.pressBackspace.blanked = k.blanked := by
  unfold pressBackspace
  rw [if_neg (by simp [hd])]
  split
  · rw [h.shortenTrail hd]
  split
  · rfl
  · rename_i c _ _
    by_cases hc : c = ')'
    · subst hc
      rfl
    · rw [(dropChar_eq_showEntry k c).1, state_dropChar hc]
      rfl

theorem blanked_pressToggleSign (hd : k.state.done = false) :
    k.pressToggleSign.blanked = k.blanked := by
  simp only [pressToggleSign]
  rw [if_neg (by simp [hd])]
  repeat' split
  all_goals rfl

/-- **Any other key that types or edits leaves all but the entry.** -/
theorem blanked_handle (s : Settings) {key : Key} (hkey : key.kind.edits = true)
    (ha : k.state.Active) (hd : k.state.done = false) (h : k.Shown)
    (hm : k.state.multiplies key = false) (hf : (k.handle s key).state.failed = false) :
    (k.handle s key).blanked = k.blanked := by
  cases key with
  | digit d =>
    have hready := readyForNumber_eq_self (s := s) hm
    refine (blanked_pressDigit s d ?_).trans (congrArg blanked hready)
    rw [hready]
    exact hd
  | point =>
    have hready := readyForNumber_eq_self (s := s) hm
    refine (blanked_pressPoint s ?_).trans (congrArg blanked hready)
    rw [hready]
    exact hd
  | function f => exact blanked_pressFunction s f ha hd hm
  | constant c =>
    have hm' : (k.state.scope.isClosed || k.state.constantUsed) = false := hm
    refine (blanked_pressConstant s c (if_neg ?_) hf).2
    rw [Bool.or_comm k.state.constantUsed, hm', hd]
    exact Bool.false_ne_true
  | backspace => exact blanked_pressBackspace hd h
  | toggleSign => exact blanked_pressToggleSign hd
  | operator | equals | clearEntry | clearAll => cases hkey

/-! ## Drafts -/

/-- the same keypad with something else typed, its constant shown if one is pending -/
structure Drafted (k k' : Keypad) : Prop where
  rest : k'.blanked = k.blanked
  constant : k'.state.ShowsConstant

/-- a key that does not multiply leaves no constant behind -/
theorem leavesConstant_eq_false {key : Key} (hkey : key.kind.edits = true)
    (hm : k.state.multiplies key = false) : k.leavesConstant s key = false := by
  have hunused : k.state.constantUsed = false → k.leavesConstant s key = false := by
    intro hu
    simp only [leavesConstant, State.awaitsConstant, hu, Bool.and_false, Bool.false_and]
  cases key with
  | function f =>
    simp only [State.multiplies, Bool.or_eq_false_iff] at hm
    exact hunused hm.1.2
  | constant c => exact hunused (Bool.or_eq_false_iff.mp hm).2
  | digit | point | backspace | toggleSign => exact Bool.and_false _
  | operator | equals | clearEntry | clearAll => cases hkey

/-- as long as the trail stays, a key that types or edits leaves a draft of the same keypad -/
theorem Drafted.press (h : Drafted k k') (hd : k.state.done = false) (hreached : Reached s k')
    (hf : k'.state.failed = false) {key : Key} (hkey : key.kind.edits = true)
    (hf' : (k'.press s key).state.failed = false)
    (htrail : (k'.press s key).display.trail = k.display.trail) :
    Drafted k (k'.press s key) := by
  have ha := hreached.sound.active hf
  have hd' := (done_eq_of_blanked h.rest).trans hd
  unfold Keypad.press at hf' htrail ⊢
  rw [if_neg (by simp [hf])] at hf' htrail ⊢
  rw [state_refreshPreview] at hf'
  rw [trail_refreshPreview] at htrail
  cases hm : k'.state.multiplies key with
  | true =>
    have hlt := trail_lt_handle s ha hd' h.constant hm hf'
    rw [htrail, trail_eq_of_blanked h.rest] at hlt
    exact absurd hlt (Nat.lt_irrefl _)
  | false =>
    refine ⟨?_, ?_⟩
    · rw [blanked_refreshPreview,
        blanked_handle s hkey ha hd' (hreached.coherent hf).toShown hm hf']
      exact h.rest
    · rw [state_refreshPreview]
      exact showsConstant_handle s key ha h.constant (leavesConstant_eq_false hkey hm) hf'

theorem EventKind.word_injective {a b : EventKind} (h : a.word = b.word) : a = b := by
  have hfound := congrArg EventKind.ofWord? h
  rw [Program.ofWord?_word, Program.ofWord?_word] at hfound
  exact Option.some.inj hfound

/-- an event of a key that types or edits, with any value -/
def Signal.Edits (e : Signal) : Prop := ∃ kind : EventKind, kind.edits = true ∧ e.kind = kind.word

theorem Drafted.after (h : Drafted k k') (hd : k.state.done = false) (hreached : Reached s k')
    (hf : k'.state.failed = false) {e : Signal} (he : e.Edits)
    (hf' : (Program.after s k' e).state.failed = false)
    (htrail : (Program.after s k' e).display.trail = k.display.trail) :
    Drafted k (Program.after s k' e) := by
  rw [Program.after_eq hreached.sound] at hf' htrail ⊢
  unfold receive at hf' htrail ⊢
  cases happly : k'.applyNamed s e.kind e.value with
  | error f => exact h
  | ok k'' =>
    rw [happly] at hf' htrail
    obtain ⟨key, hword, rfl⟩ := exists_press_of_applyNamed happly
    obtain ⟨kind, hedits, hkind⟩ := he
    have hkey : key.kind = kind := EventKind.word_injective (hword.trans hkind)
    exact h.press hd hreached hf (by rw [hkey]; exact hedits) hf' htrail

/-- the run lemma: as long as the trail stays and there is no error, what is typed is a draft -/
theorem Drafted.foldl_after (hd : k.state.done = false) (w : List Signal) :
    ∀ {k' : Keypad}, Drafted k k' → Reached s k' → k'.state.failed = false →
      (∀ e ∈ w, e.Edits) →
      (∀ v, v <+: w → (v.foldl (Program.after s) k').state.failed = false ∧
        (v.foldl (Program.after s) k').display.trail = k.display.trail) →
      Drafted k (w.foldl (Program.after s) k') := by
  induction w with
  | nil => exact fun h _ _ _ _ => h
  | cons e w ih =>
    intro k' h hreached hf hw hstays
    obtain ⟨hf₁, htrail₁⟩ := hstays [e] ⟨w, rfl⟩
    rw [List.foldl_cons]
    refine ih (h.after hd hreached hf (hw e List.mem_cons_self) hf₁ htrail₁)
      (Program.reached_foldl_after [e] hreached) hf₁
      (fun e he => hw e (List.mem_cons_of_mem _ he)) fun v hv => ?_
    exact hstays (e :: v) (List.cons_prefix_cons.mpr ⟨rfl, hv⟩)

/-! ## Clearing -/

/-- the preview with nothing typed -/
def restText (st : State) : Text := Format.result (if st.operatorSet then st.first else st.result)

theorem previewText?_of_empty {st : State} (hf : st.failed = false) (hd : st.done = false)
    (hb : st.buffer = []) (ho : st.scope.isOpen = false) (hc : st.scope.isClosed = false)
    (hu : st.constantUsed = false) : previewText? s st = some (restText st) := by
  have hnone : readNumber? [] = none := rfl
  simp [previewText?, restText, hf, hd, hb, ho, hc, hu, hnone]

theorem press_clearEntry (s : Settings) (hf : k.state.failed = false) (hd : k.state.done = false) :
    k.press s .clearEntry = k.blanked.showPreview (restText k.blanked.state) := by
  have hcleared : k.pressClearEntry = k.blanked.showPreview k.display.preview := by
    rw [pressClearEntry, if_neg (by simp [hd])]
    rfl
  have hpreview : previewText? s (k.blanked.showPreview k.display.preview).state =
      some (restText k.blanked.state) := previewText?_of_empty hf hd rfl rfl rfl rfl
  rw [press, if_neg (by simp [hf])]
  show k.pressClearEntry.refreshPreview s = _
  rw [hcleared, refreshPreview_eq, hpreview]
  rfl

/-- clearing an empty entry changes leftovers alone -/
theorem press_clearEntry_of_empty (hreached : Reached s k) (hf : k.state.failed = false)
    (hd : k.state.done = false) (hb : k.state.buffer = []) (ho : k.state.scope.isOpen = false)
    (hc : k.state.scope.isClosed = false) (hu : k.state.constantUsed = false) :
    k.press s .clearEntry = k.holding false 1 {} := by
  have hentry : k.display.entry = blankLine := by
    rw [(hreached.coherent hf).entry hd, hb]
    rfl
  have hpreview : k.display.preview = restText k.state :=
    hreached.upToDate _ (previewText?_of_empty hf hd hb ho hc hu)
  rw [press_clearEntry s hf hd]
  show k.blanked.showPreview (restText k.state) = _
  rw [← hpreview]
  obtain ⟨st, d, history, errors⟩ := k
  obtain ⟨entry, preview, trail, error, fontSize⟩ := d
  cases hentry
  cases st
  cases hb
  cases hu
  rfl

/-! ## Main result -/

/-- **Clearing the entry takes back all that was typed**: behind any events that leave nothing
typed, keys that type and edit may follow, as long as no error comes up and the trail stays.  Once
the entry is cleared the display is what it was, so are both logs, and whatever comes next is
refused, shown and reported as if nothing had been typed. -/
theorem clear_entry_leaves_no_trace (s : Settings) (history : History) (errors : ErrorLog)
    (es w : List Signal) :
    let k := es.foldl (Program.after s) (.fresh history errors)
    let k' := Program.after s (w.foldl (Program.after s) k) ⟨"clear_entry", none⟩
    k.state.failed = false → k.state.done = false → k.state.buffer = [] →
    k.state.scope.isOpen = false → k.state.scope.isClosed = false →
    k.state.constantUsed = false →
    (∀ e ∈ w, e.Edits) →
    (∀ v, v <+: w → (v.foldl (Program.after s) k).state.failed = false ∧
      (v.foldl (Program.after s) k).display.trail = k.display.trail) →
    k'.display = k.display ∧ k'.history = k.history ∧ k'.errors = k.errors ∧
      ∀ fs, Program.transcript s k' fs = Program.transcript s k fs := by
  intro k k' hf hd hb ho hc hu hw hstays
  have hreached : Reached s k := Program.reached_foldl_after es (.fresh history errors)
  have hreached₁ := Program.reached_foldl_after w hreached
  have hf₁ := (hstays w List.prefix_rfl).1
  have hdrafted : Drafted k (w.foldl (Program.after s) k) :=
    Drafted.foldl_after hd w ⟨rfl, .of_unused hu⟩ hreached hf hw hstays
  have hd₁ := (done_eq_of_blanked hdrafted.rest).trans hd
  -- cleared, the draft is the same as the empty entry cleared
  have hcleared : k' = k.holding false 1 {} := by
    rw [← press_clearEntry_of_empty hreached hf hd hb ho hc hu, press_clearEntry s hf hd,
      ← hdrafted.rest, ← press_clearEntry s hf₁ hd₁]
    exact Program.after_of_key (e := ⟨.clearEntry, none⟩) hreached₁.sound rfl
  have htwin : Twin k k' := by
    rw [hcleared]
    exact .mk false 1 {} (.of_idle ho hc rfl rfl fun hu' =>
      absurd (hu.symm.trans hu') Bool.false_ne_true)
  refine ⟨htwin.display, htwin.history, htwin.errors, fun fs => ?_⟩
  exact htwin.transcript_eq s fs hreached
    (Program.reached_foldl_after [⟨"clear_entry", none⟩] hreached₁)

/-- behind `5 +`: `2 sin π` changed in sign, its `)` taken back, and the entry cleared -/
theorem clear_entry_leaves_no_trace_sine :
    let s : Settings := { lib := ⟨id, id, id, id, id, id⟩ }
    let es : List Signal := [⟨"digit", some (.number 5)⟩, ⟨"operator", some (.text ['+'])⟩]
    let w : List Signal := [⟨"digit", some (.number 2)⟩, ⟨"function", some (.text "sin".toList)⟩,
      ⟨"constant", some (.text "pi".toList)⟩, ⟨"sign_toggle", none⟩, ⟨"backspace", none⟩]
    let k := es.foldl (Program.after s) (.fresh .initial .initial)
    let k₁ := w.foldl (Program.after s) k
    let k' := Program.after s k₁ ⟨"clear_entry", none⟩
    k₁.state.buffer = "-2sin(π".toList ∧ k₁.state.constantUsed = true ∧
      k'.display = k.display ∧ ∀ fs, Program.transcript s k' fs = Program.transcript s k fs := by
  intro s es w k k₁ k'
  have hw : ∀ e ∈ w, e.Edits := by
    intro e he
    simp only [w, List.mem_cons, List.not_mem_nil, or_false] at he
    rcases he with rfl | rfl | rfl | rfl | rfl
    exacts [⟨.digit, rfl, rfl⟩, ⟨.function, rfl, rfl⟩, ⟨.constant, rfl, rfl⟩,
      ⟨.signToggle, rfl, rfl⟩, ⟨.backspace, rfl, rfl⟩]
  have hinits : ∀ v ∈ w.inits, (v.foldl (Program.after s) k).state.failed = false ∧
      (v.foldl (Program.after s) k).display.trail = k.display.trail := by
    decide +kernel
  obtain ⟨hdisplay, -, -, htranscript⟩ := clear_entry_leaves_no_trace s .initial .initial es w
    (by decide +kernel) (by decide +kernel) (by decide +kernel) (by decide +kernel)
    (by decide +kernel) (by decide +kernel) hw fun v hv => hinits v ((List.mem_inits v w).mpr hv)
  exact ⟨by decide +kernel, by decide +kernel, hdisplay, htranscript⟩

end PocketCalc.Keypad
