import PocketCalc.Proofs.Keypad.Cleared
import PocketCalc.Proofs.Keypad.Typing

/-!
# A backspace takes the last key back

What a key types stands at the end of the entry and, in an open scope, at the end of the scope.  A
backspace takes it from there: a character, a whole function with its parenthesis, or the
parenthesis of a closed scope, which opens the scope again.  A constant typed in an open scope
closes it, so it takes two of them.

* `State.Extended`            a character more in the entry, and in the open scope;
* `State.SameEntry`           the same entry, with the same scope open in it;
* `sameEntry_pressBackspace`  a character that was typed, taken back;
* `sameEntry_dropScope`       a function that was opened, taken back;
* `extended_reopened`         a scope that a constant has closed, opened again;
* `Restored k k'`             all that a user sees of `k`, and goes on with, is there in `k'`;
* `backspace_undoes`          on every run.
-/

namespace PocketCalc
open Text

theorem Constant.symbol_ne_closing (c : Constant) : c.symbol ≠ ')' := by
  cases c <;> decide

namespace Keypad

/-! ## Entries -/

/-- the same entry, with the same scope open in it -/
structure State.SameEntry (st st' : State) : Prop where
  buffer : st'.buffer = st.buffer
  isOpen : st'.scope.isOpen = st.scope.isOpen
  isClosed : st'.scope.isClosed = st.scope.isClosed
  constantUsed : st'.constantUsed = st.constantUsed
  scope : st.scope.isOpen = true →
    st'.scope.text = st.scope.text ∧ st'.scope.factor = st.scope.factor

/-- one character more in the entry, and in the scope if one is open -/
structure State.Extended (st : State) (c : Char) (st' : State) : Prop where
  buffer : st'.buffer = st.buffer ++ [c]
  isOpen : st'.scope.isOpen = st.scope.isOpen
  isClosed : st'.scope.isClosed = st.scope.isClosed
  failed : st'.failed = false
  done : st'.done = false
  scope : st.scope.isOpen = true →
    st'.scope.text = st.scope.text ++ [c] ∧ st'.scope.factor = st.scope.factor

variable {s : Settings} {k k' : Keypad}

/-! ## Taking back -/

theorem pressBackspace_of_getLast? {c : Char} (hd : k.state.done = false)
    (hc : k.state.buffer.getLast? = some c)
    (ht : k.state.scope.isOpen = true → k.state.scope.text ≠ []) :
    k.pressBackspace = k.dropChar c := by
  unfold pressBackspace
  rw [if_neg (by simp [hd]), hc]
  simp only
  rw [if_neg]
  intro hempty
  obtain ⟨ho, htext⟩ := Bool.and_eq_true_iff.mp hempty
  exact ht ho (of_decide_eq_true htext)

/-- a character that was typed, taken back; a constant is no longer pending then -/
theorem sameEntry_pressBackspace {st : State} {c : Char} (h : st.Extended c k.state) (hc : c ≠ ')')
    (hu : (!Constant.isSymbol c && k.state.constantUsed) = st.constantUsed) :
    st.SameEntry k.pressBackspace.state := by
  have hlast : k.state.buffer.getLast? = some c := by rw [h.buffer, List.getLast?_concat]
  have htext : k.state.scope.isOpen = true → k.state.scope.text ≠ [] := by
    intro ho
    rw [(h.scope (h.isOpen.symm.trans ho)).1]
    simp
  rw [pressBackspace_of_getLast? h.done hlast htext, state_dropChar hc]
  have hscope : k.state.scope.dropLast.isOpen = k.state.scope.isOpen ∧
      k.state.scope.dropLast.isClosed = k.state.scope.isClosed ∧
      k.state.scope.dropLast.factor = k.state.scope.factor := by
    unfold Scope.dropLast
    split <;> exact ⟨rfl, rfl, rfl⟩
  refine ⟨?_, hscope.1.trans h.isOpen, hscope.2.1.trans h.isClosed, hu, fun ho => ⟨?_, ?_⟩⟩
  · show k.state.buffer.dropLast = st.buffer
    rw [h.buffer, List.dropLast_concat]
  · show k.state.scope.dropLast.text = st.scope.text
    rw [Scope.dropLast, if_pos (h.isOpen.trans ho)]
    show k.state.scope.text.dropLast = st.scope.text
    rw [(h.scope ho).1, List.dropLast_concat]
  · exact hscope.2.2.trans (h.scope ho).2

/-- a function that was opened, taken back with its parenthesis -/
theorem sameEntry_dropScope {f : Trig} (h : k'.state = (k.openScope f).state)
    (hd : k.state.done = false) (ho : k.state.scope.isOpen = false)
    (hc : k.state.scope.isClosed = false) : k.state.SameEntry k'.pressBackspace.state := by
  have hbuffer : k'.state.buffer = k.state.buffer ++ (f.name ++ ['(']) := by
    rw [h, ← List.append_assoc]
    rfl
  have hlast : k'.state.buffer.getLast? = some '(' := by
    rw [hbuffer, ← List.append_assoc, List.getLast?_concat]
  have hdrop : k'.pressBackspace = k'.dropScope := by
    unfold pressBackspace
    rw [hlast, h]
    rw [if_neg (by simp [openScope, hd])]
    exact if_pos rfl
  rw [hdrop]
  refine ⟨?_, ho.symm, hc.symm, ?_, fun ho' => absurd (ho.symm.trans ho') Bool.false_ne_true⟩
  · show k'.state.buffer.take
      (k'.state.buffer.length - ((k'.state.scope.function.elim 0 fun f => f.name.length) + 1)) = _
    have hlength : (k'.state.scope.function.elim 0 fun f => f.name.length) + 1 =
        (f.name ++ ['(']).length := by
      rw [h, List.length_append]
      rfl
    rw [hlength, hbuffer, List.length_append, Nat.add_sub_cancel, List.take_left' rfl]
  · show k'.state.constantUsed = _
    rw [h]
    rfl

/-! ## Typing -/

theorem extended_of_typed {c : Char} (hk : k.state.Keying) (h : Typed k [c] k') :
    k.state.Extended c k'.state ∧ k'.state.constantUsed = false := by
  obtain ⟨⟨_, _, hs⟩, -⟩ := h
  rw [hs]
  exact ⟨⟨rfl, rfl, rfl, hk.failed, hk.done, fun ho => ⟨if_pos ho, rfl⟩⟩, hk.constantUsed⟩

/-- an entry that is full takes nothing more -/
theorem append_of_full (hd : k.state.done = false) (hfull : s.maxEntry ≤ k.state.buffer.length)
    (t : Text) : k.append s t = k := by
  have hsame : (if k.state.done then k.startOver else k) = k := if_neg (by simp [hd])
  simp only [append]
  rw [hsame, if_pos hfull]

/-- a key that types a text has room for it, if the entry gets longer -/
theorem typed_of_grows {key : Key} {t : Text} (hk : k.state.Keying)
    (hkey : k.handle s key = k.append s t)
    (hgrows : k.state.buffer.length < (k.press s key).state.buffer.length) :
    Typed k t (k.press s key) := by
  refine typed_press_of_append hk ?_ hkey
  intro hfull
  rw [press, if_neg (by simp [hk.failed]), state_refreshPreview, hkey,
    append_of_full hk.done hfull] at hgrows
  exact Nat.lt_irrefl _ hgrows

/-! ## Keys -/

theorem extended_digit (hk : k.state.Keying) (d : Fin 10)
    (hgrows : k.state.buffer.length < (k.press s (.digit d)).state.buffer.length) :
    k.state.Extended (Nat.digitChar d) (k.press s (.digit d)).state ∧
      (k.press s (.digit d)).state.constantUsed = false := by
  refine extended_of_typed hk (typed_of_grows hk ?_ hgrows)
  simp only [handle, pressDigit, readyForNumber_of_keying hk]
  rw [if_neg (by simp [hk.failed])]

theorem extended_point (hk : k.state.Keying) (hne : typedText k.state ≠ [])
    (hgrows : k.state.buffer.length < (k.press s .point).state.buffer.length) :
    k.state.Extended '.' (k.press s .point).state ∧
      (k.press s .point).state.constantUsed = false := by
  refine extended_of_typed hk (typed_of_grows hk ?_ hgrows)
  have hsame : (if k.state.done then k.startOver else k) = k := if_neg (by simp [hk.done])
  rw [press, if_neg (by simp [hk.failed]), state_refreshPreview] at hgrows
  revert hgrows
  simp only [handle, pressPoint, readyForNumber_of_keying hk]
  rw [if_neg (by simp [hk.failed]), hsame, if_neg hne]
  split
  · exact fun hgrows => absurd hgrows (Nat.lt_irrefl _)
  · exact fun _ => rfl

/-- a function opened where none is, if the entry gets longer -/
theorem state_press_function (hk : k.state.Keying) (ho : k.state.scope.isOpen = false) (f : Trig)
    (hgrows : k.state.buffer.length < (k.press s (.function f)).state.buffer.length) :
    (k.press s (.function f)).state =
      (openScope { k with state.scope.factor := readNumber? k.state.buffer } f).state := by
  rw [press, if_neg (by simp [hk.failed]), state_refreshPreview] at hgrows ⊢
  have hopened : k.handle s (.function f) = k.openWithFactor s f := by
    simp only [handle, pressFunction, hk.constantUsed, hk.isClosed, Bool.or_self,
      Bool.false_eq_true, if_false, hk.failed, hk.done, ho]
  rw [hopened] at hgrows ⊢
  rcases openWithFactor_cases s f k with he | he
  · rw [he] at hgrows
    exact absurd hgrows (Nat.lt_irrefl _)
  · rw [he]

/-- a constant where none is pending, if the entry gets longer -/
theorem handle_constant (hk : k.state.Keying) (c : Constant)
    (hgrows : k.state.buffer.length < (k.press s (.constant c)).state.buffer.length) :
    k.handle s (.constant c) =
      if k.state.scope.isOpen then
        { closeScope s { k with state := k.state.constantInScope c } with
          state.constantUsed := false }
      else
        showEntry
          { k with
            state.constant := c.value * factorOf (typedText k.state)
            state.buffer := k.state.buffer ++ [c.symbol]
            state.constantUsed := true } := by
  rw [press, if_neg (by simp [hk.failed]), state_refreshPreview] at hgrows
  have hsame : (if k.state.constantUsed || k.state.scope.isClosed || k.state.done then
      k.pressOperator s .multiply else k) = k :=
    if_neg (by simp [hk.constantUsed, hk.isClosed, hk.done])
  revert hgrows
  simp only [handle, pressConstant]
  rw [hsame, if_neg (by simp [hk.failed])]
  split
  · exact fun hgrows => absurd hgrows (Nat.lt_irrefl _)
  · exact fun _ => rfl

theorem extended_constant (hk : k.state.Keying) (ho : k.state.scope.isOpen = false) (c : Constant)
    (hgrows : k.state.buffer.length < (k.press s (.constant c)).state.buffer.length) :
    k.state.Extended c.symbol (k.press s (.constant c)).state := by
  have he := handle_constant hk c hgrows
  rw [press, if_neg (by simp [hk.failed]), state_refreshPreview, he, if_neg (by simp [ho])]
  exact ⟨rfl, rfl, rfl, hk.failed, hk.done,
    fun ho' => absurd (ho.symm.trans ho') Bool.false_ne_true⟩

/-- a constant closes the open scope, and a backspace opens it again behind the constant -/
theorem extended_reopened (ha : k.state.Active) (hk : k.state.Keying)
    (ho : k.state.scope.isOpen = true) (c : Constant)
    (hgrows : k.state.buffer.length < (k.press s (.constant c)).state.buffer.length)
    (hf : (k.press s (.constant c)).state.failed = false) :
    k.state.Extended c.symbol (k.press s (.constant c)).pressBackspace.state := by
  have he := handle_constant hk c hgrows
  obtain ⟨-, f, -, hset, hfn, -⟩ := ha.scope.of_isOpen ho
  have hclosed : (k.press s (.constant c)).state =
      { (closeScope s { k with state := k.state.constantInScope c }).state with
        constantUsed := false } := by
    rw [press, if_neg (by simp [hk.failed]), state_refreshPreview, he, if_pos ho]
  rw [hclosed] at hf
  generalize k.press s (.constant c) = k₁ at hclosed ⊢
  rcases closeScope_cases (s := s) (k := { k with state := k.state.constantInScope c }) ho hset hfn
    with ⟨-, hstate⟩ | ⟨x, e, -, -, hstate⟩ | ⟨x, y, -, -, hstate⟩
  · rw [hstate] at hf
    cases hf
  · rw [hstate] at hf
    cases hf
  rw [hstate] at hclosed
  have hbuffer : k₁.state.buffer = k.state.buffer ++ [c.symbol] ++ [')'] := by
    rw [hclosed]
    rfl
  have hopen : k₁.state.scope.isOpen = false := by rw [hclosed]; rfl
  rw [pressBackspace_of_getLast? (by rw [hclosed]; exact hk.done)
    (by rw [hbuffer, List.getLast?_concat])
    (fun ho' => absurd (hopen.symm.trans ho') Bool.false_ne_true), state_dropChar_closing]
  refine ⟨?_, ho.symm, hk.isClosed.symm, ?_, ?_, fun _ => ?_⟩
  · show k₁.state.buffer.dropLast = _
    rw [hbuffer, List.dropLast_concat]
  · show k₁.state.failed = false
    rw [hclosed]
    exact hk.failed
  · show k₁.state.done = false
    rw [hclosed]
    exact hk.done
  · show k₁.state.scope.text = _ ∧ k₁.state.scope.factor = _
    rw [hclosed]
    exact ⟨rfl, rfl⟩

/-! ## What is there again -/

/-- all that is shown of `k`, and that the keys go on with, is there in `k'` -/
structure Restored (k k' : Keypad) : Prop extends k.state.SameEntry k'.state where
  entry : k'.display.entry = k.display.entry
  trail : k'.display.trail = k.display.trail
  first : k'.state.first = k.state.first
  operator : k'.state.operator = k.state.operator
  operatorSet : k'.state.operatorSet = k.state.operatorSet

theorem restored_of_blanked (h : Reached s k) (h' : Reached s k') (hf : k.state.failed = false)
    (hd : k.state.done = false) (hrest : k'.blanked = k.blanked)
    (hsame : k.state.SameEntry k'.state) : Restored k k' := by
  have hf' : k'.state.failed = false := (congrArg (fun k => k.state.failed) hrest).trans hf
  have hd' : k'.state.done = false := (done_eq_of_blanked hrest).trans hd
  refine ⟨hsame, ?_, trail_eq_of_blanked hrest, congrArg (fun k => k.state.first) hrest,
    congrArg (fun k => k.state.operator) hrest, congrArg (fun k => k.state.operatorSet) hrest⟩
  rw [(h'.coherent hf').entry hd', hsame.buffer, (h.coherent hf).entry hd]

/-- any key that types or edits leaves all but the entry, if it does not multiply -/
theorem blanked_press (h : Reached s k) (hf : k.state.failed = false) (hd : k.state.done = false)
    {key : Key} (hkey : key.kind.edits = true) (hm : k.state.multiplies key = false)
    (hf' : (k.press s key).state.failed = false) : (k.press s key).blanked = k.blanked := by
  rw [press, if_neg (by simp [hf])] at hf' ⊢
  rw [state_refreshPreview] at hf'
  rw [blanked_refreshPreview]
  exact blanked_handle s hkey (h.sound.active hf) hd (h.coherent hf).toShown hm hf'

/-- a backspace leaves all but the entry -/
theorem blanked_press_backspace (h : Reached s k) (hf : k.state.failed = false)
    (hd : k.state.done = false) : (k.press s .backspace).blanked = k.blanked := by
  refine blanked_press h hf hd rfl rfl ?_
  rw [press, if_neg (by simp [hf]), state_refreshPreview]
  exact (sound_pressBackspace (h.sound.active hf)).failed

theorem state_press_backspace (hf : k.state.failed = false) :
    (k.press s .backspace).state = k.pressBackspace.state := by
  rw [press, if_neg (by simp [hf]), state_refreshPreview]
  rfl

/-! ## The last key taken back -/

/-- the keys that type one thing, which one backspace takes back -/
def State.typesOne (st : State) : Key → Bool
  | .digit _ => true
  | .point => !(typedText st).isEmpty
  | .function _ | .constant _ => !st.scope.isOpen
  | .operator _ | .equals | .backspace | .clearEntry | .clearAll | .toggleSign => false

theorem edits_of_typesOne {st : State} {key : Key} (h : st.typesOne key = true) :
    key.kind.edits = true := by
  cases key with
  | digit | point | function | constant => rfl
  | operator | equals | backspace | clearEntry | clearAll | toggleSign => cases h

theorem multiplies_of_typesOne (hk : k.state.Keying) {key : Key}
    (h : k.state.typesOne key = true) : k.state.multiplies key = false := by
  cases key with
  | digit | point | constant =>
    show (k.state.scope.isClosed || k.state.constantUsed) = false
    rw [hk.isClosed, hk.constantUsed]
    rfl
  | function f =>
    have ho : k.state.scope.isOpen = false := Bool.eq_false_of_not_eq_true' h
    show (k.state.scope.isClosed || k.state.constantUsed || k.state.scope.isOpen) = false
    rw [hk.isClosed, hk.constantUsed, ho]
    rfl
  | operator | equals | backspace | clearEntry | clearAll | toggleSign => cases h

theorem sameEntry_press (hk : k.state.Keying) {key : Key} (hkey : k.state.typesOne key = true)
    (hgrows : k.state.buffer.length < (k.press s key).state.buffer.length) :
    (k.press s key).state.failed = false ∧
      k.state.SameEntry (k.press s key).pressBackspace.state := by
  cases key with
  | digit d =>
    obtain ⟨he, hu⟩ := extended_digit hk d hgrows
    have hc : ∀ d : Fin 10, Nat.digitChar d ≠ ')' := by decide
    exact ⟨he.failed,
      sameEntry_pressBackspace he (hc d) (by rw [hu, hk.constantUsed, Bool.and_false])⟩
  | point =>
    have hne : typedText k.state ≠ [] := by
      intro hnil
      rw [State.typesOne, hnil] at hkey
      cases hkey
    obtain ⟨he, hu⟩ := extended_point hk hne hgrows
    exact ⟨he.failed,
      sameEntry_pressBackspace he (by decide) (by rw [hu, hk.constantUsed, Bool.and_false])⟩
  | function f =>
    have ho : k.state.scope.isOpen = false := Bool.eq_false_of_not_eq_true' hkey
    have he := state_press_function hk ho f hgrows
    -- the factor is read anew, but no scope is open that it belongs to
    have hsame := sameEntry_dropScope he hk.done ho hk.isClosed
    refine ⟨?_, ⟨hsame.buffer, hsame.isOpen, hsame.isClosed, hsame.constantUsed,
      fun ho' => absurd (ho.symm.trans ho') Bool.false_ne_true⟩⟩
    rw [he]
    exact hk.failed
  | constant c =>
    have ho : k.state.scope.isOpen = false := Bool.eq_false_of_not_eq_true' hkey
    have he := extended_constant hk ho c hgrows
    exact ⟨he.failed, sameEntry_pressBackspace he c.symbol_ne_closing
      (by rw [c.isSymbol_symbol, hk.constantUsed, Bool.not_true, Bool.false_and])⟩
  | operator | equals | backspace | clearEntry | clearAll | toggleSign => cases hkey

/-- **A backspace takes the last key back**: a digit, a point behind a number, or a function or
constant where no scope is open, if the entry took it; and two of them take a constant back that
closed its scope.  A full entry takes nothing, so there is nothing of the key to take back. -/
theorem backspace_undoes (h : Reached s k) (hk : k.state.Keying) :
    (∀ key, k.state.typesOne key = true →
      k.state.buffer.length < (k.press s key).state.buffer.length →
      Restored k ((k.press s key).press s .backspace)) ∧
    ∀ c, k.state.scope.isOpen = true →
      k.state.buffer.length < (k.press s (.constant c)).state.buffer.length →
      (k.press s (.constant c)).state.failed = false →
      Restored k (((k.press s (.constant c)).press s .backspace).press s .backspace) := by
  refine ⟨fun key hkey hgrows => ?_, fun c ho hgrows hf₁ => ?_⟩
  · obtain ⟨hf₁, hsame⟩ := sameEntry_press hk hkey hgrows
    have h₁ : Reached s (k.press s key) := h.press key
    have hrest₁ : (k.press s key).blanked = k.blanked :=
      blanked_press h hk.failed hk.done (edits_of_typesOne hkey) (multiplies_of_typesOne hk hkey)
        hf₁
    have hrest₂ : ((k.press s key).press s .backspace).blanked = (k.press s key).blanked :=
      blanked_press_backspace h₁ hf₁ ((done_eq_of_blanked hrest₁).trans hk.done)
    refine restored_of_blanked h (h₁.press .backspace) hk.failed hk.done (hrest₂.trans hrest₁) ?_
    rw [state_press_backspace hf₁]
    exact hsame
  · have hextended := extended_reopened (h.sound.active hk.failed) hk ho c hgrows hf₁
    have h₁ : Reached s (k.press s (.constant c)) := h.press (.constant c)
    have hrest₁ : (k.press s (.constant c)).blanked = k.blanked := by
      refine blanked_press h hk.failed hk.done rfl ?_ hf₁
      show (k.state.scope.isClosed || k.state.constantUsed) = false
      rw [hk.isClosed, hk.constantUsed]
      rfl
    have hrest₂ : ((k.press s (.constant c)).press s .backspace).blanked = _ :=
      blanked_press_backspace h₁ hf₁ ((done_eq_of_blanked hrest₁).trans hk.done)
    rw [← state_press_backspace hf₁] at hextended
    have h₂ := h₁.press .backspace
    generalize (k.press s (.constant c)).press s .backspace = k₂ at hextended hrest₂ h₂ ⊢
    have hrest₃ := blanked_press_backspace h₂ hextended.failed hextended.done
    refine restored_of_blanked h (h₂.press .backspace) hk.failed hk.done
      (hrest₃.trans (hrest₂.trans hrest₁)) ?_
    rw [state_press_backspace hextended.failed]
    exact sameEntry_pressBackspace hextended c.symbol_ne_closing
      (by rw [c.isSymbol_symbol, hk.constantUsed, Bool.not_true, Bool.false_and])

/-- `2 sin 3` with a `0` behind it, and with a `π` that closes the scope, and both taken back -/
theorem backspace_undoes_sine :
    let s : Settings := { lib := ⟨id, id, id, id, id, id⟩ }
    let k := run s [.digit 2, .function .sin, .digit 3]
    k.display.entry = "2sin(3".toList ∧
      (k.press s (.digit 0)).display.entry = "2sin(30".toList ∧
      Restored k ((k.press s (.digit 0)).press s .backspace) ∧
      (k.press s (.constant .pi)).display.entry = "2sin(3π)".toList ∧
      Restored k (((k.press s (.constant .pi)).press s .backspace).press s .backspace) := by
  intro s k
  have hk : k.state.Keying :=
    ⟨by decide +kernel, by decide +kernel, by decide +kernel, by decide +kernel⟩
  obtain ⟨hone, htwo⟩ := backspace_undoes (s := s) (k := k) (reached_run _ _) hk
  exact ⟨by decide +kernel, by decide +kernel, hone (.digit 0) rfl (by decide +kernel),
    by decide +kernel, htwo .pi (by decide +kernel) (by decide +kernel) (by decide +kernel)⟩

end Keypad
end PocketCalc
