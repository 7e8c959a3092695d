import PocketCalc.Proofs.Chain
import PocketCalc.Proofs.Keypad.Transition

/-!
# Text commands

Which keys the words of a chain press, and what typing a numeral comes to.

* `obey`              text commands one after the other, up to the first error on display;
* `feed_operator`, ...   the key of a word;
* `Typed k t k'`      from `k` to `k'` the text `t` was typed, and nothing else happened;
* `typed_numeral`     a numeral is typed where there is room for it.
-/

namespace PocketCalc.Keypad
open Text

/-- text commands one after the other, up to the first error on display -/
def obey (s : Settings) (k : Keypad) : List Text → Except Fault Keypad
  | [] => .ok k
  | t :: ts => if k.state.failed then .ok k else do
    let k' ← k.feed s t
    obey s k' ts

variable {s : Settings} {k : Keypad}

theorem obey_of_failed (h : k.state.failed = true) (ts : List Text) : obey s k ts = .ok k := by
  cases ts with
  | nil => rfl
  | cons t ts => rw [obey, if_pos h]

theorem obey_cons {k' : Keypad} {t : Text} (hf : k.state.failed = false)
    (h : k.feed s t = .ok k') (ts : List Text) : obey s k (t :: ts) = obey s k' ts := by
  rw [obey, if_neg (by simp [hf]), h]
  rfl

/-! ## Words for keys -/

theorem feed_of_events (s : Settings) (k : Keypad) {t : Text} {e : Event} {key : Key}
    (he : Command.events t = .ok [e]) (hkey : e.key = .ok key) :
    k.feed s t = .ok (k.press s key) := by
  rw [feed, he]
  show (k.apply s e >>= fun k' => pure k') = _
  rw [apply_of_key s k hkey]
  rfl

theorem lookup_plainCommands_of_length {t : Text} (h : 2 < t.length) :
    plainCommands.lookup t = none := by
  rw [List.lookup_eq_none_iff]
  intro p hp
  have hshort : ∀ p ∈ plainCommands, p.1.length ≤ 2 := by decide
  have hlen := hshort p hp
  rw [bne_iff_ne]
  rintro rfl
  omega

theorem feed_equals (s : Settings) (k : Keypad) :
    k.feed s ['='] = .ok (k.press s .equals) :=
  feed_of_events s k (e := ⟨.equals, none⟩) rfl rfl

theorem feed_operator (s : Settings) (k : Keypad) (w : OperatorWord) :
    k.feed s w.text = .ok (k.press s (.operator w.op)) := by
  obtain ⟨t, op, h⟩ := w
  obtain ⟨c, rfl, -⟩ := Operator.eq_singleton_of_ofText? h
  have hlookup : ∀ c ∈ ['+', '-', '×', '÷', '*', '/', '−'], plainCommands.lookup [c] = none := by
    decide
  have hnone := hlookup c (Operator.mem_signs_of_ofChar? h)
  refine feed_of_events s k (e := ⟨.operator, some (.text [c])⟩) ?_ ?_
  · rw [Command.events, hnone]
    simp [h]
  · show (Operator.find [c]).map Key.operator = _
    rw [Operator.find, h]
    rfl

theorem feed_function (s : Settings) (k : Keypad) (w : FunctionWord) :
    k.feed s w.text = .ok (k.press s (.function w.fn)) := by
  obtain ⟨t, f, h⟩ := w
  obtain ⟨hlen, -⟩ := Trig.isAlpha_of_ofText? h
  have hop : Operator.ofText? t = none := by
    unfold Operator.ofText?
    split
    · simp at hlen
    · rfl
  refine feed_of_events s k (e := ⟨.function, some (.text t)⟩) ?_ ?_
  · rw [Command.events, lookup_plainCommands_of_length hlen]
    simp [hop, h]
  · show (Trig.find t).map Key.function = _
    rw [Trig.find, h]
    rfl

theorem feed_constant (s : Settings) (k : Keypad) (w : ConstantWord) :
    k.feed s w.text = .ok (k.press s (.constant w.constant)) := by
  obtain ⟨t, c, h⟩ := w
  refine feed_of_events s k (e := ⟨.constant, some (.text t)⟩) ?_ ?_
  · unfold Constant.ofText? at h
    split at h <;> cases h <;> rfl
  · show (Constant.find t).map Key.constant = _
    rw [Constant.find, h]
    rfl

/-! ## Typing -/

/-- from `k` to `k'` the text `t` was typed, and nothing else that a key looks at happened -/
structure Typed (k : Keypad) (t : Text) (k' : Keypad) : Prop where
  state : ∃ committed started, k'.state =
    { k.state with
      buffer := k.state.buffer ++ t
      justCommitted := committed
      scope :=
        { k.state.scope with
          text := if k.state.scope.isOpen then k.state.scope.text ++ t else k.state.scope.text
          isStarted := started } }
  errors : k'.errors = k.errors

theorem Typed.refl (k : Keypad) : Typed k [] k := by
  refine ⟨⟨k.state.justCommitted, k.state.scope.isStarted, ?_⟩, rfl⟩
  rw [List.append_nil, List.append_nil, ite_self]

theorem Typed.trans {k' k'' : Keypad} {t u : Text} (h : Typed k t k') (h' : Typed k' u k'') :
    Typed k (t ++ u) k'' := by
  obtain ⟨⟨_, _, hs⟩, he⟩ := h
  obtain ⟨⟨c, b, hs'⟩, he'⟩ := h'
  refine ⟨⟨c, b, ?_⟩, he'.trans he⟩
  rw [hs', hs]
  cases k.state.scope.isOpen <;> simp

/-- a state in which typing goes on where it stands -/
structure State.Keying (st : State) : Prop where
  failed : st.failed = false
  done : st.done = false
  isClosed : st.scope.isClosed = false
  constantUsed : st.constantUsed = false

theorem Typed.keying {k' : Keypad} {t : Text} (h : Typed k t k') (hk : k.state.Keying) :
    k'.state.Keying := by
  obtain ⟨⟨_, _, hs⟩, -⟩ := h
  rw [hs]
  exact ⟨hk.failed, hk.done, hk.isClosed, hk.constantUsed⟩

theorem Typed.buffer {k' : Keypad} {t : Text} (h : Typed k t k') :
    k'.state.buffer = k.state.buffer ++ t := by
  obtain ⟨⟨_, _, hs⟩, -⟩ := h
  rw [hs]

theorem Typed.typedText {k' : Keypad} {t : Text} (h : Typed k t k') :
    typedText k'.state = typedText k.state ++ t := by
  obtain ⟨⟨_, _, hs⟩, -⟩ := h
  rw [hs, Keypad.typedText, Keypad.typedText]
  cases k.state.scope.isOpen <;> simp

theorem typed_append (hk : k.state.Keying) {t : Text}
    (hroom : ¬ s.maxEntry ≤ k.state.buffer.length) : Typed k t (k.append s t) := by
  have hd : ¬ k.state.done = true := by
    rw [hk.done]
    exact Bool.false_ne_true
  unfold append
  simp only
  rw [if_neg hd, if_neg hroom]
  by_cases ho : k.state.scope.isOpen = true
  · refine ⟨⟨false, true, ?_⟩, rfl⟩
    rw [if_pos ho, if_pos ho]
    rfl
  · refine ⟨⟨false, k.state.scope.isStarted, ?_⟩, rfl⟩
    rw [if_neg ho, if_neg ho]
    rfl

theorem readyForNumber_of_keying (hk : k.state.Keying) : k.readyForNumber s = k := by
  rw [readyForNumber, hk.isClosed, hk.constantUsed]
  rfl

theorem typed_press_of_append {key : Key} (hk : k.state.Keying) {t : Text}
    (hroom : ¬ s.maxEntry ≤ k.state.buffer.length) (hkey : k.handle s key = k.append s t) :
    Typed k t (k.press s key) := by
  obtain ⟨hs, he⟩ := typed_append (t := t) hk hroom
  rw [press, if_neg (by simp [hk.failed]), hkey]
  exact ⟨by rw [state_refreshPreview]; exact hs, by rw [errors_refreshPreview]; exact he⟩

theorem typed_digit (hk : k.state.Keying) (hroom : ¬ s.maxEntry ≤ k.state.buffer.length)
    (d : Fin 10) : Typed k [Nat.digitChar d] (k.press s (.digit d)) := by
  apply typed_press_of_append hk hroom
  simp only [handle, pressDigit, readyForNumber_of_keying hk]
  rw [if_neg (by simp [hk.failed])]

theorem typed_point (hk : k.state.Keying) (hroom : ¬ s.maxEntry ≤ k.state.buffer.length)
    (hne : typedText k.state ≠ []) (hpoint : '.' ∉ typedText k.state)
    (hcomma : ',' ∉ typedText k.state) : Typed k ['.'] (k.press s .point) := by
  apply typed_press_of_append hk hroom
  simp only [handle, pressPoint, readyForNumber_of_keying hk]
  rw [if_neg (by simp [hk.failed]), hk.done]
  simp [hne, hpoint, hcomma]

/-! ## Numerals -/

theorem key_ofTypedChar {c : Char} (h : isAsciiDigit c = true) :
    ∃ d : Fin 10, (Event.ofTypedChar c).key = .ok (.digit d) ∧ Nat.digitChar d = c := by
  have hdigit : ∀ c ∈ ['0', '1', '2', '3', '4', '5', '6', '7', '8', '9'],
      ∃ d : Fin 10, digitOf? c = some d ∧ Nat.digitChar d = c := by
    decide
  obtain ⟨d, hd, hc⟩ := hdigit c (mem_digits_of_isAsciiDigit h)
  refine ⟨d, ?_, hc⟩
  simp [Event.ofTypedChar, h, Event.key, Key.ofValues, Argument.toText, hd]

theorem typed_digits : ∀ {ds : Text}, IsAsciiDigits ds → ∀ {k : Keypad}, k.state.Keying →
    (k.state.buffer.length + ds.length : Int) ≤ s.maxEntry →
    ∃ k', (ds.map Event.ofTypedChar).foldlM (apply s) k = .ok k' ∧ Typed k ds k' := by
  intro ds
  induction ds with
  | nil => exact fun _ k _ _ => ⟨k, rfl, .refl k⟩
  | cons c ds ih =>
    intro hds k hk hroom
    rw [List.length_cons] at hroom
    obtain ⟨d, hkey, hc⟩ := key_ofTypedChar (hds c List.mem_cons_self)
    have hfirst := typed_digit (s := s) hk (by omega) d
    rw [hc] at hfirst
    have hbuffer := hfirst.buffer
    obtain ⟨k', hk', hrest⟩ := ih (fun d hd => hds d (List.mem_cons_of_mem c hd))
      (hfirst.keying hk) (by
        rw [hbuffer, List.length_append, List.length_singleton]
        omega)
    refine ⟨k', ?_, hfirst.trans hrest⟩
    rw [List.map_cons, List.foldlM_cons, apply_of_key s k hkey]
    exact hk'

theorem events_numeral (m : Numeral) :
    Command.events m.text = .ok (m.text.map Event.ofTypedChar) := by
  obtain ⟨c, u, hw⟩ := List.exists_cons_of_ne_nil m.ne_nil
  have hcu : m.text = c :: (u ++ m.fraction) := by rw [Numeral.text, hw, List.cons_append]
  have hdigit : isAsciiDigit c = true := m.isDigits c (by rw [hw]; exact List.mem_cons_self)
  have hlookup : plainCommands.lookup m.text = none := by
    rw [List.lookup_eq_none_iff]
    intro p hp
    have hhead : ∀ p ∈ plainCommands, p.1.head?.any isAsciiDigit = false := by decide
    rw [bne_iff_ne, hcu]
    intro heq
    have hc := hhead p hp
    rw [← heq, List.head?_cons, Option.any_some, hdigit] at hc
    cases hc
  have hoperator : (Operator.ofText? m.text).isSome = false := by
    cases h : Operator.ofText? m.text with
    | none => rfl
    | some op =>
      obtain ⟨c', hc', hmark⟩ := Operator.eq_singleton_of_ofText? h
      rw [hcu] at hc'
      rw [← (List.cons.inj hc').1] at hmark
      have hnot := (isMark_separates hmark).1
      rw [(isAsciiDigit_classes hdigit).2.1] at hnot
      cases hnot
  have hfunction : (Trig.ofText? m.text).isSome = false := by
    cases h : Trig.ofText? m.text with
    | none => rfl
    | some f =>
      have halpha := (Trig.isAlpha_of_ofText? h).2 c (by rw [hcu]; exact List.mem_cons_self)
      have hnot : ∀ c ∈ ['0', '1', '2', '3', '4', '5', '6', '7', '8', '9'], c.isAlpha = false := by
        decide
      rw [hnot c (mem_digits_of_isAsciiDigit hdigit)] at halpha
      cases halpha
  have hconstant : (Constant.ofText? m.text).isSome = false := by
    rw [hcu]
    unfold Constant.ofText?
    split
    all_goals first
      | rfl
      | simp_all [isAsciiDigit]
  have htyped : isTyped m.text = true := by
    have hall : m.text.all (fun c => isAsciiDigit c || c = '.' || c = ',') = true := by
      rw [List.all_eq_true]
      intro d hd
      rcases m.isAsciiDigit_or_eq_point hd with h | rfl
      · simp [h]
      · rfl
    rw [isTyped, hall, hcu]
    rfl
  rw [Command.events, hlookup]
  simp [hoperator, hfunction, hconstant, htyped]

/-- a numeral is typed where nothing was typed before -/
theorem typed_numeral (m : Numeral) (hk : k.state.Keying) (hnew : typedText k.state = [])
    (hroom : (k.state.buffer.length + m.text.length : Int) ≤ s.maxEntry) :
    ∃ k', k.feed s m.text = .ok k' ∧ Typed k m.text k' := by
  rw [feed, events_numeral]
  show ∃ k', (m.text.map Event.ofTypedChar).foldlM (apply s) k = .ok k' ∧ _
  have hlen : m.text.length = m.whole.length + m.fraction.length := List.length_append
  obtain ⟨k₁, hk₁, hwhole⟩ := typed_digits (s := s) m.isDigits hk (by omega)
  rw [Numeral.text, List.map_append, List.foldlM_append, hk₁]
  show ∃ k', (m.fraction.map Event.ofTypedChar).foldlM (apply s) k₁ = .ok k' ∧ _
  rcases m.isFraction with hf | ⟨ds, hf, hds⟩
  · rw [hf]
    exact ⟨k₁, rfl, by rw [List.append_nil]; exact hwhole⟩
  · rw [hf, List.length_cons] at hlen
    rw [hf]
    have htyped : typedText k₁.state = m.whole := by
      rw [hwhole.typedText, hnew, List.nil_append]
    have hnot : ∀ c ∈ typedText k₁.state, c ≠ '.' ∧ c ≠ ',' := by
      intro c hc
      rw [htyped] at hc
      have hdigit := m.isDigits c hc
      constructor
      · rintro rfl
        exact absurd hdigit (by decide)
      · rintro rfl
        exact absurd hdigit (by decide)
    have hbuffer := hwhole.buffer
    have hpoint := typed_point (s := s) (hwhole.keying hk)
      (by rw [hbuffer, List.length_append]; omega) (by rw [htyped]; exact m.ne_nil)
      (fun h => (hnot _ h).1 rfl) (fun h => (hnot _ h).2 rfl)
    have hbuffer' := hpoint.buffer
    obtain ⟨k₂, hk₂, hrest⟩ := typed_digits (s := s) hds (hpoint.keying (hwhole.keying hk)) (by
      rw [hbuffer', hbuffer, List.length_append, List.length_append, List.length_singleton]
      omega)
    refine ⟨k₂, ?_, ?_⟩
    · have hkey : (Event.ofTypedChar '.').key = .ok .point := rfl
      rw [List.map_cons, List.foldlM_cons, apply_of_key s _ hkey]
      exact hk₂
    · have hall := hwhole.trans (hpoint.trans hrest)
      exact hall

end PocketCalc.Keypad
