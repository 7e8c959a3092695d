import PocketCalc.Proofs.Lexemes

/-!
# Where the cutting of a text stops

A text is cut as far as every lexeme has a token; where one has none, or none begins, the reason is
told, and what was cut off in front of that place is what is cut off the text in front of it alone.

* `Token.Stuck`             a character, a separator or a word that goes into no expression;
* `Token.Unvalued`          a numeral with a digit that has no value;
* `Token.Reaches`           the places at which a lexeme is looked for;
* `Token.Meets`             the first place at which something stands;
* `Token.scan_stops`        where a text cannot be cut any further, and why;
* `Token.scan_unvalued`     what `Stuck` names is not all.
-/

namespace PocketCalc
open Text

namespace Token
open Lexeme (Longest)

/-! ## Where a text cannot be cut -/

/-- a lexeme begins with the character -/
def startsLexeme (c : Char) : Bool :=
  isDigit c || isSeparator c || Operator.isSign c || isLetter c || c = '(' || c = ')' || isSpace c

/-- What goes into no expression: a character that begins no lexeme, a separator that begins one
with no digit behind it, and a word that is the name of no constant and, in small letters, of no
function. -/
inductive Stuck : Text → Fault → Prop
  | character {c : Char} {r : Text} : startsLexeme c = false → Stuck (c :: r) (.invalidCharacter c)
  | separator {s : Char} {r : Text} : isSeparator s = true → (∀ c ∈ r.head?, isDigit c = false) →
      Stuck (s :: r) (.invalidNumber [s])
  | word {w r : Text} : w ≠ [] → (∀ c ∈ w, isLetter c = true) →
      (∀ c ∈ r.head?, isLetter c = false) → w ∉ [['π'], ['p', 'i'], ['e']] →
      (∀ f : Trig, f.name ≠ w.map Char.toLower) → Stuck (w ++ r) (.unknownSymbol w)

/-- a numeral one of whose digits has no value -/
inductive Unvalued : Text → Fault → Prop
  | number {t : Text} {l : Lexeme} : Longest t l → l.cls = .number →
      (∃ c ∈ l.text, isUnvaluedDigit c = true) → Unvalued t (.invalidNumber l.text)

/-- either -/
def Stops (t : Text) (f : Fault) : Prop := Stuck t f ∨ Unvalued t f

theorem not_stuck_nil (f : Fault) : ¬ Stuck [] f := by
  intro h
  generalize ht : ([] : Text) = t at h
  cases h with
  | character | separator => cases ht
  | word hne => exact hne (List.append_eq_nil_iff.mp ht.symm).1

theorem not_stuck_of_isDigit {c : Char} {r : Text} {f : Fault} (h : isDigit c = true) :
    ¬ Stuck (c :: r) f := by
  intro hstuck
  generalize ht : c :: r = t at hstuck
  cases hstuck with
  | character hc =>
    cases ht
    simp [startsLexeme, h] at hc
  | separator hs =>
    cases ht
    rw [not_isDigit_of_isSeparator hs] at h
    cases h
  | word hne hw =>
    obtain ⟨d, w, rfl⟩ := List.exists_cons_of_ne_nil hne
    cases ht
    rw [isDigit_of_isLetter (hw c List.mem_cons_self)] at h
    cases h

theorem not_stops_nil (f : Fault) : ¬ Stops [] f := by
  rintro (h | h)
  · exact not_stuck_nil f h
  · cases h with
    | number hl => exact Lexeme.not_longest_nil _ hl

theorem front?_eq_none_iff (c : Char) (r : Text) :
    Lexeme.front? c r = none ↔ startsLexeme c = false := by
  unfold Lexeme.front? startsLexeme
  split_ifs <;> grind

/-- a separator is a lexeme exactly if no digit follows it -/
theorem longest_separator_iff {s : Char} {r : Text} (hs : isSeparator s = true) :
    Longest (s :: r) ⟨.number, [s]⟩ ↔ ∀ c ∈ r.head?, isDigit c = false := by
  constructor
  · rintro ⟨-, -, hmost⟩ c hc
    rw [Bool.eq_false_iff]
    intro hdigit
    obtain ⟨u, rfl⟩ := List.head?_eq_some_iff.mp hc
    have hlength := hmost ⟨.number, [s, c]⟩
      (.separated (w := []) nofun hs (by simpa using hdigit)) ⟨u, rfl⟩
    simp at hlength
  · intro hr
    have hnone : ∀ c ∈ ([] : Text), isDigit c = true := nofun
    have hlexeme : numberLexeme (s :: r) = [s] := numberLexeme_separated hnone hs hnone hr
    rw [Lexeme.longest_iff, Lexeme.front?, if_pos (by rw [hs, Bool.or_true]), hlexeme]

/-- a row of letters is a lexeme exactly if no letter follows it -/
theorem longest_word_iff {w r : Text} (hne : w ≠ []) (hw : ∀ c ∈ w, isLetter c = true) :
    Longest (w ++ r) ⟨.word, w⟩ ↔ ∀ c ∈ r.head?, isLetter c = false := by
  constructor
  · rintro ⟨-, -, hmost⟩ c hc
    rw [Bool.eq_false_iff]
    intro hletter
    obtain ⟨u, rfl⟩ := List.head?_eq_some_iff.mp hc
    have hlonger : ∀ d ∈ w ++ [c], isLetter d = true := by
      intro d hd
      rcases List.mem_append.mp hd with hd | hd
      · exact hw d hd
      · rw [List.mem_singleton.mp hd]
        exact hletter
    have hlength := hmost ⟨.word, w ++ [c]⟩
      (.word (List.append_ne_nil_of_right_ne_nil _ (List.cons_ne_nil _ _)) hlonger)
      ⟨u, by rw [List.append_assoc, List.singleton_append]⟩
    simp at hlength
  · intro hr
    obtain ⟨c, w, rfl⟩ := List.exists_cons_of_ne_nil hne
    have hc := hw c List.mem_cons_self
    have htake := (span_append (fun d hd => hw d (List.mem_cons_of_mem c hd)) hr).1
    rw [List.cons_append, Lexeme.longest_iff]
    simp [Lexeme.front?, isDigit_or_isSeparator_of_isLetter hc, isSign_of_isLetter hc, hc, htake]

theorem token_number_eq_error_iff {w : Text} {f : Fault} :
    Lexeme.token ⟨.number, w⟩ = .error f ↔ readNumber? w = none ∧ f = .invalidNumber w := by
  unfold Lexeme.token
  cases readNumber? w with
  | none => simp [eq_comm]
  | some x => simp

theorem token_word_eq_error_iff {w : Text} {f : Fault} :
    Lexeme.token ⟨.word, w⟩ = .error f ↔ (w ∉ [['π'], ['p', 'i'], ['e']] ∧
      ∀ f : Trig, f.name ≠ w.map Char.toLower) ∧ f = .unknownSymbol w := by
  have hconstant : Constant.ofText? w = none ↔ w ∉ [['π'], ['p', 'i'], ['e']] := by
    unfold Constant.ofText?
    split <;> simp_all
  have htrig : Trig.ofText? w = none ↔ ∀ f : Trig, f.name ≠ w.map Char.toLower := by
    rw [Trig.ofText?, List.find?_eq_none]
    constructor
    · intro h f
      exact of_decide_eq_false (by simpa using h f (by cases f <;> decide))
    · intro h f _
      simpa using h f
  rw [← hconstant, ← htrig]
  unfold Lexeme.token
  cases Constant.ofText? w with
  | some c => simp
  | none =>
    cases Trig.ofText? w with
    | some g => simp
    | none => simp [eq_comm]

/-- a text stops where no lexeme begins, or at one without a token -/
theorem exists_of_stops {t : Text} {f : Fault} (h : Stops t f) :
    (∃ c r, t = c :: r ∧ startsLexeme c = false ∧ f = .invalidCharacter c) ∨
      ∃ l, Longest t l ∧ l.token = .error f := by
  rcases h with h | h
  · cases h with
    | @character c r hc => exact .inl ⟨c, r, rfl, hc, rfl⟩
    | @separator s r hs hr =>
      have hl := (longest_separator_iff hs).mpr hr
      refine .inr ⟨_, hl, ?_⟩
      rw [token_number_eq_error_iff, Lexeme.readNumber?_eq_none_iff hl.1]
      exact ⟨.inl ⟨s, rfl, hs⟩, rfl⟩
    | word hne hw hr hconstant htrig =>
      exact .inr ⟨_, (longest_word_iff hne hw).mpr hr,
        token_word_eq_error_iff.mpr ⟨⟨hconstant, htrig⟩, rfl⟩⟩
  · cases h with
    | @number l hl hcls hunvalued =>
      obtain ⟨k, w⟩ := l
      cases hcls
      refine .inr ⟨_, hl, ?_⟩
      rw [token_number_eq_error_iff, Lexeme.readNumber?_eq_none_iff hl.1]
      exact ⟨.inr hunvalued, rfl⟩

theorem stops_iff_of_front?_eq_none {c : Char} {r : Text} (h : Lexeme.front? c r = none)
    (f : Fault) : Stops (c :: r) f ↔ f = .invalidCharacter c := by
  constructor
  · intro hstops
    rcases exists_of_stops hstops with ⟨d, u, hdu, -, rfl⟩ | ⟨l, hl, -⟩
    · cases hdu
      rfl
    · rw [Lexeme.longest_iff, h] at hl
      cases hl
  · rintro rfl
    exact .inl (.character ((front?_eq_none_iff c r).mp h))

theorem stops_iff_of_longest {t : Text} {l : Lexeme} (hl : Longest t l) (f : Fault) :
    Stops t f ↔ l.token = .error f := by
  constructor
  · intro hstops
    rcases exists_of_stops hstops with ⟨c, r, rfl, hc, -⟩ | ⟨m, hm, herror⟩
    · rw [Lexeme.longest_iff, (front?_eq_none_iff c r).mpr hc] at hl
      cases hl
    · rw [hl.unique hm]
      exact herror
  · intro herror
    have hmatches := hl.1
    obtain ⟨r, rfl⟩ := hl.2.1
    obtain ⟨k, w⟩ := l
    cases k with
    | number =>
      rw [token_number_eq_error_iff, Lexeme.readNumber?_eq_none_iff hmatches] at herror
      obtain ⟨⟨s, rfl, hs⟩ | hunvalued, rfl⟩ := herror
      · exact .inl (.separator hs ((longest_separator_iff hs).mp hl))
      · exact .inr (.number hl rfl hunvalued)
    | word =>
      obtain ⟨⟨hconstant, htrig⟩, rfl⟩ := token_word_eq_error_iff.mp herror
      cases hmatches with
      | word hne hw => exact .inl (.word hne hw ((longest_word_iff hne hw).mp hl) hconstant htrig)
    | sign | opening | closing | space => cases herror

theorem not_stops_of_token {t : Text} {l : Lexeme} {u : Option Token} (hl : Longest t l)
    (htoken : l.token = .ok u) (f : Fault) : ¬ Stops t f := by
  rw [stops_iff_of_longest hl, htoken]
  nofun

/-! ## The first such place -/

/-- a place where a lexeme is looked for: the beginning, and behind each lexeme -/
inductive Reaches : Text → Nat → Prop
  | start {t : Text} : Reaches t 0
  | next {t : Text} {l : Lexeme} {p : Nat} : Longest t l → Reaches (t.drop l.text.length) p →
      Reaches t (l.text.length + p)

/-- at this place, and at none that is reached before it -/
structure Meets (S : Text → Fault → Prop) (t : Text) (p : Nat) (f : Fault) : Prop where
  reaches : Reaches t p
  here : S (t.drop p) f
  first : ∀ q < p, Reaches t q → ∀ g, ¬ S (t.drop q) g

section
variable {S : Text → Fault → Prop} {t : Text}

theorem meets_iff_of_here {f : Fault} (h : S t f) (p : Nat) (g : Fault) :
    Meets S t p g ↔ p = 0 ∧ S t g := by
  constructor
  · intro hmeets
    obtain rfl : p = 0 := by
      by_contra hp
      exact hmeets.first 0 (Nat.pos_of_ne_zero hp) .start f h
    exact ⟨rfl, hmeets.here⟩
  · rintro ⟨rfl, hg⟩
    exact ⟨.start, hg, nofun⟩

theorem meets_iff_of_longest {l : Lexeme} (hl : Longest t l) (h : ∀ f, ¬ S t f) (p : Nat)
    (f : Fault) : Meets S t p f ↔
      ∃ q, p = l.text.length + q ∧ Meets S (t.drop l.text.length) q f := by
  constructor
  · rintro ⟨hreaches, hhere, hfirst⟩
    cases hreaches with
    | start => exact absurd hhere (h f)
    | @next _ m q hm hreaches =>
      obtain rfl := hl.unique hm
      rw [← List.drop_drop] at hhere
      refine ⟨q, rfl, hreaches, hhere, fun q' hq' hreaches' => ?_⟩
      rw [List.drop_drop]
      exact hfirst _ (Nat.add_lt_add_left hq' _) (.next hl hreaches')
  · rintro ⟨q, rfl, hreaches, hhere, hfirst⟩
    rw [List.drop_drop] at hhere
    refine ⟨.next hl hreaches, hhere, fun q' hq' hreaches' => ?_⟩
    cases hreaches' with
    | start => exact h
    | next hm hreaches' =>
      obtain rfl := hl.unique hm
      rw [← List.drop_drop]
      exact hfirst _ (Nat.lt_of_add_lt_add_left hq') hreaches'

end

theorem scan_of_longest {t : Text} {l : Lexeme} (hl : Longest t l) :
    scan t =
      match l.token with
      | .error f => ([], some f)
      | .ok none => scan (t.drop l.text.length)
      | .ok (some u) => (u :: (scan (t.drop l.text.length)).1,
          (scan (t.drop l.text.length)).2) := by
  cases t with
  | nil => exact absurd hl (Lexeme.not_longest_nil l)
  | cons c r => exact scan_cons (Lexeme.longest_iff.mp hl)

/-- a text that ends behind its first lexeme or later is cut in front of its end -/
theorem scan_take {t : Text} {l : Lexeme} (hl : Longest t l) (q : Nat) :
    scan (t.take (l.text.length + q)) =
      match l.token with
      | .error f => ([], some f)
      | .ok none => scan ((t.drop l.text.length).take q)
      | .ok (some u) => (u :: (scan ((t.drop l.text.length).take q)).1,
          (scan ((t.drop l.text.length).take q)).2) := by
  rw [scan_of_longest (Lexeme.longest_take hl (Nat.le_add_right _ q)), List.drop_take,
    Nat.add_sub_cancel_left]

/-- the fault is the one that is met first -/
theorem scan_fault_iff (t : Text) (f : Fault) :
    (scan t).2 = some f ↔ ∃ p, Meets Stops t p f := by
  fun_induction scan t with
  | case1 =>
    constructor
    · intro hfault
      cases hfault
    · rintro ⟨p, -, hhere, -⟩
      rw [List.drop_nil] at hhere
      exact absurd hhere (not_stops_nil f)
  | case2 c r hfront =>
    have hstops := stops_iff_of_front?_eq_none hfront
    simp [meets_iff_of_here ((hstops _).mpr rfl), hstops, eq_comm]
  | case3 c r l hfront g htoken =>
    have hstops := stops_iff_of_longest (Lexeme.longest_iff.mpr hfront)
    simp [meets_iff_of_here ((hstops g).mpr htoken), hstops, htoken]
  | case4 c r l hfront htoken ih =>
    have hl := Lexeme.longest_iff.mpr hfront
    simp [meets_iff_of_longest hl (not_stops_of_token hl htoken), ih]
  | case5 c r l hfront u htoken rest ih =>
    have hl := Lexeme.longest_iff.mpr hfront
    simpa [meets_iff_of_longest hl (not_stops_of_token hl htoken)] using ih

/-- up to there a text is cut as if it ended there -/
theorem scan_take_of_meets (t : Text) {p : Nat} {f : Fault} (h : Meets Stops t p f) :
    scan (t.take p) = ((scan t).1, none) := by
  fun_induction scan t generalizing p with
  | case1 =>
    have hhere := h.here
    rw [List.drop_nil] at hhere
    exact absurd hhere (not_stops_nil f)
  | case2 c r hfront =>
    have hstops := stops_iff_of_front?_eq_none hfront
    obtain ⟨rfl, -⟩ := (meets_iff_of_here ((hstops _).mpr rfl) p f).mp h
    rw [List.take_zero, scan]
  | case3 c r l hfront g htoken =>
    have hstops := stops_iff_of_longest (Lexeme.longest_iff.mpr hfront)
    obtain ⟨rfl, -⟩ := (meets_iff_of_here ((hstops g).mpr htoken) p f).mp h
    rw [List.take_zero, scan]
  | case4 c r l hfront htoken ih =>
    have hl := Lexeme.longest_iff.mpr hfront
    obtain ⟨q, rfl, hq⟩ := (meets_iff_of_longest hl (not_stops_of_token hl htoken) p f).mp h
    rw [scan_take hl, htoken]
    exact ih hq
  | case5 c r l hfront u htoken rest =>
    rename_i ih
    have hl := Lexeme.longest_iff.mpr hfront
    obtain ⟨q, rfl, hq⟩ := (meets_iff_of_longest hl (not_stops_of_token hl htoken) p f).mp h
    rw [scan_take hl, htoken, ih hq]

/-- **Cutting stops where a character, a separator, a word or a numeral stops it**: the fault that
is reported is the one that is met first, and the tokens in front of it are those of the text in
front of that place. -/
theorem scan_stops (t : Text) :
    (∀ f, (scan t).2 = some f ↔ ∃ p, Meets Stops t p f) ∧
      ∀ p f, Meets Stops t p f → ofText (t.take p) = .ok (scan t).1 :=
  ⟨scan_fault_iff t, fun _ _ h => ofText_eq_ok_iff.mpr (scan_take_of_meets t h)⟩

/-- `2×sinh(30)` is cut up to the word `sinh`. -/
theorem scan_stops_sinh :
    Meets Stops "2×sinh(30)".toList 2 (.unknownSymbol "sinh".toList) ∧
      (scan "2×sinh(30)".toList).2 = some (.unknownSymbol "sinh".toList) ∧
      ofText "2×".toList = .ok (scan "2×sinh(30)".toList).1 := by
  have htwo : Longest "2×sinh(30)".toList ⟨.number, ['2']⟩ :=
    Lexeme.longest_iff.mpr (by decide +kernel)
  have htimes : Longest "×sinh(30)".toList ⟨.sign, ['×']⟩ :=
    Lexeme.longest_iff.mpr (by decide +kernel)
  have hsinh : Longest "sinh(30)".toList ⟨.word, "sinh".toList⟩ :=
    Lexeme.longest_iff.mpr (by decide +kernel)
  have hstops : Stops "sinh(30)".toList (.unknownSymbol "sinh".toList) :=
    (stops_iff_of_longest hsinh _).mpr (by decide +kernel)
  have hmeets : Meets Stops "2×sinh(30)".toList 2 (.unknownSymbol "sinh".toList) := by
    rw [meets_iff_of_longest htwo (not_stops_of_token (u := some ⟨.number, ['2'], some 2⟩) htwo
      (by decide +kernel))]
    refine ⟨1, rfl, ?_⟩
    show Meets Stops "×sinh(30)".toList 1 _
    rw [meets_iff_of_longest htimes (not_stops_of_token htimes rfl)]
    refine ⟨0, rfl, ?_⟩
    exact (meets_iff_of_here hstops 0 _).mpr ⟨rfl, hstops⟩
  obtain ⟨hfault, hbefore⟩ := scan_stops "2×sinh(30)".toList
  exact ⟨hmeets, (hfault _).mpr ⟨2, hmeets⟩, hbefore 2 _ hmeets⟩

/-- `1𑛓` is one numeral, and none of the first three reasons applies to it: its second character is
a digit of a script whose digits have no value. -/
theorem scan_unvalued :
    ¬ ((∃ f, (scan ['1', Char.ofNat 0x116D3]).2 = some f) ↔
      ∃ p f, Meets Stuck ['1', Char.ofNat 0x116D3] p f) := by
  have hl : Longest ['1', Char.ofNat 0x116D3] ⟨.number, ['1', Char.ofNat 0x116D3]⟩ :=
    Lexeme.longest_iff.mpr (by decide +kernel)
  have htoken : Lexeme.token ⟨.number, ['1', Char.ofNat 0x116D3]⟩ =
      .error (.invalidNumber ['1', Char.ofNat 0x116D3]) := by decide +kernel
  intro h
  obtain ⟨p, f, hreaches, hhere, -⟩ := h.mp ⟨_, by rw [scan_of_longest hl, htoken]⟩
  cases hreaches with
  | start => exact not_stuck_of_isDigit (by decide) hhere
  | @next _ l q hl' hq =>
    obtain rfl := hl.unique hl'
    rw [← List.drop_drop] at hhere
    exact not_stuck_nil f (by simpa using hhere)

end Token
end PocketCalc
