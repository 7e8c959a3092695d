import PocketCalc.Format
import PocketCalc.Proofs.Lexing
import PocketCalc.Proofs.Representable

/-!
# What written numbers denote

A row of digits is written and read in the same way, zeros at the end of a fraction change nothing,
and a power of ten is read as it is written.

* `ofDigits_natText`           the digits of a number denote it;
* `trimPlaces_eq`              a fraction without the zeros at its end;
* `Denotes`                    the sign and the magnitude that a text denotes;
* `isPowerText_digits`         the power of ten that is written;
* `denotes_numeral`            digits around a point, and a power of ten;
* `Denotes.readNumber?`        the double that is read.
-/

namespace PocketCalc
open Text

/-! ## Digits -/

theorem ofDigits_append (ds es : List Nat) :
    ofDigits (ds ++ es) = ofDigits ds * 10 ^ es.length + ofDigits es := by
  have hfold : ∀ (es : List Nat) (n : Nat),
      es.foldl (fun n d => 10 * n + d) n = n * 10 ^ es.length + ofDigits es := by
    intro es
    induction es with
    | nil => intro n; simp [ofDigits]
    | cons e es ih =>
      intro n
      have hcons : ofDigits (e :: es) = (10 * 0 + e) * 10 ^ es.length + ofDigits es := ih _
      rw [List.foldl_cons, ih, hcons, List.length_cons, pow_succ]
      ring
  rw [ofDigits, List.foldl_append, hfold]
  rfl

theorem digitValues_append (s t : Text) : digitValues (s ++ t) = digitValues s ++ digitValues t :=
  List.filterMap_append

/-- a digit is neither a point nor in front of a power of ten -/
theorem ne_of_isAsciiDigit {c : Char} (h : isAsciiDigit c = true) : c ≠ '.' ∧ c ≠ 'E' := by
  have hall : ∀ c ∈ ['0', '1', '2', '3', '4', '5', '6', '7', '8', '9'], c ≠ '.' ∧ c ≠ 'E' := by
    decide
  exact hall c (mem_digits_of_isAsciiDigit h)

theorem digitValue?_of_isAsciiDigit {c : Char} (h : isAsciiDigit c = true) :
    digitValue? c = some (c.toNat - '0'.toNat) := by
  have hall : ∀ c ∈ ['0', '1', '2', '3', '4', '5', '6', '7', '8', '9'],
      digitValue? c = some (c.toNat - '0'.toNat) := by decide
  exact hall c (mem_digits_of_isAsciiDigit h)

theorem digitValues_of_isAsciiDigits {t : Text} (h : IsAsciiDigits t) :
    digitValues t = t.map fun c => c.toNat - '0'.toNat := by
  induction t with
  | nil => rfl
  | cons c t ih =>
    have hc := digitValue?_of_isAsciiDigit (h c List.mem_cons_self)
    rw [digitValues, List.filterMap_cons_some hc, List.map_cons]
    exact congrArg _ (ih fun d hd => h d (List.mem_cons_of_mem c hd))

theorem length_digitValues {t : Text} (h : IsAsciiDigits t) :
    (digitValues t).length = t.length := by
  rw [digitValues_of_isAsciiDigits h, List.length_map]

theorem ofDigits_eq_ofDigitChars {t : Text} (h : IsAsciiDigits t) :
    ofDigits (digitValues t) = Nat.ofDigitChars 10 t 0 := by
  rw [digitValues_of_isAsciiDigits h, ofDigits, List.foldl_map, Nat.ofDigitChars_eq_foldl]

theorem isAsciiDigits_natText (n : Nat) : IsAsciiDigits (natText n) := by
  intro c hc
  have hdigit : c.isDigit = true := Nat.isDigit_of_mem_toDigits (by decide) (by decide) hc
  simp only [Char.isDigit, Bool.and_eq_true, decide_eq_true_eq] at hdigit
  rw [isAsciiDigit, Bool.and_eq_true, decide_eq_true_eq, decide_eq_true_eq]
  exact hdigit

/-- the digits of a number denote it -/
theorem ofDigits_natText (n : Nat) : ofDigits (digitValues (natText n)) = n := by
  rw [ofDigits_eq_ofDigitChars (isAsciiDigits_natText n), natText, Nat.ofDigitChars_ten_toDigits]

theorem isAsciiDigits_replicate (k : Nat) : IsAsciiDigits (List.replicate k '0') := by
  intro c hc
  rw [List.eq_of_mem_replicate hc]
  rfl

theorem isAsciiDigits_append {s t : Text} :
    IsAsciiDigits (s ++ t) ↔ IsAsciiDigits s ∧ IsAsciiDigits t :=
  List.forall_mem_append

theorem ofDigits_zeros (k : Nat) : ofDigits (digitValues (List.replicate k '0')) = 0 := by
  rw [ofDigits_eq_ofDigitChars (isAsciiDigits_replicate k), Nat.ofDigitChars_replicate_zero,
    Nat.mul_zero]

/-- zeros in front of digits weigh nothing -/
theorem ofDigits_zeros_append (k : Nat) (t : Text) :
    ofDigits (digitValues (List.replicate k '0' ++ t)) = ofDigits (digitValues t) := by
  rw [digitValues_append, ofDigits_append, ofDigits_zeros, Nat.zero_mul, Nat.zero_add]

/-! ## Fractions -/

/-- the fraction with these digits, the zeros at its end left out -/
def fractionText (r : Text) : Text :=
  if trimEndWhile (· == '0') r = [] then [] else '.' :: trimEndWhile (· == '0') r

theorem trimEndWhile_append (p : Char → Bool) (s t : Text) :
    trimEndWhile p (s ++ t) =
      if trimEndWhile p t = [] then trimEndWhile p s else s ++ trimEndWhile p t := by
  unfold trimEndWhile
  rw [List.reverse_append, List.dropWhile_append]
  simp only [List.isEmpty_iff, List.reverse_eq_nil_iff]
  split
  · rfl
  · rw [List.reverse_append, List.reverse_reverse]

theorem trimEndWhile_eq_self {p : Char → Bool} {t : Text} (h : ∀ c ∈ t.getLast?, p c = false) :
    trimEndWhile p t = t := by
  rcases List.eq_nil_or_concat t with rfl | ⟨s, c, rfl⟩
  · rfl
  · have hc := h c (by simp)
    simp [trimEndWhile, hc]

theorem mem_of_mem_trimEndWhile {p : Char → Bool} {t : Text} {c : Char}
    (h : c ∈ trimEndWhile p t) : c ∈ t := by
  rw [← trimEndWhile_append_endingWhile p t]
  exact List.mem_append_left _ h

theorem IsAsciiDigits.trimEndWhile {t : Text} (h : IsAsciiDigits t) (p : Char → Bool) :
    IsAsciiDigits (trimEndWhile p t) :=
  fun c hc => h c (mem_of_mem_trimEndWhile hc)

/-- zeros behind digits weigh nothing -/
theorem endingWhile_zeros (t : Text) : ∃ k, endingWhile (· == '0') t = List.replicate k '0' := by
  refine ⟨_, List.eq_replicate_of_mem fun c hc => ?_⟩
  rw [endingWhile, List.mem_reverse] at hc
  simpa using List.mem_takeWhile_imp hc

/-- a decimal numeral loses the zeros at its end, and the point if no place is left -/
theorem trimPlaces_eq {w r : Text} (hw : ∀ c ∈ w.getLast?, c ≠ '.') (hr : IsAsciiDigits r) :
    Format.trimPlaces (w ++ '.' :: r) = w ++ fractionText r := by
  have hzeros :
      trimEndWhile (· == '0') (w ++ '.' :: r) = w ++ '.' :: trimEndWhile (· == '0') r := by
    have hpoint : trimEndWhile (· == '0') (w ++ ['.']) = w ++ ['.'] :=
      trimEndWhile_eq_self (by simp)
    rw [List.append_cons, trimEndWhile_append, hpoint]
    split
    · rename_i hnil
      rw [hnil]
    · rw [← List.append_cons]
  rw [Format.trimPlaces, hzeros, fractionText]
  split
  · rename_i hnil
    have hlast : trimEndWhile (· == '.') w = w :=
      trimEndWhile_eq_self fun c hc => by simpa using hw c hc
    rw [hnil, trimEndWhile_append, List.append_nil]
    exact hlast
  · rename_i hne
    apply trimEndWhile_eq_self
    intro c hc
    obtain ⟨s, d, hsd⟩ := (List.eq_nil_or_concat _).resolve_left hne
    have hd : isAsciiDigit d = true := hr.trimEndWhile _ d (by rw [hsd]; simp)
    have hend : w ++ '.' :: (s ++ [d]) = (w ++ '.' :: s) ++ [d] := by
      rw [List.append_assoc, List.cons_append]
    rw [hsd, List.concat_eq_append, hend, List.getLast?_concat] at hc
    cases hc
    exact beq_false_of_ne (ne_of_isAsciiDigit hd).1

theorem drop_fractionText (r : Text) : (fractionText r).drop 1 = trimEndWhile (· == '0') r := by
  unfold fractionText
  split
  · rename_i hnil
    rw [hnil]
    rfl
  · rfl

theorem isAsciiFraction_fractionText {r : Text} (hr : IsAsciiDigits r) :
    IsAsciiFraction (fractionText r) := by
  unfold fractionText
  split
  · exact .inl rfl
  · exact .inr ⟨_, rfl, hr.trimEndWhile _⟩

theorem IsAsciiFraction.digits {f : Text} (h : IsAsciiFraction f) : IsAsciiDigits (f.drop 1) := by
  rcases h with rfl | ⟨ds, rfl, hds⟩
  · exact isAsciiDigits_replicate 0
  · exact hds

/-- zeros behind the digits are in the power of ten as well -/
theorem ofDigits_append_zeros (t : Text) (k : Nat) (e : Int) :
    (ofDigits (digitValues (t ++ List.replicate k '0')) : Rat) * 10 ^ (e - k) =
      ofDigits (digitValues t) * 10 ^ e := by
  have hzeros := length_digitValues (isAsciiDigits_replicate k)
  rw [List.length_replicate] at hzeros
  rw [digitValues_append, ofDigits_append, ofDigits_zeros, hzeros, Nat.add_zero, Nat.cast_mul,
    Nat.cast_pow, Nat.cast_ofNat, zpow_sub₀ (by norm_num), zpow_natCast]
  field_simp

/-- the zeros that are left out weigh nothing -/
theorem fraction_value (w : Text) {r : Text} (e : Int) :
    (ofDigits (digitValues (w ++ (fractionText r).drop 1)) : Rat) *
        10 ^ (e - ((fractionText r).drop 1).length) =
      ofDigits (digitValues (w ++ r)) * 10 ^ (e - r.length) := by
  obtain ⟨k, hk⟩ := endingWhile_zeros r
  have hsplit := trimEndWhile_append_endingWhile (· == '0') r
  rw [hk] at hsplit
  rw [drop_fractionText]
  generalize trimEndWhile (· == '0') r = s at hsplit
  rw [← hsplit, ← List.append_assoc, List.length_append, List.length_replicate, Nat.cast_add,
    ← sub_sub, ofDigits_append_zeros]

/-! ## Powers of ten -/

/-- the text behind the digits: a power of ten, or nothing for the power `0` -/
def IsPowerText (t : Text) (e : Int) : Prop := IsVerbatim t ∧ exponent? t = some e

theorem isPowerText_nil : IsPowerText [] 0 := ⟨isVerbatim_nil, rfl⟩

theorem natText_ne_nil (n : Nat) : natText n ≠ [] := Nat.toDigits_ne_nil

theorem IsAsciiDigits.isVerbatim {t : Text} (h : IsAsciiDigits t) : IsVerbatim t :=
  fun c hc => (isAsciiDigit_classes (h c hc)).2.2

/-- a power of ten is read as it is written -/
theorem isPowerText_digits {c : Char} (hc : c = 'e' ∨ c = 'E') (e : Int) {ds : Text}
    (hds : IsAsciiDigits ds) (hne : ds ≠ []) (hvalue : ofDigits (digitValues ds) = e.natAbs) :
    IsPowerText (c :: (if e < 0 then '-' else '+') :: ds) e := by
  have hpower : (decide (c = 'e') || decide (c = 'E')) = true := by simpa using hc
  have hdigits := takeDigits_of_isDigits hds.isDigits
  have hsome := digitValues_ne_nil hds.isDigits hne
  have hsign : takeSign ((if e < 0 then '-' else '+') :: ds) = (decide (e < 0), ds) := by
    by_cases h : e < 0
    · rw [if_pos h, decide_eq_true h]
      rfl
    · rw [if_neg h, decide_eq_false h]
      rfl
  constructor
  · refine isVerbatim_cons.mpr ⟨?_, isVerbatim_cons.mpr ⟨?_, hds.isVerbatim⟩⟩
    · rcases hc with rfl | rfl <;> decide
    · split <;> decide
  · simp only [exponent?, hsign, hdigits, hpower, if_true]
    cases hvs : digitValues ds with
    | nil => exact absurd hvs hsome
    | cons d vs =>
      rw [hvs] at hvalue
      simp only [hvalue, decide_eq_true_eq]
      congr 1
      split <;> omega

theorem isPowerText_signedText (e : Int) : IsPowerText ('E' :: Format.signedText e) e :=
  isPowerText_digits (.inr rfl) e (isAsciiDigits_natText _) (natText_ne_nil _) (ofDigits_natText _)

/-! ## Texts -/

/-- the sign and the magnitude that a text denotes -/
def Denotes (t : Text) (negative : Bool) (q : Rat) : Prop :=
  ∃ d : Decimal, Decimal.ofNumeral? ((trim t).map pointForComma) = some d ∧
    d.negative = negative ∧ d.magnitude = q

theorem isVerbatim_withSign {t : Text} (h : IsVerbatim t) (negative : Bool) :
    IsVerbatim (withSign negative t) := by
  cases negative with
  | false => exact h
  | true => exact isVerbatim_cons.mpr ⟨by decide, h⟩

theorem IsAsciiFraction.isVerbatim {f : Text} (h : IsAsciiFraction f) : IsVerbatim f := by
  rcases h with rfl | ⟨ds, rfl, hds⟩
  · exact isVerbatim_nil
  · exact isVerbatim_cons.mpr ⟨by decide, hds.isVerbatim⟩

/-- A row of digits, a point with digits behind it or none, and a power of ten. -/
theorem denotes_numeral (negative : Bool) {w f x : Text} {e : Int} (hne : w ≠ [])
    (hw : IsAsciiDigits w) (hf : IsAsciiFraction f) (hx : IsPowerText x e) :
    Denotes (withSign negative (w ++ (f ++ x))) negative
      (ofDigits (digitValues (w ++ f.drop 1)) * 10 ^ (e - (f.drop 1).length)) := by
  have hverbatim : IsVerbatim (withSign negative (w ++ (f ++ x))) :=
    isVerbatim_withSign (isVerbatim_append.mpr
      ⟨hw.isVerbatim, isVerbatim_append.mpr ⟨hf.isVerbatim, hx.1⟩⟩) negative
  have hsign : ∀ t, withSign negative t = (if negative then ['-'] else []) ++ t := by
    intro t
    cases negative <;> rfl
  have hparts := Decimal.ofNumeral?_parts (s := if negative then ['-'] else [])
    (by cases negative <;> simp [IsSign]) hw.isDigits hf.isFraction (isPower_of_exponent? hx.2)
    (.inl hne)
  rw [hx.2, Option.getD_some, ← digitValues_append, length_digitValues hf.digits] at hparts
  refine ⟨⟨negative, _, _⟩, ?_, rfl, rfl⟩
  rw [hverbatim.trim_map, hsign, hparts]
  cases negative <;> rfl

/-- digits around a point and a power of ten, the zeros at the end of the fraction left out -/
theorem denotes_parts (negative : Bool) {w r x : Text} {e : Int} (hne : w ≠ [])
    (hw : IsAsciiDigits w) (hr : IsAsciiDigits r) (hx : IsPowerText x e) :
    Denotes (withSign negative (w ++ (fractionText r ++ x))) negative
      (ofDigits (digitValues (w ++ r)) * 10 ^ (e - r.length)) := by
  rw [← fraction_value]
  exact denotes_numeral negative hne hw (isAsciiFraction_fractionText hr) hx

/-! ## Reading -/

/-- **A text that denotes a number is read as the nearest double.** -/
theorem Denotes.readNumber? {t : Text} {negative : Bool} {q : Rat} (h : Denotes t negative q)
    (hq : q < overflowAt) :
    ∃ y v, readNumber? t = some y ∧ Exact.ofFloat? y = some v ∧ v.negative = negative ∧
      v.magnitude = roundedMagnitude q := by
  obtain ⟨d, hd, rfl, rfl⟩ := h
  obtain ⟨v, hv⟩ := Decimal.ofFloat?_toFloat hq
  refine ⟨d.toFloat, v, ?_, hv⟩
  rw [PocketCalc.readNumber?, hd, Option.map_some]

/-- a number that is too large is read as an infinity -/
theorem Denotes.readNumber?_infinity {t : Text} {negative : Bool} {q : Rat}
    (h : Denotes t negative q) (hq : overflowAt ≤ q) :
    PocketCalc.readNumber? t = some (signed negative infinity) := by
  obtain ⟨d, hd, rfl, rfl⟩ := h
  rw [PocketCalc.readNumber?, hd, Option.map_some, Decimal.toFloat_eq_infinity hq]

theorem readNumber_of_readNumber? {t : Text} {x : Float} (h : readNumber? t = some x) :
    readNumber t = .ok x := by
  have hvisible : isBlankText t = false := by
    rw [← Bool.not_eq_true]
    intro hblank
    rw [readNumber?_of_isBlankText hblank] at h
    cases h
  rw [readNumber, hvisible, h]
  rfl

end PocketCalc
