import PocketCalc.Proofs.Chain
import PocketCalc.Proofs.Shown

/-!
# Reduced numerals

A number has many decimal numerals, which differ in the zeros at the end of the places, and zero has
some with a sign.  What is left of a numeral without these is reduced, and no two reduced numerals
denote one number: the last place is not zero, so the number tells how many places there are, and
then it tells the digits.

* `eq_of_ofDigits_eq`        rows of digits of one length and one value are the same;
* `eq_of_unpadded`           and so are rows without zeros in front;
* `SignedNumeral`            a sign, digits without needless zeros in front, and places;
* `numberOf?`                the number that a text denotes;
* `SignedNumeral.reduced`    a numeral without needless places and without a sign in front of zero;
* `SignedNumeral.clean_text` that is what a numeral is written as;
* `SignedNumeral.IsReduced.text_eq`   reduced numerals of one number are the same;
* `clean_canonical`          all of it, for every numeral and any two of them.
-/

namespace PocketCalc
open Text

/-! ## Rows of digits -/

theorem ofDigits_eq_reverse (ds : List Nat) : ofDigits ds = Nat.ofDigits 10 ds.reverse := by
  rw [ofDigits, Nat.ofDigits_eq_foldr, List.foldr_reverse]
  congr 1
  funext n d
  show _ = d + 10 * n
  exact Nat.add_comm _ _

theorem digitValues_lt {t : Text} {d : Nat} (h : d ∈ digitValues t) : d < 10 := by
  obtain ⟨c, -, hc⟩ := List.mem_filterMap.mp h
  exact digitValue?_lt hc

/-- digits are told by their values -/
theorem map_digitChar {t : Text} (h : IsAsciiDigits t) : (digitValues t).map Nat.digitChar = t := by
  have hall : ∀ c ∈ ['0', '1', '2', '3', '4', '5', '6', '7', '8', '9'],
      Nat.digitChar (c.toNat - '0'.toNat) = c := by decide
  rw [digitValues_of_isAsciiDigits h, List.map_map]
  calc t.map (Nat.digitChar ∘ fun c => c.toNat - '0'.toNat) = t.map id :=
        List.map_congr_left fun c hc => hall c (mem_digits_of_isAsciiDigit (h c hc))
    _ = t := List.map_id t

theorem eq_of_digitValues_eq {s t : Text} (hs : IsAsciiDigits s) (ht : IsAsciiDigits t)
    (h : digitValues s = digitValues t) : s = t := by
  rw [← map_digitChar hs, h, map_digitChar ht]

/-- rows of digits of one length and one value are the same -/
theorem eq_of_ofDigits_eq {s t : Text} (hs : IsAsciiDigits s) (ht : IsAsciiDigits t)
    (hlength : s.length = t.length) (h : ofDigits (digitValues s) = ofDigits (digitValues t)) :
    s = t := by
  rw [ofDigits_eq_reverse, ofDigits_eq_reverse] at h
  refine eq_of_digitValues_eq hs ht (List.reverse_injective ?_)
  refine Nat.ofDigits_inj_of_len_eq (by decide) ?_ ?_ ?_ h
  · rw [List.length_reverse, List.length_reverse, length_digitValues hs, length_digitValues ht,
      hlength]
  · exact fun d hd => digitValues_lt (List.mem_reverse.mp hd)
  · exact fun d hd => digitValues_lt (List.mem_reverse.mp hd)

theorem eq_zeros_of_ofDigits_eq_zero {t : Text} (ht : IsAsciiDigits t)
    (h : ofDigits (digitValues t) = 0) : t = List.replicate t.length '0' :=
  eq_of_ofDigits_eq ht (isAsciiDigits_replicate _) List.length_replicate.symm
    (h.trans (ofDigits_zeros _).symm)

/-- digits without a zero in front, unless that is all -/
def Unpadded (t : Text) : Prop := t = ['0'] ∨ t ≠ [] ∧ t.head? ≠ some '0'

instance (t : Text) : Decidable (Unpadded t) :=
  inferInstanceAs (Decidable (t = ['0'] ∨ t ≠ [] ∧ t.head? ≠ some '0'))

theorem Unpadded.ne_nil {t : Text} (h : Unpadded t) : t ≠ [] := by
  rcases h with rfl | ⟨hne, -⟩
  · exact List.cons_ne_nil _ _
  · exact hne

/-- a shorter row is the longer one without zeros in front -/
theorem Unpadded.length_le {s t : Text} (ht' : Unpadded t) (hs : IsAsciiDigits s)
    (ht : IsAsciiDigits t) (hne : s ≠ [])
    (h : ofDigits (digitValues s) = ofDigits (digitValues t)) : t.length ≤ s.length := by
  by_contra hlt
  have hpos := List.length_pos_of_ne_nil hne
  obtain ⟨k, hk⟩ : ∃ k, t.length = k + 1 + s.length := ⟨t.length - s.length - 1, by omega⟩
  have hpadded : t = List.replicate (k + 1) '0' ++ s := by
    apply eq_of_ofDigits_eq ht (isAsciiDigits_append.mpr ⟨isAsciiDigits_replicate _, hs⟩)
    · rw [List.length_append, List.length_replicate, hk]
    · rw [ofDigits_zeros_append, h]
  rcases ht' with rfl | ⟨-, hhead⟩
  · rw [List.length_singleton] at hk
    omega
  · rw [hpadded] at hhead
    exact hhead rfl

/-- rows of digits without needless zeros in front are told by their values -/
theorem eq_of_unpadded {s t : Text} (hs' : Unpadded s) (ht' : Unpadded t) (hs : IsAsciiDigits s)
    (ht : IsAsciiDigits t) (h : ofDigits (digitValues s) = ofDigits (digitValues t)) : s = t :=
  eq_of_ofDigits_eq hs ht
    (le_antisymm (hs'.length_le ht hs ht'.ne_nil h.symm) (ht'.length_le hs ht hs'.ne_nil h)) h

theorem trimEndWhile_zeros (k : Nat) : trimEndWhile (· == '0') (List.replicate k '0') = [] := by
  rw [trimEndWhile, List.reverse_replicate, List.dropWhile_replicate_eq_filter_not]
  simp

theorem getLast?_trimEndWhile (p : Char → Bool) (t : Text) :
    ∀ c ∈ (trimEndWhile p t).getLast?, p c = false := by
  intro c hc
  rw [trimEndWhile, List.getLast?_reverse] at hc
  have hfirst := List.head?_dropWhile_not p t.reverse
  rw [Option.mem_def.mp hc] at hfirst
  simpa using hfirst

/-! ## Numerals -/

/-- the number that a text denotes -/
def numberOf? (t : Text) : Option Rat :=
  (Decimal.ofNumeral? ((trim t).map pointForComma)).map Decimal.value

/-- A numeral: a minus sign or none, digits without needless zeros in front, and behind a point the
places, of which there may be none. -/
structure SignedNumeral where
  negative : Bool
  whole : Text
  places : Text
  whole_digits : IsAsciiDigits whole
  places_digits : IsAsciiDigits places
  whole_unpadded : Unpadded whole

namespace SignedNumeral

variable {m n : SignedNumeral}

/-- the point and the places behind it -/
def pointed (r : Text) : Text := if r = [] then [] else '.' :: r

def text (m : SignedNumeral) : Text := withSign m.negative (m.whole ++ pointed m.places)

/-- all the digits as one number -/
def units (m : SignedNumeral) : Nat := ofDigits (digitValues (m.whole ++ m.places))

def magnitude (m : SignedNumeral) : Rat := m.units * 10 ^ (0 - m.places.length : Int)

def value (m : SignedNumeral) : Rat := if m.negative then -m.magnitude else m.magnitude

theorem drop_pointed (r : Text) : (pointed r).drop 1 = r := by
  unfold pointed
  split
  · rename_i hnil
    exact hnil.symm
  · rfl

theorem isAsciiFraction_pointed {r : Text} (hr : IsAsciiDigits r) :
    IsAsciiFraction (pointed r) := by
  unfold pointed
  split
  · exact .inl rfl
  · exact .inr ⟨r, rfl, hr⟩

/-- a numeral denotes its value -/
theorem numberOf?_text (m : SignedNumeral) : numberOf? m.text = some m.value := by
  obtain ⟨d, hd, hsign, hmagnitude⟩ := denotes_numeral m.negative m.whole_unpadded.ne_nil
    m.whole_digits (isAsciiFraction_pointed m.places_digits) isPowerText_nil
  rw [List.append_nil] at hd
  rw [drop_pointed] at hmagnitude
  rw [numberOf?, text, hd, Option.map_some, Decimal.value, hsign, hmagnitude]
  rfl

/-! ## Reducing -/

/-- the numeral without the zeros at the end of its places -/
def trimmed (m : SignedNumeral) : SignedNumeral :=
  { m with
    places := trimEndWhile (· == '0') m.places
    places_digits := m.places_digits.trimEndWhile _ }

/-- the numeral without these zeros, and without a sign if it is zero -/
def reduced (m : SignedNumeral) : SignedNumeral :=
  { m.trimmed with negative := m.negative && decide (m.units ≠ 0) }

theorem magnitude_trimmed (m : SignedNumeral) : m.trimmed.magnitude = m.magnitude := by
  have hvalue := fraction_value m.whole (r := m.places) 0
  rw [drop_fractionText] at hvalue
  exact hvalue

theorem magnitude_eq_zero_iff (m : SignedNumeral) : m.magnitude = 0 ↔ m.units = 0 := by
  have hpow : (10 : Rat) ^ (0 - m.places.length : Int) ≠ 0 := by positivity
  rw [magnitude, mul_eq_zero, Nat.cast_eq_zero]
  exact or_iff_left hpow

theorem units_trimmed_eq_zero_iff (m : SignedNumeral) : m.trimmed.units = 0 ↔ m.units = 0 := by
  rw [← magnitude_eq_zero_iff, ← magnitude_eq_zero_iff, magnitude_trimmed]

/-- reducing a numeral does not change the number -/
theorem value_reduced (m : SignedNumeral) : m.reduced.value = m.value := by
  have hmagnitude : m.reduced.magnitude = m.magnitude := m.magnitude_trimmed
  unfold value
  rw [hmagnitude]
  by_cases hzero : m.units = 0
  · rw [(magnitude_eq_zero_iff m).mpr hzero, neg_zero, ite_self, ite_self]
  · have hsign : m.reduced.negative = m.negative := by
      show (m.negative && decide (m.units ≠ 0)) = m.negative
      rw [decide_eq_true hzero, Bool.and_true]
    rw [hsign]

/-- zero is written with one digit, and with places that are zeros -/
theorem parts_of_units_eq_zero (h : m.units = 0) :
    m.whole = ['0'] ∧ m.places = List.replicate m.places.length '0' := by
  have hdigits := isAsciiDigits_append.mpr ⟨m.whole_digits, m.places_digits⟩
  have hzeros := eq_zeros_of_ofDigits_eq_zero hdigits h
  rw [List.length_append, List.replicate_add] at hzeros
  obtain ⟨hwhole, hplaces⟩ := List.append_inj hzeros (by rw [List.length_replicate])
  refine ⟨eq_of_unpadded m.whole_unpadded (.inl rfl) m.whole_digits (by decide) ?_, hplaces⟩
  rw [hwhole, ofDigits_zeros]
  rfl

/-- only negative zero without places is written so -/
theorem text_eq_minus_zero_iff (m : SignedNumeral) :
    m.text = ['-', '0'] ↔ m.negative = true ∧ m.whole = ['0'] ∧ m.places = [] := by
  constructor
  · intro htext
    obtain ⟨c, w, hw⟩ := List.exists_cons_of_ne_nil m.whole_unpadded.ne_nil
    have hc : isAsciiDigit c = true := m.whole_digits c (by rw [hw]; exact List.mem_cons_self)
    rw [text, hw] at htext
    cases hsign : m.negative with
    | false =>
      rw [hsign] at htext
      obtain rfl : c = '-' := (List.cons.inj htext).1
      exact absurd hc (by decide)
    | true =>
      rw [hsign] at htext
      obtain ⟨rfl, hrest⟩ := List.cons.inj (List.cons.inj htext).2
      obtain ⟨rfl, hpointed⟩ := List.append_eq_nil_iff.mp hrest
      refine ⟨rfl, hw, ?_⟩
      rw [← drop_pointed m.places, hpointed]
      rfl
  · rintro ⟨hsign, hwhole, hplaces⟩
    rw [text, hsign, hwhole, hplaces]
    rfl

/-- a numeral loses the zeros at the end of its places, and negative zero loses its sign -/
theorem clean_text_eq (m : SignedNumeral) :
    Format.clean m.text = if m.trimmed.text = ['-', '0'] then ['0'] else m.trimmed.text := by
  by_cases hplaces : m.places = []
  · have htrimmed : m.trimmed.text = m.text := by
      show withSign m.negative (m.whole ++ pointed (trimEndWhile (· == '0') m.places)) =
        withSign m.negative (m.whole ++ pointed m.places)
      rw [hplaces]
      rfl
    have hpointless : m.text.contains '.' = false := by
      rw [text, hplaces, pointed, if_pos rfl, List.append_nil, ← Bool.not_eq_true,
        List.contains_iff_mem]
      exact fun hmem => (Format.ne_of_mem_withSign m.whole_digits hmem).1 rfl
    have hempty : m.text ≠ [] := by
      rw [text]
      cases m.negative with
      | false => exact List.append_ne_nil_of_left_ne_nil m.whole_unpadded.ne_nil _
      | true => exact List.cons_ne_nil _ _
    rw [htrimmed, Format.clean, hpointless]
    simp [hempty]
  · have htext : m.text = withSign m.negative (m.whole ++ '.' :: m.places) := by
      rw [text, pointed, if_neg hplaces]
    rw [htext]
    exact Format.clean_pointed m.negative m.whole_digits m.places_digits m.whole_unpadded.ne_nil

/-- a numeral without the zeros at the end of its places is `-0` if it is negative zero -/
theorem trimmed_text_eq_minus_zero_iff (m : SignedNumeral) :
    m.trimmed.text = ['-', '0'] ↔ m.negative = true ∧ m.units = 0 := by
  rw [text_eq_minus_zero_iff]
  constructor
  · rintro ⟨hsign, hwhole, hplaces⟩
    refine ⟨hsign, (units_trimmed_eq_zero_iff m).mp ?_⟩
    rw [units, hwhole, hplaces]
    rfl
  · rintro ⟨hsign, hzero⟩
    obtain ⟨hwhole, hplaces⟩ := parts_of_units_eq_zero hzero
    refine ⟨hsign, hwhole, ?_⟩
    show trimEndWhile (· == '0') m.places = []
    rw [hplaces, trimEndWhile_zeros]

/-- **What is left of a numeral is the reduced one.** -/
theorem clean_text (m : SignedNumeral) : Format.clean m.text = m.reduced.text := by
  have hreduced : m.reduced.text =
      withSign (m.negative && decide (m.units ≠ 0)) (m.trimmed.whole ++ pointed m.trimmed.places) :=
    rfl
  rw [clean_text_eq, hreduced]
  split
  · rename_i htext
    obtain ⟨-, hwhole, hplaces⟩ := (text_eq_minus_zero_iff _).mp htext
    have hzero := ((trimmed_text_eq_minus_zero_iff m).mp htext).2
    rw [decide_eq_false (not_not.mpr hzero), Bool.and_false, hwhole, hplaces]
    rfl
  · rename_i htext
    have hsign : (m.negative && decide (m.units ≠ 0)) = m.negative := by
      cases hnegative : m.negative with
      | false => rfl
      | true =>
        exact decide_eq_true fun hzero =>
          htext ((trimmed_text_eq_minus_zero_iff m).mpr ⟨hnegative, hzero⟩)
    rw [hsign]
    rfl

/-! ## Reduced numerals -/

/-- no zero at the end of the places, and no sign in front of zero -/
structure IsReduced (m : SignedNumeral) : Prop where
  last_place : ∀ c ∈ m.places.getLast?, c ≠ '0'
  unsigned_zero : m.units = 0 → m.negative = false

theorem isReduced_reduced (m : SignedNumeral) : m.reduced.IsReduced where
  last_place c hc := by
    have hzero := getLast?_trimEndWhile _ _ c hc
    exact ne_of_beq_false hzero
  unsigned_zero h := by
    have hzero : m.units = 0 := (units_trimmed_eq_zero_iff m).mp h
    show (m.negative && decide (m.units ≠ 0)) = false
    rw [decide_eq_false (not_not.mpr hzero), Bool.and_false]

/-- the last place counts -/
theorem IsReduced.units_mod_ten (h : m.IsReduced) (hne : m.places ≠ []) : m.units % 10 ≠ 0 := by
  obtain ⟨r, c, hr⟩ := (List.eq_nil_or_concat m.places).resolve_left hne
  rw [List.concat_eq_append] at hr
  have hlast : c ≠ '0' := h.last_place c (by rw [hr, List.getLast?_concat]; rfl)
  have hdigit : isAsciiDigit c = true :=
    m.places_digits c (by rw [hr]; exact List.mem_append_right _ List.mem_cons_self)
  have hall : ∀ c ∈ ['0', '1', '2', '3', '4', '5', '6', '7', '8', '9'], c ≠ '0' →
      (c.toNat - '0'.toNat) % 10 ≠ 0 := by decide
  have hvalue : digitValues [c] = [c.toNat - '0'.toNat] :=
    List.filterMap_cons_some (digitValue?_of_isAsciiDigit hdigit)
  rw [units, hr, ← List.append_assoc, digitValues_append, ofDigits_append, hvalue,
    List.length_singleton, pow_one, Nat.mul_add_mod_self_right]
  show (10 * 0 + (c.toNat - '0'.toNat)) % 10 ≠ 0
  rw [Nat.mul_zero, Nat.zero_add]
  exact hall c (mem_digits_of_isAsciiDigit hdigit) hlast

theorem units_of_magnitude_eq (h : m.magnitude = n.magnitude) :
    m.units * 10 ^ n.places.length = n.units * 10 ^ m.places.length := by
  rw [magnitude, magnitude, zero_sub, zero_sub, zpow_neg, zpow_neg, zpow_natCast, zpow_natCast,
    ← div_eq_mul_inv, ← div_eq_mul_inv, div_eq_div_iff (by positivity) (by positivity)] at h
  exact_mod_cast h

/-- a reduced numeral has no more places than any other one of its magnitude -/
theorem IsReduced.places_le (hn : n.IsReduced) (h : m.magnitude = n.magnitude) :
    n.places.length ≤ m.places.length := by
  by_contra hlt
  obtain ⟨k, hk⟩ : ∃ k, n.places.length = k + 1 + m.places.length :=
    ⟨n.places.length - m.places.length - 1, by omega⟩
  have hunits := units_of_magnitude_eq h
  rw [hk, Nat.pow_add, ← Nat.mul_assoc] at hunits
  have hcancel := Nat.eq_of_mul_eq_mul_right (Nat.pow_pos (by decide)) hunits
  apply hn.units_mod_ten (List.ne_nil_of_length_pos (by omega))
  rw [← hcancel, Nat.pow_succ, ← Nat.mul_assoc, Nat.mul_mod_left]

theorem magnitude_nonneg (m : SignedNumeral) : 0 ≤ m.magnitude := by
  unfold magnitude
  positivity

theorem abs_value (m : SignedNumeral) : |m.value| = m.magnitude := by
  unfold value
  split
  · rw [abs_neg, abs_of_nonneg m.magnitude_nonneg]
  · exact abs_of_nonneg m.magnitude_nonneg

/-- the number tells the sign -/
theorem IsReduced.negative_iff (h : m.IsReduced) : m.negative = true ↔ m.value < 0 := by
  unfold value
  cases hsign : m.negative with
  | false => exact iff_of_false Bool.false_ne_true (not_lt.mpr m.magnitude_nonneg)
  | true =>
    have hpos : m.magnitude ≠ 0 := by
      rw [Ne, magnitude_eq_zero_iff]
      intro hzero
      rw [h.unsigned_zero hzero] at hsign
      cases hsign
    exact iff_of_true rfl (neg_neg_of_pos (lt_of_le_of_ne m.magnitude_nonneg hpos.symm))

/-- the digits in front of the point are the quotient of the units, the places the remainder -/
theorem units_div_mod (m : SignedNumeral) :
    m.units / 10 ^ m.places.length = ofDigits (digitValues m.whole) ∧
      m.units % 10 ^ m.places.length = ofDigits (digitValues m.places) := by
  have hlt := ofDigits_lt fun d hd => digitValues_lt (t := m.places) hd
  rw [length_digitValues m.places_digits] at hlt
  rw [units, digitValues_append, ofDigits_append, length_digitValues m.places_digits]
  constructor
  · rw [Nat.mul_comm, Nat.mul_add_div (Nat.pow_pos (by decide)), Nat.div_eq_of_lt hlt, Nat.add_zero]
  · rw [Nat.mul_add_mod_of_lt hlt]

/-- **Reduced numerals of one number are the same.** -/
theorem IsReduced.text_eq (hm : m.IsReduced) (hn : n.IsReduced) (h : m.value = n.value) :
    m.text = n.text := by
  have hsign : m.negative = n.negative := by
    rw [Bool.eq_iff_iff, hm.negative_iff, hn.negative_iff, h]
  have hmagnitude : m.magnitude = n.magnitude := by rw [← abs_value, h, abs_value]
  have hlength : m.places.length = n.places.length :=
    le_antisymm (hm.places_le hmagnitude.symm) (hn.places_le hmagnitude)
  have hunits := units_of_magnitude_eq hmagnitude
  rw [hlength] at hunits
  have hunits := Nat.eq_of_mul_eq_mul_right (Nat.pow_pos (by decide)) hunits
  obtain ⟨hmwhole, hmplaces⟩ := m.units_div_mod
  obtain ⟨hnwhole, hnplaces⟩ := n.units_div_mod
  have hwhole : m.whole = n.whole := by
    apply eq_of_unpadded m.whole_unpadded n.whole_unpadded m.whole_digits n.whole_digits
    rw [← hmwhole, ← hnwhole, hunits, hlength]
  have hplaces : m.places = n.places := by
    apply eq_of_ofDigits_eq m.places_digits n.places_digits hlength
    rw [← hmplaces, ← hnplaces, hunits, hlength]
  rw [text, text, hsign, hwhole, hplaces]

theorem IsReduced.reduced_text (h : m.IsReduced) : m.reduced.text = m.text :=
  m.isReduced_reduced.text_eq h m.value_reduced

/-- it ends in a digit, and in one other than zero if it has places -/
theorem IsReduced.last (h : m.IsReduced) :
    m.text.getLast? ≠ some '.' ∧ ('.' ∈ m.text → m.text.getLast? ≠ some '0') := by
  by_cases hplaces : m.places = []
  · have htext : m.text = withSign m.negative m.whole := by
      rw [text, hplaces, pointed, if_pos rfl, List.append_nil]
    have hpointless : '.' ∉ m.text := by
      rw [htext]
      exact fun hmem => (Format.ne_of_mem_withSign m.whole_digits hmem).1 rfl
    exact ⟨fun hlast => hpointless (List.mem_of_getLast? hlast), fun hmem => absurd hmem hpointless⟩
  · have htext : m.text = (withSign m.negative m.whole ++ ['.']) ++ m.places := by
      rw [text, pointed, if_neg hplaces, Format.withSign_append, List.append_assoc,
        List.singleton_append]
    rw [htext, List.getLast?_append_of_ne_nil _ hplaces]
    refine ⟨fun hlast => ?_, fun _ hlast => h.last_place '0' hlast rfl⟩
    exact absurd (m.places_digits '.' (List.mem_of_getLast? hlast)) (by decide)

theorem IsReduced.ne_minus_zero (h : m.IsReduced) : m.text ≠ ['-', '0'] := by
  rw [Ne, text_eq_minus_zero_iff]
  rintro ⟨hsign, hwhole, hplaces⟩
  have hzero : m.units = 0 := by
    rw [units, hwhole, hplaces]
    rfl
  rw [h.unsigned_zero hzero] at hsign
  cases hsign

/-! ## Main result -/

/-- **What is left of a numeral is a normal form of the number.**  A numeral with a sign or none,
digits without needless zeros and places or none becomes one of these with the same value, that does
not end in a point nor, if it has places, in a zero, and that is not negative zero; this one is left
as it is.  Two such numerals denote one number if and only if the same is left of them. -/
theorem clean_canonical :
    (∀ m : SignedNumeral, ∃ r : SignedNumeral, Format.clean m.text = r.text ∧
      numberOf? (Format.clean m.text) = some m.value ∧ numberOf? m.text = some m.value ∧
      (Format.clean m.text).getLast? ≠ some '.' ∧
      ('.' ∈ Format.clean m.text → (Format.clean m.text).getLast? ≠ some '0') ∧
      Format.clean m.text ≠ ['-', '0'] ∧
      Format.clean (Format.clean m.text) = Format.clean m.text) ∧
    ∀ m n : SignedNumeral,
      numberOf? m.text = numberOf? n.text ↔ Format.clean m.text = Format.clean n.text := by
  constructor
  · intro m
    have hreduced := m.isReduced_reduced
    refine ⟨m.reduced, m.clean_text, ?_, m.numberOf?_text, ?_⟩
    · rw [m.clean_text, numberOf?_text, value_reduced]
    · rw [m.clean_text, m.reduced.clean_text]
      exact ⟨hreduced.last.1, hreduced.last.2, hreduced.ne_minus_zero, hreduced.reduced_text⟩
  · intro m n
    rw [numberOf?_text, numberOf?_text, Option.some.injEq, m.clean_text, n.clean_text]
    constructor
    · intro h
      apply m.isReduced_reduced.text_eq n.isReduced_reduced
      rw [value_reduced, value_reduced, h]
    · intro h
      have hvalue := congrArg numberOf? h
      rw [numberOf?_text, numberOf?_text, value_reduced, value_reduced] at hvalue
      exact Option.some.inj hvalue

/-- `-0.00` and `0` denote one number, and `-1.50` another: its sign and its first place stay. -/
theorem clean_canonical_minus_zero :
    let m : SignedNumeral := ⟨true, ['0'], ['0', '0'], by decide, by decide, by decide⟩
    let n : SignedNumeral := ⟨false, ['0'], [], by decide, by decide, by decide⟩
    let w : SignedNumeral := ⟨true, ['1'], ['5', '0'], by decide, by decide, by decide⟩
    m.text = "-0.00".toList ∧ n.text = ['0'] ∧ w.text = "-1.50".toList ∧
      Format.clean m.text = ['0'] ∧ Format.clean w.text = "-1.5".toList ∧
      numberOf? m.text = numberOf? n.text ∧ numberOf? m.text ≠ numberOf? w.text ∧
      Format.clean (Format.clean w.text) = Format.clean w.text := by
  intro m n w
  obtain ⟨hnormal, hsame⟩ := clean_canonical
  obtain ⟨r, -, -, -, -, -, -, htwice⟩ := hnormal w
  refine ⟨rfl, rfl, rfl, by decide +kernel, by decide +kernel, (hsame m n).mpr ?_, ?_, htwice⟩
  · decide +kernel
  · rw [Ne, hsame m w]
    decide +kernel

end SignedNumeral
end PocketCalc
