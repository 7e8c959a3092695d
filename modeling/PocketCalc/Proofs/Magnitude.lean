import PocketCalc.Proofs.Chain
import PocketCalc.Proofs.Finite
import PocketCalc.Proofs.Keypad.Factor

/-!
# How large a numeral can be

A numeral without a power of ten is smaller than a power of ten with as many zeros as it has digits
in front of its point.  So one with few such digits is a finite double.

* `wholeDigits`                 the digits in front of the first point and the first `e`;
* `wholeDigits_append_le`, ...  what becomes of them as a text is edited;
* `wholeDigits_writeEntry_le`   a number in the entry line has sixteen at most;
* `writesPower`                 a power of ten stands in the text;
* `isFinite_of_wholeDigits`     a numeral without one is finite;
* `moderate_of_length`          and moderate if it is short.
-/

namespace PocketCalc
open Text Keypad

/-! ## Digits in front of the point -/

/-- neither a point nor the `e` of a power of ten -/
def inWhole (c : Char) : Bool := c != '.' && c != 'e'

/-- the number of digits in front of the first point and the first `e` -/
def wholeDigits (t : Text) : Nat := (t.takeWhile inWhole).countP isValuedDigit

theorem wholeDigits_cons_of_inWhole {c : Char} (hc : inWhole c = true) (t : Text) :
    wholeDigits (c :: t) = wholeDigits t + if isValuedDigit c then 1 else 0 := by
  rw [wholeDigits, List.takeWhile_cons_of_pos hc, List.countP_cons]
  rfl

theorem wholeDigits_cons_of_not {c : Char} (hc : inWhole c = false) (t : Text) :
    wholeDigits (c :: t) = 0 := by
  rw [wholeDigits, List.takeWhile_cons_of_neg (by simp [hc])]
  rfl

theorem wholeDigits_le_length (t : Text) : wholeDigits t ≤ t.length :=
  List.countP_le_length.trans (List.takeWhile_sublist _).length_le

theorem wholeDigits_append_le (s t : Text) :
    wholeDigits (s ++ t) ≤ wholeDigits s + t.countP isValuedDigit := by
  induction s with
  | nil =>
    rw [List.nil_append, wholeDigits]
    exact ((List.takeWhile_sublist _).countP_le).trans (Nat.le_add_left _ _)
  | cons c s ih =>
    rw [List.cons_append]
    cases hc : inWhole c with
    | false =>
      rw [wholeDigits_cons_of_not hc]
      exact Nat.zero_le _
    | true =>
      rw [wholeDigits_cons_of_inWhole hc, wholeDigits_cons_of_inWhole hc]
      omega

theorem wholeDigits_le_append (s t : Text) : wholeDigits s ≤ wholeDigits (s ++ t) := by
  induction s with
  | nil => exact Nat.zero_le _
  | cons c s ih =>
    rw [List.cons_append]
    cases hc : inWhole c with
    | false =>
      rw [wholeDigits_cons_of_not hc]
      exact Nat.zero_le _
    | true =>
      rw [wholeDigits_cons_of_inWhole hc, wholeDigits_cons_of_inWhole hc]
      omega

theorem wholeDigits_le_of_isPrefix {s t : Text} (h : s <+: t) : wholeDigits s ≤ wholeDigits t := by
  obtain ⟨r, rfl⟩ := h
  exact wholeDigits_le_append s r

theorem wholeDigits_append_congr {t t' : Text} (h : wholeDigits t = wholeDigits t') (s : Text) :
    wholeDigits (s ++ t) = wholeDigits (s ++ t') := by
  induction s with
  | nil => exact h
  | cons c s ih =>
    rw [List.cons_append, List.cons_append]
    cases hc : inWhole c with
    | false => rw [wholeDigits_cons_of_not hc, wholeDigits_cons_of_not hc]
    | true => rw [wholeDigits_cons_of_inWhole hc, wholeDigits_cons_of_inWhole hc, ih]

/-- what stands behind a point or an `e` does not count -/
theorem wholeDigits_append_cons_le {c : Char} (hc : inWhole c = false) (s t : Text) :
    wholeDigits (s ++ c :: t) ≤ s.length := by
  have hnil : wholeDigits (c :: t) = wholeDigits [] := wholeDigits_cons_of_not hc t
  rw [wholeDigits_append_congr hnil, List.append_nil]
  exact wholeDigits_le_length s

/-- what stands in front of them counts as far as it is digits -/
theorem countP_le_wholeDigits {s : Text} (hs : ∀ c ∈ s, inWhole c = true) (t : Text) :
    s.countP isValuedDigit ≤ wholeDigits (s ++ t) := by
  rw [wholeDigits, List.takeWhile_append_of_pos hs, List.countP_append]
  exact Nat.le_add_right _ _

theorem wholeDigits_cons_minus (t : Text) : wholeDigits ('-' :: t) = wholeDigits t :=
  wholeDigits_cons_of_inWhole (by decide) t

theorem wholeDigits_toggled (t : Text) : wholeDigits (toggled t) = wholeDigits t := by
  unfold toggled
  split
  · exact (wholeDigits_cons_minus _).symm
  · exact wholeDigits_cons_minus _

/-! ## Written numbers -/

theorem wholeDigits_withSign (negative : Bool) (t : Text) :
    wholeDigits (withSign negative t) = wholeDigits t := by
  cases negative with
  | false => rfl
  | true => exact wholeDigits_cons_minus t

theorem wholeDigits_positional_le (pointZero : Bool) (ds : Text) {point : Int} (hp : point ≤ 16) :
    wholeDigits (positional pointZero ds point) ≤ 16 := by
  unfold positional
  split
  · exact (wholeDigits_append_cons_le (by decide) ['0'] _).trans (by decide)
  split
  · rename_i hlen
    have hwhole : (ds ++ List.replicate (point.toNat - ds.length) '0').length ≤ 16 := by
      rw [List.length_append, List.length_replicate]
      omega
    split
    · exact (wholeDigits_append_cons_le (by decide) _ ['0']).trans hwhole
    · rw [List.append_nil]
      exact (wholeDigits_le_length _).trans hwhole
  · refine (wholeDigits_append_cons_le (by decide) _ _).trans ?_
    rw [List.length_take]
    omega

theorem wholeDigits_scientific_le (ds : Text) (point : Int) :
    wholeDigits (scientific ds point) ≤ 16 := by
  have hone : (ds.take 1).length ≤ 16 := by
    rw [List.length_take]
    omega
  unfold scientific
  split
  · rw [List.append_nil]
    exact (wholeDigits_append_cons_le (by decide) _ _).trans hone
  · rw [List.append_assoc]
    exact (wholeDigits_append_cons_le (by decide) _ _).trans hone

theorem wholeDigits_writeDigits_le (digits : Nat) (exponent : Int) :
    wholeDigits (Style.shortest.writeDigits digits exponent) ≤ 16 := by
  have hwrite : ∀ (ds : Text) (point : Int), wholeDigits (Style.shortest.write ds point) ≤ 16 := by
    intro ds point
    unfold Style.write
    split
    · rename_i hp
      simp only [Bool.and_eq_true, decide_eq_true_eq] at hp
      exact wholeDigits_positional_le _ ds hp.2
    · exact wholeDigits_scientific_le ds point
  unfold Style.writeDigits
  split
  · exact hwrite _ _
  · exact hwrite _ _

theorem wholeDigits_nonFiniteText (x : Float) : wholeDigits (nonFiniteText x) = 0 := by
  unfold nonFiniteText
  split
  · decide
  · rw [wholeDigits_withSign]
    decide

theorem wholeDigits_writeShortest_le (x : Float) : wholeDigits (writeShortest x) ≤ 16 := by
  unfold writeShortest
  split
  · rw [wholeDigits_nonFiniteText]
    decide
  · rw [wholeDigits_withSign]
    exact wholeDigits_writeDigits_le _ _

theorem wholeDigits_intText_le {n : Int} (h : n.natAbs < 10 ^ 15) :
    wholeDigits (intText n) ≤ 16 := by
  have hnat : wholeDigits (natText n.natAbs) ≤ 16 := by
    refine (wholeDigits_le_length _).trans ?_
    exact (Nat.toDigits_length 10 n.natAbs 15 (by decide) h).trans (by decide)
  unfold intText
  split
  · rw [wholeDigits_cons_minus]
    exact hnat
  · exact hnat

theorem natAbs_wholePart_lt {v : Exact} (h : v.magnitude < 10 ^ 15) :
    v.wholePart.natAbs < 10 ^ 15 := by
  have habs : v.wholePart.natAbs = v.magnitude.floor.natAbs := by
    unfold Exact.wholePart
    split
    · exact Int.natAbs_neg _
    · rfl
  have hnonneg : (0 : Rat) ≤ v.magnitude := by
    unfold Exact.magnitude
    positivity
  have hfloor : 0 ≤ v.magnitude.floor := Rat.le_floor_iff.mpr (by exact_mod_cast hnonneg)
  have hlt : (v.magnitude.floor : Rat) < ((10 ^ 15 : Int) : Rat) := by
    push_cast
    exact lt_of_le_of_lt (Rat.floor_le _) h
  have hlt' : v.magnitude.floor < 10 ^ 15 := by exact_mod_cast hlt
  omega

theorem wholeDigits_writeEntry_le (x : Float) : wholeDigits (writeEntry x) ≤ 16 := by
  unfold writeEntry
  split
  · rename_i v _
    split
    · rename_i hv
      simp only [Bool.and_eq_true, decide_eq_true_eq] at hv
      exact wholeDigits_intText_le (natAbs_wholePart_lt (lt_of_lt_of_eq hv.2 (by norm_num)))
    · exact wholeDigits_writeShortest_le x
  · exact wholeDigits_writeShortest_le x

/-! ## Numerals without a power of ten -/

/-- a power of ten stands in the text: an `e` with something behind it -/
def writesPower (t : Text) : Bool := t.dropLast.any fun c => c = 'e' || c = 'E'

/-- a number without a power of ten has neither letter in it -/
theorem ne_power_of_readNumber? {t : Text} {x : Float} (h : readNumber? t = some x)
    (hp : writesPower t = false) {c : Char} (hc : c ∈ t) : c ≠ 'e' ∧ c ≠ 'E' := by
  obtain ⟨r, d, rfl⟩ : ∃ r d, t = r ++ [d] :=
    ⟨_, _, (List.dropLast_concat_getLast (List.ne_nil_of_mem hc)).symm⟩
  rw [writesPower, List.dropLast_concat, List.any_eq_false] at hp
  rcases List.mem_append.mp hc with hc | hc
  · simpa using hp c hc
  · have hlast := last_of_readNumber? h List.getLast?_concat
    rw [List.mem_singleton.mp hc]
    constructor
    · rintro rfl
      revert hlast
      decide
    · rintro rfl
      revert hlast
      decide

theorem pointForComma_eq_iff {c d : Char} (hd : d ≠ '.' ∧ d ≠ ',') :
    pointForComma c = d ↔ c = d := by
  unfold pointForComma
  split
  · rename_i hc
    rw [hc]
    exact iff_of_false (Ne.symm hd.1) (Ne.symm hd.2)
  · rfl

theorem isValuedDigit_of_pointForComma {c : Char} (h : isValuedDigit (pointForComma c) = true) :
    isValuedDigit c = true ∧ inWhole c = true := by
  have hcomma : c ≠ ',' := by
    rintro rfl
    revert h
    decide
  rw [pointForComma, if_neg hcomma] at h
  refine ⟨h, ?_⟩
  have hno : c ∉ ['+', '-', '.', 'e', 'E'] := by
    intro hc
    rw [not_isValuedDigit_of_mem_signs hc] at h
    exact Bool.false_ne_true h
  simp only [List.mem_cons, not_or] at hno
  simp [inWhole, hno.2.2.1, hno.2.2.2.1]

theorem inWhole_of_isBlank {c : Char} (h : isBlank c = true) : inWhole c = true := by
  have hno : c ≠ '.' ∧ c ≠ 'e' := by
    constructor
    · rintro rfl
      revert h
      decide
    · rintro rfl
      revert h
      decide
  simp [inWhole, hno]

theorem inWhole_of_sign {s : Text} (h : IsSign (s.map pointForComma)) {c : Char} (hc : c ∈ s) :
    inWhole c = true := by
  have hmem := List.mem_map_of_mem (f := pointForComma) hc
  have hsign : pointForComma c = '+' ∨ pointForComma c = '-' := by
    rcases h with h | h | h
    · rw [h] at hmem
      cases hmem
    · rw [h] at hmem
      exact .inl (List.mem_singleton.mp hmem)
    · rw [h] at hmem
      exact .inr (List.mem_singleton.mp hmem)
  rw [pointForComma_eq_iff (by decide), pointForComma_eq_iff (by decide)] at hsign
  rcases hsign with rfl | rfl
  · decide
  · decide

/-- the digits of a numeral in front of its point are digits of the text that it is read from -/
theorem length_whole_le {t s w r : Text} (h : (trim t).map pointForComma = s ++ (w ++ r))
    (hs : IsSign s) (hw : IsDigits w) : w.length ≤ wholeDigits t := by
  obtain ⟨s', u, htrim, rfl, hu⟩ := List.map_eq_append_iff.mp h
  obtain ⟨w', r', rfl, rfl, -⟩ := List.map_eq_append_iff.mp hu
  have hdigits : ∀ c ∈ w', isValuedDigit c = true ∧ inWhole c = true :=
    fun c hc => isValuedDigit_of_pointForComma (hw _ (List.mem_map_of_mem hc))
  have ht : t = (t.takeWhile isBlank ++ (s' ++ w')) ++
      (r' ++ endingWhile isBlank (t.dropWhile isBlank)) := by
    conv_lhs => rw [← List.takeWhile_append_dropWhile (p := isBlank) (l := t),
      ← trimEndWhile_append_endingWhile isBlank (t.dropWhile isBlank)]
    have htrim : trimEndWhile isBlank (t.dropWhile isBlank) = s' ++ (w' ++ r') := htrim
    rw [htrim]
    simp only [List.append_assoc]
  have hfront : ∀ c ∈ t.takeWhile isBlank ++ (s' ++ w'), inWhole c = true := by
    intro c hc
    rcases List.mem_append.mp hc with hc | hc
    · exact inWhole_of_isBlank (List.mem_takeWhile_imp hc)
    rcases List.mem_append.mp hc with hc | hc
    · exact inWhole_of_sign hs hc
    · exact (hdigits c hc).2
  calc (w'.map pointForComma).length = w'.countP isValuedDigit := by
        rw [List.length_map, List.countP_eq_length.mpr fun c hc => (hdigits c hc).1]
    _ ≤ (t.takeWhile isBlank ++ (s' ++ w')).countP isValuedDigit := by
        rw [List.countP_append, List.countP_append]
        omega
    _ ≤ wholeDigits t := by
        conv_rhs => rw [ht]
        exact countP_le_wholeDigits hfront _

theorem length_trim_le (t : Text) : (trim t).length ≤ t.length :=
  (length_trimEndWhile_le isBlank (t.dropWhile isBlank)).trans
    (List.dropWhile_sublist (l := t) isBlank).length_le

/-- what a numeral without a power of ten denotes: the digits of its two parts, with the point moved
over those of the second -/
theorem parts_of_readNumber? {t : Text} {x : Float} (h : readNumber? t = some x)
    (hp : writesPower t = false) :
    ∃ (negative : Bool) (ws fs : List Nat),
      x = (Decimal.mk negative (ofDigits (ws ++ fs)) (-fs.length)).toFloat ∧
      (∀ d ∈ ws ++ fs, d < 10) ∧ ws.length ≤ wholeDigits t ∧ ws.length + fs.length ≤ t.length := by
  obtain ⟨d, hd, rfl⟩ := Option.map_eq_some_iff.mp h
  have hnone : ∀ c ∈ (trim t).map pointForComma, c ≠ 'e' ∧ c ≠ 'E' := by
    intro c hc
    obtain ⟨c', hc', rfl⟩ := List.mem_map.mp hc
    rw [Ne, Ne, pointForComma_eq_iff (by decide), pointForComma_eq_iff (by decide)]
    exact ne_power_of_readNumber? h hp (mem_of_mem_trim hc')
  have hlength : ((trim t).map pointForComma).length ≤ t.length := by
    rw [List.length_map]
    exact length_trim_le t
  have hwhole := @length_whole_le t
  generalize (trim t).map pointForComma = u at hd hnone hlength hwhole
  obtain ⟨hs, hw, hf, hx, hne⟩ := isDecimal_of_ofNumeral? hd
  rename_i s w f x
  have hx0 : x = [] := by
    rcases hx with hx | ⟨e, s, ds, rfl, he, -⟩
    · exact hx
    · have hno := hnone e (by simp)
      rcases he with he | he
      · exact absurd he hno.1
      · exact absurd he hno.2
  rw [Decimal.ofNumeral?_parts hs hw hf hx hne] at hd
  cases hd
  have hvalues : ∀ t : Text, ∀ d ∈ digitValues t, d < 10 := by
    intro t d hd
    obtain ⟨c, -, hc⟩ := List.mem_filterMap.mp hd
    exact digitValue?_lt hc
  have hlen : ∀ t : Text, (digitValues t).length ≤ t.length := fun t => List.length_filterMap_le _ _
  refine ⟨s == ['-'], digitValues w, digitValues (f.drop 1), ?_, ?_, ?_, ?_⟩
  · rw [hx0]
    congr 2
    exact Int.zero_sub _
  · intro d hd
    rcases List.mem_append.mp hd with hd | hd
    · exact hvalues _ d hd
    · exact hvalues _ d hd
  · exact (hlen w).trans (hwhole rfl hs hw)
  · have h₁ := hlen w
    have h₂ := hlen (f.drop 1)
    simp only [List.length_append, List.length_drop] at hlength h₂
    omega

/-- **A numeral with few digits in front of its point is finite**, unless it has a power of ten. -/
theorem isFinite_of_wholeDigits {t : Text} {x : Float} (h : readNumber? t = some x)
    (hp : writesPower t = false) (hw : wholeDigits t ≤ 16) : x.isFinite = true := by
  obtain ⟨negative, ws, fs, rfl, hlt, hws, -⟩ := parts_of_readNumber? h hp
  rw [Decimal.isFinite_toFloat_iff]
  have hdigits : (ofDigits (ws ++ fs) : Rat) < 10 ^ (ws.length + fs.length) := by
    have hlt := ofDigits_lt hlt
    rw [List.length_append] at hlt
    exact_mod_cast hlt
  calc (Decimal.mk negative (ofDigits (ws ++ fs)) (-fs.length)).magnitude
      = ofDigits (ws ++ fs) * 10 ^ (-(fs.length : Int)) := rfl
    _ < 10 ^ (ws.length + fs.length) * 10 ^ (-(fs.length : Int)) := by gcongr
    _ = 10 ^ ws.length := by
      rw [zpow_neg, zpow_natCast, pow_add]
      field_simp
    _ ≤ 10 ^ 16 := pow_le_pow_right₀ (by norm_num) (hws.trans hw)
    _ ≤ 2 ^ (54 : Int) := by norm_num
    _ ≤ 2 ^ (1023 : Int) := zpow_le_zpow_right₀ (by norm_num) (by norm_num)
    _ ≤ overflowAt := overflowAt_bounds.1

theorem moderate_neg {x : Float} (h : Moderate x) : Moderate (-x) := by
  unfold Moderate at h ⊢
  rw [unpack_neg]
  revert h
  cases x.toModel.unpack <;> exact id

/-- a short numeral without a power of ten is moderate -/
theorem moderate_of_length {t : Text} {x : Float} (h : readNumber? t = some x)
    (hp : writesPower t = false) (ht : t.length ≤ 13) : Moderate x := by
  obtain ⟨negative, ws, fs, rfl, hlt, -, hlen⟩ := parts_of_readNumber? h hp
  have hdigits : ofDigits (ws ++ fs) < 10 ^ 13 := by
    refine Nat.lt_of_lt_of_le (ofDigits_lt hlt) (Nat.pow_le_pow_right (by decide) ?_)
    rw [List.length_append]
    omega
  have hpositive : Moderate (Decimal.mk false (ofDigits (ws ++ fs)) (-fs.length)).toFloat :=
    moderate_toFloat rfl hdigits (by show (-(fs.length : Int)) ≤ 0; omega)
  cases negative with
  | false => exact hpositive
  | true =>
    rw [Decimal.toFloat_negative]
    exact moderate_neg hpositive

end PocketCalc
