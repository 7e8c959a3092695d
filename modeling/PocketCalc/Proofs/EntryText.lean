import PocketCalc.Proofs.Denoted
import PocketCalc.Proofs.Parts

/-!
# The text of a number reads back

A row of digits denotes the same number wherever its point is put, with zeros or with a power of
ten.  The shortest digits of a double are found by reading back, so the text that they make is read
as that double.

* `denotes_positional`, `denotes_scientific`   the two layouts;
* `denotes_writeDigits`                        a number in a style denotes itself;
* `Exact.toFloat_shortest`                     the digits that are found read back;
* `readNumber_writeShortest`                   and so does their text;
* `denotes_wholePart`                          whole numbers have a text of their own;
* `readNumber_writeEntry`                      the text that stands for a result.
-/

namespace PocketCalc
open Text

/-! ## Layouts -/

/-- digits around a point and no power of ten -/
theorem denotes_point (negative : Bool) {w f : Text} (hne : w ≠ []) (hw : IsAsciiDigits w)
    (hf : IsAsciiFraction f) {n : Nat} {e : Int} (hn : ofDigits (digitValues (w ++ f.drop 1)) = n)
    (he : e = -(f.drop 1).length) : Denotes (withSign negative (w ++ f)) negative (n * 10 ^ e) := by
  have hdenotes := denotes_numeral negative hne hw hf isPowerText_nil
  rwa [List.append_nil, hn, zero_sub, ← he] at hdenotes

/-- digits in front of the point only, which ends the text or stands before a zero -/
theorem denotes_whole (pointZero negative : Bool) {w : Text} (hne : w ≠ []) (hw : IsAsciiDigits w) :
    Denotes (withSign negative (w ++ if pointZero then ['.', '0'] else [])) negative
      (ofDigits (digitValues w)) := by
  cases pointZero with
  | false =>
    have hdenotes := denotes_point negative (e := 0) hne hw (.inl rfl) rfl rfl
    rw [zpow_zero, mul_one, List.drop_nil, List.append_nil w] at hdenotes
    rwa [if_neg Bool.false_ne_true, List.append_nil]
  | true =>
    have hdenotes :=
      denotes_point negative hne hw (.inr ⟨_, rfl, isAsciiDigits_replicate 1⟩) rfl rfl
    have hzero := ofDigits_append_zeros w 1 0
    rw [zpow_zero, mul_one] at hzero
    rw [← hzero]
    exact hdenotes

/-- digits with a point among, in front of or behind them -/
theorem denotes_positional (pointZero negative : Bool) {ds : Text} (hds : IsAsciiDigits ds)
    (hne : ds ≠ []) (point : Int) :
    Denotes (withSign negative (positional pointZero ds point)) negative
      (ofDigits (digitValues ds) * 10 ^ (point - ds.length)) := by
  unfold positional
  split
  · have hzeros : IsAsciiDigits (List.replicate (-point).toNat '0' ++ ds) :=
      isAsciiDigits_append.mpr ⟨isAsciiDigits_replicate _, hds⟩
    refine denotes_point negative (w := ['0']) (by decide) (isAsciiDigits_replicate 1)
      (.inr ⟨_, rfl, hzeros⟩) ?_ ?_
    · rw [List.drop_one, List.tail_cons, ← List.replicate_one, ofDigits_zeros_append,
        ofDigits_zeros_append]
    · rw [List.drop_one, List.tail_cons, List.length_append, List.length_replicate]
      omega
  split
  · have hwhole :
        (ofDigits (digitValues (ds ++ List.replicate (point.toNat - ds.length) '0')) : Rat) =
        ofDigits (digitValues ds) * 10 ^ (point - ds.length) := by
      have hzeros := ofDigits_append_zeros ds (point.toNat - ds.length) (point - ds.length)
      have hpower : point - ds.length - (point.toNat - ds.length : Nat) = 0 := by omega
      rwa [hpower, zpow_zero, mul_one] at hzeros
    rw [← hwhole]
    exact denotes_whole pointZero negative (List.append_ne_nil_of_left_ne_nil hne _)
      (isAsciiDigits_append.mpr ⟨hds, isAsciiDigits_replicate _⟩)
  · refine denotes_point negative ?_ (fun c hc => hds c (List.mem_of_mem_take hc))
      (.inr ⟨_, rfl, fun c hc => hds c (List.mem_of_mem_drop hc)⟩) ?_ ?_
    · apply List.ne_nil_of_length_pos
      have hpos := List.length_pos_of_ne_nil hne
      rw [List.length_take]
      omega
    · rw [List.drop_one, List.tail_cons, List.take_append_drop]
    · rw [List.drop_one, List.tail_cons, List.length_drop]
      omega

theorem isPowerText_powerText (e : Int) : IsPowerText ('e' :: powerText e) e := by
  have hds :
      IsAsciiDigits (List.replicate (2 - (natText e.natAbs).length) '0' ++ natText e.natAbs) :=
    isAsciiDigits_append.mpr ⟨isAsciiDigits_replicate _, isAsciiDigits_natText _⟩
  refine isPowerText_digits (.inl rfl) e hds ?_ ?_
  · exact List.append_ne_nil_of_right_ne_nil _ (natText_ne_nil _)
  · rw [ofDigits_zeros_append, ofDigits_natText]

/-- one digit, the others behind a point, and a power of ten -/
theorem denotes_scientific (negative : Bool) {ds : Text} (hds : IsAsciiDigits ds) (hne : ds ≠ [])
    (point : Int) :
    Denotes (withSign negative (scientific ds point)) negative
      (ofDigits (digitValues ds) * 10 ^ (point - ds.length)) := by
  have hpos := List.length_pos_of_ne_nil hne
  have hw : IsAsciiDigits (ds.take 1) := fun c hc => hds c (List.mem_of_mem_take hc)
  have hr : IsAsciiDigits (ds.drop 1) := fun c hc => hds c (List.mem_of_mem_drop hc)
  have hone : ds.take 1 ≠ [] := by
    apply List.ne_nil_of_length_pos
    rw [List.length_take]
    omega
  generalize hf : (if ds.length ≤ 1 then [] else '.' :: ds.drop 1) = f
  have hfraction : IsAsciiFraction f ∧ f.drop 1 = ds.drop 1 := by
    rw [← hf]
    split
    · rename_i hlength
      exact ⟨.inl rfl, (List.drop_eq_nil_of_le hlength).symm⟩
    · exact ⟨.inr ⟨_, rfl, hr⟩, rfl⟩
  have hdenotes := denotes_numeral negative hone hw hfraction.1 (isPowerText_powerText (point - 1))
  have hpower : point - 1 - ((ds.drop 1).length : Int) = point - ds.length := by
    rw [List.length_drop]
    omega
  rw [hfraction.2, List.take_append_drop, hpower] at hdenotes
  unfold scientific
  rw [hf, List.append_assoc]
  exact hdenotes

theorem denotes_write (s : Style) (negative : Bool) {ds : Text} (hds : IsAsciiDigits ds)
    (hne : ds ≠ []) (point : Int) :
    Denotes (withSign negative (s.write ds point)) negative
      (ofDigits (digitValues ds) * 10 ^ (point - ds.length)) := by
  unfold Style.write
  split
  · exact denotes_positional s.pointZero negative hds hne point
  · exact denotes_scientific negative hds hne point

/-- **A number in a style denotes itself**, with or without the zeros at its end. -/
theorem denotes_writeDigits (s : Style) (negative : Bool) (n : Nat) (e : Int) :
    Denotes (withSign negative (s.writeDigits n e)) negative (n * 10 ^ e) := by
  unfold Style.writeDigits
  dsimp only
  split
  · rename_i hzero
    have hdenotes := denotes_write s negative (isAsciiDigits_replicate 1) (by decide) 1
    rw [ofDigits_zeros, Nat.cast_zero, zero_mul] at hdenotes
    rw [hzero, Nat.cast_zero, zero_mul]
    exact hdenotes
  · rename_i hpos
    obtain ⟨k, hk⟩ := endingWhile_zeros (natText n)
    have hsplit := trimEndWhile_append_endingWhile (· == '0') (natText n)
    have hds := (isAsciiDigits_natText n).trimEndWhile (· == '0')
    rw [hk] at hsplit
    generalize trimEndWhile (· == '0') (natText n) = ds at hsplit hds
    have hvalue := ofDigits_append_zeros ds k (e + k)
    have hne : ds ≠ [] := by
      rintro rfl
      have hzero := ofDigits_natText n
      rw [← hsplit, List.nil_append, ofDigits_zeros] at hzero
      exact hpos hzero.symm
    have hpower : (natText n).length + e - ds.length = e + k := by
      rw [← hsplit, List.length_append, List.length_replicate]
      omega
    have hdenotes := denotes_write s negative hds hne ((natText n).length + e)
    rw [hsplit, ofDigits_natText, add_sub_cancel_right] at hvalue
    rw [hpower, ← hvalue] at hdenotes
    exact hdenotes

/-! ## The shortest digits -/

namespace Exact

theorem negative_of_mem_gridNeighbours {v : Exact} {n : Nat} {d : Decimal}
    (h : d ∈ gridNeighbours v n) : d.negative = v.negative := by
  rcases List.mem_cons.mp h with rfl | h
  · rfl
  · rw [List.mem_singleton.mp h]

theorem magnitude_decimal (v : Exact) : v.decimal.magnitude = v.magnitude := by
  obtain ⟨b, m, e⟩ := v
  unfold decimal magnitude Decimal.magnitude
  dsimp only
  split
  · rename_i hneg
    have hpower : (5 : Rat) ^ e.natAbs * 10 ^ e = 2 ^ e :=
      calc (5 : Rat) ^ e.natAbs * 10 ^ e = 5 ^ (e.natAbs : Int) * (5 ^ e * 2 ^ e) := by
            rw [← mul_zpow, zpow_natCast]
            norm_num
        _ = 5 ^ ((e.natAbs : Int) + e) * 2 ^ e := by rw [zpow_add₀ (by norm_num), mul_assoc]
        _ = 2 ^ e := by
            have hzero : (e.natAbs : Int) + e = 0 := by omega
            rw [hzero, zpow_zero, one_mul]
    rw [Nat.pow_eq, Nat.cast_mul, Nat.cast_pow, Nat.cast_ofNat, mul_assoc, hpower]
  · rename_i hneg
    have hnat : e = e.natAbs := by omega
    rw [Nat.pow_eq, Nat.cast_mul, Nat.cast_pow, Nat.cast_ofNat, zpow_zero, mul_one, ← zpow_natCast,
      ← hnat]

theorem negative_decimal (v : Exact) : v.decimal.negative = v.negative := by
  unfold decimal
  split <;> rfl

theorem eq_of_readsBackAs {d : Decimal} {x : Float} (h : d.readsBackAs x = true) :
    d.toFloat = x := by
  have hbits : d.toFloat.toBits = x.toBits := by simpa [Decimal.readsBackAs] using h
  generalize d.toFloat = y at hbits
  obtain ⟨⟨x, hx⟩⟩ := x
  obtain ⟨⟨y, hy⟩⟩ := y
  cases hbits
  rfl

/-- **The digits that are found read back.** -/
theorem toFloat_shortest {x : Float} {v : Exact} (h : Exact.ofFloat? x = some v) :
    (v.shortest x).negative = v.negative ∧ (v.shortest x).toFloat = x := by
  unfold shortest
  cases hhit : (List.range 17).findSome? fun n =>
      (gridNeighbours v (n + 1)).find? fun d => d.readsBackAs x with
  | some d =>
    obtain ⟨n, -, hfind⟩ := List.exists_of_findSome?_eq_some hhit
    have hread := List.find?_some hfind
    exact ⟨negative_of_mem_gridNeighbours (List.mem_of_find?_eq_some hfind),
      eq_of_readsBackAs hread⟩
  | none =>
    exact ⟨v.negative_decimal,
      Decimal.toFloat_eq_of_magnitude_eq h v.negative_decimal v.magnitude_decimal⟩

end Exact

/-! ## Reading back -/

/-- a decimal is read alike from every text that denotes it -/
theorem Denotes.readNumber {t : Text} {d : Decimal} (h : Denotes t d.negative d.magnitude) :
    PocketCalc.readNumber t = .ok d.toFloat := by
  obtain ⟨d', hd', hsign, hmagnitude⟩ := h
  apply readNumber_of_readNumber?
  rw [PocketCalc.readNumber?, hd', Option.map_some, Decimal.toFloat_congr hsign hmagnitude]

/-- **The shortest text of a finite double is read as that double.** -/
theorem readNumber_writeShortest {x : Float} (h : x.isFinite = true) :
    readNumber (writeShortest x) = .ok x := by
  rw [Format.isFinite_eq, Option.isSome_iff_exists] at h
  obtain ⟨v, h⟩ := h
  have hshortest : ∃ d : Decimal, d.negative = v.negative ∧ d.toFloat = x ∧
      writeShortest x = withSign v.negative (Style.shortest.writeDigits d.digits d.exponent) := by
    unfold writeShortest
    rw [h]
    by_cases hzero : v.significand = 0
    · refine ⟨⟨v.negative, 0, 0⟩, rfl, ?_, ?_⟩
      · apply Decimal.toFloat_eq_of_magnitude_eq h rfl
        rw [Exact.magnitude, hzero, Decimal.magnitude, Nat.cast_zero, zero_mul, zero_mul]
      · simp only [hzero, if_true]
    · obtain ⟨hsign, hread⟩ := Exact.toFloat_shortest h
      refine ⟨v.shortest x, hsign, hread, ?_⟩
      simp only [hzero, if_false]
  obtain ⟨d, hsign, hread, htext⟩ := hshortest
  rw [htext, ← hsign, ← hread]
  exact (denotes_writeDigits Style.shortest d.negative d.digits d.exponent).readNumber

/-- a whole number without a point -/
theorem denotes_intText (n : Int) : Denotes (intText n) (n < 0) n.natAbs := by
  have htext : intText n = withSign (n < 0) (natText n.natAbs) := by
    unfold intText withSign
    simp only [decide_eq_true_eq]
  have hdenotes := denotes_whole false (n < 0) (natText_ne_nil n.natAbs) (isAsciiDigits_natText _)
  rwa [if_neg Bool.false_ne_true, List.append_nil, ofDigits_natText, ← htext] at hdenotes

theorem cast_wholePart {v : Exact} (h : v.magnitude.den = 1) : (v.wholePart : Rat) = v.value := by
  have hfloor : (v.magnitude.floor : Rat) = v.magnitude := by
    rw [Rat.floor_def, h, Nat.cast_one, Int.ediv_one]
    exact (Rat.den_eq_one_iff _).mp h
  unfold Exact.wholePart Exact.value
  split
  · rw [Int.cast_neg, hfloor]
  · exact hfloor

/-- a whole number other than zero is written as it is -/
theorem denotes_wholePart {v : Exact} (h : v.magnitude.den = 1) (hpos : 0 < v.magnitude) :
    Denotes (intText v.wholePart) v.negative v.magnitude := by
  have hvalue := cast_wholePart h
  have hsign : decide (v.wholePart < 0) = v.negative := by
    rw [Bool.eq_iff_iff, decide_eq_true_iff, ← Int.cast_lt_zero (R := Rat), hvalue, Exact.value]
    cases v.negative with
    | false => exact iff_of_false (not_lt.mpr hpos.le) Bool.false_ne_true
    | true => exact iff_of_true (neg_neg_of_pos hpos) rfl
  have habs : (v.wholePart.natAbs : Rat) = v.magnitude := by
    rw [Nat.cast_natAbs, Int.cast_abs, hvalue, Exact.value]
    split
    · rw [abs_neg, abs_of_pos hpos]
    · exact abs_of_pos hpos
  have hdenotes := denotes_intText v.wholePart
  rwa [hsign, habs] at hdenotes

/-- **The text that stands for a result is read as that result**, negative zero as zero. -/
theorem readNumber_writeEntry {x : Float} (h : x.isFinite = true) :
    ∃ y, readNumber (writeEntry x) = .ok y ∧ (y = x ∨ x = -0 ∧ y = 0) := by
  have hshortest := readNumber_writeShortest h
  rw [Format.isFinite_eq, Option.isSome_iff_exists] at h
  obtain ⟨v, h⟩ := h
  unfold writeEntry
  rw [h]
  dsimp only
  split
  · rename_i hwhole
    rw [Bool.and_eq_true, decide_eq_true_eq] at hwhole
    rcases v.magnitude_nonneg.lt_or_eq with hpos | hzero
    · have hdenotes := denotes_wholePart hwhole.1 hpos
      rw [← v.magnitude_decimal, ← v.negative_decimal] at hdenotes
      refine ⟨_, hdenotes.readNumber, .inl ?_⟩
      exact Decimal.toFloat_eq_of_magnitude_eq h v.negative_decimal v.magnitude_decimal
    · have hnone : v.wholePart = 0 := by
        have hvalue := cast_wholePart hwhole.1
        rw [Exact.value_eq_zero hzero.symm] at hvalue
        exact_mod_cast hvalue
      have hread : readNumber (intText 0) = .ok 0 := by decide +kernel
      rw [hnone]
      rcases eq_zero_of_magnitude_eq_zero h hzero.symm with rfl | rfl
      · exact ⟨0, hread, .inl rfl⟩
      · exact ⟨0, hread, .inr ⟨rfl, rfl⟩⟩
  · exact ⟨x, hshortest, .inl rfl⟩

/-- the double nearest to `10^23` is another number, and `1e+23` reads back as it -/
theorem readNumber_writeEntry_power :
    (1e23 : Float).isFinite = true ∧
      ∃ y, readNumber (writeEntry 1e23) = .ok y ∧ (y = 1e23 ∨ 1e23 = (-0 : Float) ∧ y = 0) :=
  ⟨by decide +kernel, readNumber_writeEntry (by decide +kernel)⟩

end PocketCalc
