import PocketCalc.Arithmetic.Constant
import PocketCalc.Arithmetic.Trig
import PocketCalc.Format
import PocketCalc.Proofs.Numeral

/-!
# Texts without parentheses

A parenthesis in an entry belongs to the function scope: no number is written with one, and no text
with one is read as a number.

* `Plain`                       no parenthesis stands in a text;
* `plain_natText`, ...          every way to write a number is plain;
* `Format.plain_result`         so is every result on the display;
* `plain_of_readNumber?`        and every text that is read as a number.
-/

namespace PocketCalc
open Text

/-- no parenthesis stands in the text -/
def Plain (t : Text) : Prop := ∀ c ∈ t, c ≠ '(' ∧ c ≠ ')'

instance (t : Text) : Decidable (Plain t) :=
  inferInstanceAs (Decidable (∀ c ∈ t, c ≠ '(' ∧ c ≠ ')'))

/-! ## Putting texts together -/

@[simp]
theorem plain_nil : Plain [] := by
  intro c hc
  cases hc

@[simp]
theorem plain_cons {c : Char} {t : Text} : Plain (c :: t) ↔ (c ≠ '(' ∧ c ≠ ')') ∧ Plain t := by
  simp [Plain]

@[simp]
theorem plain_append {s t : Text} : Plain (s ++ t) ↔ Plain s ∧ Plain t := by
  simp only [Plain, List.mem_append]
  constructor
  · intro h
    exact ⟨fun c hc => h c (.inl hc), fun c hc => h c (.inr hc)⟩
  · rintro ⟨hs, ht⟩ c (hc | hc)
    · exact hs c hc
    · exact ht c hc

theorem Plain.of_subset {s t : Text} (h : Plain t) (hst : s ⊆ t) : Plain s :=
  fun c hc => h c (hst hc)

theorem Plain.take {t : Text} (h : Plain t) (n : Nat) : Plain (t.take n) :=
  h.of_subset (List.take_subset n t)

theorem Plain.drop {t : Text} (h : Plain t) (n : Nat) : Plain (t.drop n) :=
  h.of_subset (List.drop_subset n t)

theorem Plain.dropLast {t : Text} (h : Plain t) : Plain t.dropLast :=
  h.of_subset (List.dropLast_subset t)

theorem Plain.trimEndWhile {t : Text} (h : Plain t) (p : Char → Bool) :
    Plain (trimEndWhile p t) := by
  apply h.of_subset
  intro c hc
  rw [← trimEndWhile_append_endingWhile p t]
  exact List.mem_append_left _ hc

theorem plain_replicate {c : Char} (h : c ≠ '(' ∧ c ≠ ')') (n : Nat) :
    Plain (List.replicate n c) := by
  intro d hd
  rw [List.eq_of_mem_replicate hd]
  exact h

/-! ## Written numbers -/

/-- the digits of a number are plain -/
theorem plain_natText (n : Nat) : Plain (natText n) := by
  intro c hc
  have hd : c.isDigit = true := Nat.isDigit_of_mem_toDigits (by decide) (by decide) hc
  constructor
  · rintro rfl
    exact absurd hd (by decide)
  · rintro rfl
    exact absurd hd (by decide)

theorem plain_withSign {t : Text} (h : Plain t) (negative : Bool) :
    Plain (withSign negative t) := by
  cases negative
  · exact h
  · exact plain_cons.mpr ⟨by decide, h⟩

theorem plain_intText (n : Int) : Plain (intText n) := by
  unfold intText
  split
  · exact plain_cons.mpr ⟨by decide, plain_natText _⟩
  · exact plain_natText _

theorem plain_positional {ds : Text} (h : Plain ds) (pointZero : Bool) (point : Int) :
    Plain (positional pointZero ds point) := by
  unfold positional
  have hz := plain_replicate (c := '0') (by decide)
  split
  · simp [h, hz]
  · split
    · cases pointZero <;> simp [h, hz]
    · simp [h.take, h.drop]

theorem plain_scientific {ds : Text} (h : Plain ds) (point : Int) :
    Plain (scientific ds point) := by
  have hp : ∀ e, Plain (powerText e) := by
    intro e
    have hz := plain_replicate (c := '0') (by decide)
    unfold powerText
    split <;> simp [hz, plain_natText]
  have htail : Plain ds.tail := h.of_subset ds.tail_sublist.subset
  unfold scientific
  split <;> simp [h.take, htail, hp]

theorem Style.plain_writeDigits (s : Style) (digits : Nat) (exponent : Int) :
    Plain (s.writeDigits digits exponent) := by
  have hwrite : ∀ {ds : Text}, Plain ds → ∀ point, Plain (s.write ds point) := by
    intro ds h point
    unfold Style.write
    split
    · exact plain_positional h _ _
    · exact plain_scientific h _
  unfold Style.writeDigits
  split
  · exact hwrite (plain_cons.mpr ⟨by decide, plain_nil⟩) _
  · exact hwrite ((plain_natText _).trimEndWhile _) _

theorem plain_nonFiniteText (x : Float) : Plain (nonFiniteText x) := by
  unfold nonFiniteText
  split
  · decide
  · exact plain_withSign (by decide) _

theorem plain_writeShortest (x : Float) : Plain (writeShortest x) := by
  unfold writeShortest
  split
  · exact plain_nonFiniteText x
  · exact plain_withSign (Style.plain_writeDigits _ _ _) _

theorem plain_writeEntry (x : Float) : Plain (writeEntry x) := by
  unfold writeEntry
  split
  · split
    · exact plain_intText _
    · exact plain_writeShortest x
  · exact plain_writeShortest x

theorem plain_writePlaces (n : Nat) (x : Float) : Plain (writePlaces n x) := by
  have hz := plain_replicate (c := '0') (by decide)
  have hplaces : ∀ units, Plain (placesText n units) := by
    intro units
    have hds : Plain (List.replicate (n + 1 - (natText units).length) '0' ++ natText units) :=
      plain_append.mpr ⟨hz _, plain_natText _⟩
    unfold placesText
    split
    · exact plain_append.mpr ⟨hds.take _, plain_nil⟩
    · exact plain_append.mpr ⟨hds.take _, plain_cons.mpr ⟨by decide, hds.drop _⟩⟩
  unfold writePlaces
  split
  · exact plain_nonFiniteText x
  · exact plain_withSign (hplaces _) _

/-! ## Results on the display -/

namespace Format

theorem plain_trimPlaces {t : Text} (h : Plain t) : Plain (trimPlaces t) :=
  (h.trimEndWhile _).trimEndWhile _

theorem plain_clean {t : Text} (h : Plain t) : Plain (clean t) := by
  have hzero : ∀ {u : Text}, Plain u → Plain (if u = [] || u = ['-', '0'] then ['0'] else u) := by
    intro u hu
    split
    · decide
    · exact hu
  apply hzero
  split
  · exact plain_trimPlaces h
  · exact h

theorem plain_fixed (places : Int) (x : Float) : Plain (fixed places x) :=
  plain_clean (plain_writePlaces _ x)

theorem plain_scientific (v : Exact) : Plain (scientific v) := by
  have hsigned : ∀ n, Plain (signedText n) := by
    intro n
    unfold signedText
    split <;> simp [plain_natText]
  unfold scientific
  split
  rename_i digits point h
  have hds : Plain digits := by
    split at h
    · cases h
      decide
    · cases h
      exact plain_natText _
  apply plain_withSign
  refine plain_append.mpr ⟨plain_trimPlaces ?_, plain_cons.mpr ⟨by decide, hsigned _⟩⟩
  exact plain_append.mpr ⟨hds.take _, plain_cons.mpr ⟨by decide, hds.drop _⟩⟩

theorem plain_truncate (limit : Int) (x : Float) (v : Exact) : Plain (truncate limit x v) := by
  simp only [truncate]
  split
  · exact plain_scientific v
  · exact (plain_fixed _ _).take _

/-- a result on the display is plain -/
theorem plain_result (x : Float) (limit : Int := resultLength) : Plain (result x limit) := by
  unfold result
  split
  · split <;> decide
  · split
    · exact plain_scientific _
    · simp only
      split
      · exact plain_truncate _ _ _
      · exact plain_fixed _ _

end Format

/-! ## Texts that are read -/

/-- a text that is read as a number is plain -/
theorem plain_of_readNumber? {t : Text} {x : Float} (h : readNumber? t = some x) : Plain t := by
  have hparen : ∀ c ∈ ['(', ')'], ¬ (isBlank c = true ∨ c = ',' ∨ IsNumeralChar c) := by
    unfold IsNumeralChar
    decide
  intro c hc
  have hread := mem_of_readNumber? h hc
  constructor
  · rintro rfl
    exact hparen _ (by decide) hread
  · rintro rfl
    exact hparen _ (by decide) hread

/-- a text with a parenthesis is not read as a number -/
theorem readNumber?_of_not_plain {t : Text} (h : ¬ Plain t) : readNumber? t = none := by
  cases hx : readNumber? t with
  | none => rfl
  | some x => exact absurd (plain_of_readNumber? hx) h

/-! ## Symbols -/

theorem Constant.plain_symbol (c : Constant) : Plain [c.symbol] := by
  cases c <;> decide

end PocketCalc
