import Mathlib.Data.List.TakeWhile
import PocketCalc.Number.Numeral

/-!
# The shape of numerals

`Decimal.ofNumeral?` takes a numeral apart from left to right.  Here its parts are named, and the
function is shown to read exactly the texts that are made of them.

* `IsSign`, `IsDigits`, `IsFraction`, `IsPower`   the parts;
* `IsDecimal`                    the parts one after the other;
* `Decimal.ofNumeral?_parts`     the decimal that they denote;
* `isDecimal_of_ofNumeral?`      nothing else denotes one;
* `IsVerbatim`                   a text that is read as it stands;
* `mem_of_readNumber?`, `last_of_readNumber?`   what stands in a text that is read, and at its end.
-/

namespace PocketCalc
open Text

/-! ## The parts -/

/-- an optional sign -/
def IsSign (t : Text) : Prop := t = [] ∨ t = ['+'] ∨ t = ['-']

/-- a row of digits with values -/
def IsDigits (t : Text) : Prop := ∀ c ∈ t, isValuedDigit c = true

/-- a point with the digits behind it, or nothing -/
def IsFraction (t : Text) : Prop := t = [] ∨ ∃ ds, t = '.' :: ds ∧ IsDigits ds

/-- a power of ten, or nothing -/
def IsPower (t : Text) : Prop :=
  t = [] ∨ ∃ e s ds, t = e :: (s ++ ds) ∧ (e = 'e' ∨ e = 'E') ∧ IsSign s ∧ ds ≠ [] ∧ IsDigits ds

/-- a numeral with a point: a digit stands before the point or behind it -/
inductive IsDecimal : Text → Prop
  | parts {s w f x : Text} : IsSign s → IsDigits w → IsFraction f → IsPower x →
      (w ≠ [] ∨ 2 ≤ f.length) → IsDecimal (s ++ (w ++ (f ++ x)))

/-- the values of a row of digits -/
def digitValues (t : Text) : List Nat := t.filterMap digitValue?

/-- no digit stands in front -/
def NoDigitHead (t : Text) : Prop := ∀ c ∈ t.head?, isValuedDigit c = false

theorem isDigits_takeWhile (t : Text) : IsDigits (t.takeWhile isValuedDigit) := by
  intro c hc
  exact List.mem_takeWhile_imp hc

theorem digitValues_ne_nil {t : Text} (h : IsDigits t) (hne : t ≠ []) : digitValues t ≠ [] := by
  cases t with
  | nil => exact absurd rfl hne
  | cons c r =>
    have hc := h c List.mem_cons_self
    obtain ⟨v, hv⟩ := Option.isSome_iff_exists.mp hc
    simp [digitValues, hv]

/-! ## Signs, points and powers of ten are no digits -/

theorem not_isValuedDigit_of_mem_signs {c : Char} (h : c ∈ ['+', '-', '.', 'e', 'E']) :
    isValuedDigit c = false := by
  have hall : ∀ c ∈ ['+', '-', '.', 'e', 'E'], isValuedDigit c = false := by decide
  exact hall c h

theorem noDigitHead_of_isPower {t : Text} (h : IsPower t) : NoDigitHead t := by
  intro c hc
  rcases h with rfl | ⟨e, s, ds, rfl, he, -⟩
  · cases hc
  · cases hc
    apply not_isValuedDigit_of_mem_signs
    rcases he with rfl | rfl <;> decide

theorem noDigitHead_fraction_append {f x : Text} (hf : IsFraction f) (hx : IsPower x) :
    NoDigitHead (f ++ x) := by
  rcases hf with rfl | ⟨ds, rfl, -⟩
  · exact noDigitHead_of_isPower hx
  · intro c hc
    cases hc
    exact not_isValuedDigit_of_mem_signs (by decide)

/-! ## Reading the parts -/

theorem takeDigits_append {w r : Text} (hw : IsDigits w) (hr : NoDigitHead r) :
    takeDigits (w ++ r) = (digitValues w, r) := by
  have ht : r.takeWhile isValuedDigit = [] := by
    cases r with
    | nil => rfl
    | cons c r => simp [hr c rfl]
  have hd : r.dropWhile isValuedDigit = r := by
    cases r with
    | nil => rfl
    | cons c r => simp [hr c rfl]
  rw [takeDigits, List.takeWhile_append_of_pos hw, List.dropWhile_append_of_pos hw, ht, hd,
    List.append_nil]
  rfl

theorem takeDigits_of_isDigits {w : Text} (hw : IsDigits w) :
    takeDigits w = (digitValues w, []) := by
  have hnone : NoDigitHead [] := by
    intro c hc
    cases hc
  have hdigits := takeDigits_append hw hnone
  rwa [List.append_nil] at hdigits

theorem takeSign_append {s r : Text} (hs : IsSign s)
    (hr : ∀ c ∈ r.head?, c ≠ '+' ∧ c ≠ '-') : takeSign (s ++ r) = (s == ['-'], r) := by
  rcases hs with rfl | rfl | rfl
  · cases r with
    | nil => rfl
    | cons c r =>
      obtain ⟨hp, hm⟩ := hr c rfl
      rw [List.nil_append, takeSign.eq_def]
      split <;> simp_all
  · rfl
  · rfl

theorem ne_sign_of_isValuedDigit {c : Char} (h : isValuedDigit c = true) : c ≠ '+' ∧ c ≠ '-' := by
  constructor
  · rintro rfl
    rw [not_isValuedDigit_of_mem_signs (by decide)] at h
    exact Bool.false_ne_true h
  · rintro rfl
    rw [not_isValuedDigit_of_mem_signs (by decide)] at h
    exact Bool.false_ne_true h

theorem takeFraction_append {f x : Text} (hf : IsFraction f) (hx : IsPower x) :
    takeFraction (f ++ x) = (digitValues (f.drop 1), x) := by
  rcases hf with rfl | ⟨ds, rfl, hds⟩
  · rcases hx with rfl | ⟨e, s, ds, rfl, rfl | rfl, -⟩ <;> rfl
  · exact takeDigits_append hds (noDigitHead_of_isPower hx)

theorem isSome_exponent? {x : Text} (hx : IsPower x) : (exponent? x).isSome = true := by
  rcases hx with rfl | ⟨e, s, ds, rfl, he, hs, hne, hds⟩
  · rfl
  · have hhead : ∀ c ∈ ds.head?, c ≠ '+' ∧ c ≠ '-' := by
      intro c hc
      exact ne_sign_of_isValuedDigit (hds c (List.mem_of_mem_head? hc))
    have hsign := takeSign_append hs hhead
    have hdigits := takeDigits_of_isDigits hds
    have hv := digitValues_ne_nil hds hne
    have he : (decide (e = 'e') || decide (e = 'E')) = true := by simpa using he
    simp only [exponent?, he, if_true, hsign, hdigits]
    cases hvs : digitValues ds with
    | nil => exact absurd hvs hv
    | cons d vs => rfl

/-- the decimal that the parts of a numeral denote -/
theorem Decimal.ofNumeral?_parts {s w f x : Text} (hs : IsSign s) (hw : IsDigits w)
    (hf : IsFraction f) (hx : IsPower x) (hne : w ≠ [] ∨ 2 ≤ f.length) :
    ofNumeral? (s ++ (w ++ (f ++ x))) = some
      ⟨s == ['-'], ofDigits (digitValues w ++ digitValues (f.drop 1)),
        (exponent? x).getD 0 - (digitValues (f.drop 1)).length⟩ := by
  have hhead : ∀ c ∈ (w ++ (f ++ x)).head?, c ≠ '+' ∧ c ≠ '-' := by
    intro c hc
    cases w with
    | cons d w =>
      cases hc
      exact ne_sign_of_isValuedDigit (hw _ List.mem_cons_self)
    | nil =>
      rcases hf with rfl | ⟨ds, rfl, -⟩
      · simp at hne
      · cases hc
        decide
  have hempty : ((digitValues w).isEmpty && (digitValues (f.drop 1)).isEmpty) = false := by
    rcases hne with hne | hne
    · simp [digitValues_ne_nil hw hne]
    · rcases hf with rfl | ⟨ds, rfl, hds⟩
      · simp at hne
      · have hne : ds ≠ [] := by
          rintro rfl
          simp at hne
        simp [digitValues_ne_nil hds hne]
  obtain ⟨e, he⟩ := Option.isSome_iff_exists.mp (isSome_exponent? hx)
  unfold ofNumeral?
  rw [takeSign_append hs hhead]
  simp only [takeDigits_append hw (noDigitHead_fraction_append hf hx), takeFraction_append hf hx,
    hempty, he, Option.map_some, Option.getD_some]
  rfl

/-! ## What is read is made of the parts -/

theorem takeSign_parts (t : Text) : ∃ s, IsSign s ∧ t = s ++ (takeSign t).2 := by
  unfold takeSign
  split
  · exact ⟨['-'], .inr (.inr rfl), rfl⟩
  · exact ⟨['+'], .inr (.inl rfl), rfl⟩
  · exact ⟨[], .inl rfl, rfl⟩

theorem takeDigits_parts (t : Text) : ∃ w, IsDigits w ∧ t = w ++ (takeDigits t).2 ∧
    (takeDigits t).1 = digitValues w :=
  ⟨t.takeWhile isValuedDigit, isDigits_takeWhile t, List.takeWhile_append_dropWhile.symm, rfl⟩

theorem takeFraction_parts (t : Text) : ∃ f, IsFraction f ∧ t = f ++ (takeFraction t).2 ∧
    (takeFraction t).1 = digitValues (f.drop 1) := by
  unfold takeFraction
  split
  · rename_i r
    obtain ⟨w, hw, hr, hv⟩ := takeDigits_parts r
    refine ⟨'.' :: w, .inr ⟨w, rfl, hw⟩, ?_, hv⟩
    rw [List.cons_append, ← hr]
  · exact ⟨[], .inl rfl, rfl, rfl⟩

theorem isPower_of_exponent? {t : Text} {n : Int} (h : exponent? t = some n) : IsPower t := by
  unfold exponent? at h
  split at h
  · exact .inl rfl
  · rename_i e r
    split at h
    · rename_i he
      obtain ⟨s, hs, hr⟩ := takeSign_parts r
      obtain ⟨w, hw, hrest, hv⟩ := takeDigits_parts (takeSign r).2
      simp only at h
      split at h
      · rename_i d ds heq
        rw [heq] at hrest hv
        have hne : w ≠ [] := by
          rintro rfl
          cases hv
        refine .inr ⟨e, s, w, ?_, by simpa using he, hs, hne, hw⟩
        rw [hr, hrest, List.append_nil]
      · cases h
    · cases h

/-- a text that denotes a decimal is made of the parts of a numeral -/
theorem isDecimal_of_ofNumeral? {t : Text} {d : Decimal} (h : Decimal.ofNumeral? t = some d) :
    IsDecimal t := by
  obtain ⟨s, hs, ht⟩ := takeSign_parts t
  obtain ⟨w, hw, hu, hwv⟩ := takeDigits_parts (takeSign t).2
  obtain ⟨f, hf, hv, hfv⟩ := takeFraction_parts (takeDigits (takeSign t).2).2
  simp only [Decimal.ofNumeral?] at h
  split at h
  · cases h
  · rename_i hne
    obtain ⟨e, he, -⟩ := Option.map_eq_some_iff.mp h
    have hx := isPower_of_exponent? he
    rw [ht, hu, hv]
    refine .parts hs hw hf hx ?_
    by_cases hw0 : w = []
    · right
      rcases hf with rfl | ⟨ds, rfl, -⟩
      · rw [hwv, hfv, hw0] at hne
        exact absurd rfl hne
      · cases ds with
        | nil =>
          rw [hwv, hfv, hw0] at hne
          exact absurd rfl hne
        | cons c ds => simp
    · exact .inl hw0

/-! ## Characters of a text that is read -/

def IsNumeralChar (c : Char) : Prop :=
  isValuedDigit c = true ∨ c ∈ ['+', '-', '.', 'e', 'E']

theorem IsSign.isNumeralChar {t : Text} (h : IsSign t) : ∀ c ∈ t, IsNumeralChar c := by
  intro c hc
  rcases h with rfl | rfl | rfl
  · cases hc
  · rw [List.mem_singleton.mp hc]
    exact .inr (by decide)
  · rw [List.mem_singleton.mp hc]
    exact .inr (by decide)

theorem IsDigits.isNumeralChar {t : Text} (h : IsDigits t) : ∀ c ∈ t, IsNumeralChar c :=
  fun c hc => .inl (h c hc)

theorem IsDecimal.isNumeralChar {t : Text} (h : IsDecimal t) : ∀ c ∈ t, IsNumeralChar c := by
  obtain ⟨hs, hw, hf, hx, -⟩ := h
  intro c hc
  simp only [List.mem_append] at hc
  rcases hc with hc | hc | hc | hc
  · exact hs.isNumeralChar c hc
  · exact hw.isNumeralChar c hc
  · rcases hf with rfl | ⟨ds, rfl, hds⟩
    · cases hc
    · rcases List.mem_cons.mp hc with rfl | hc
      · exact .inr (by decide)
      · exact hds.isNumeralChar c hc
  · rcases hx with rfl | ⟨e, s, ds, rfl, he, hs', -, hds⟩
    · cases hc
    · rcases List.mem_cons.mp hc with rfl | hc
      · right
        rcases he with rfl | rfl <;> decide
      · rcases List.mem_append.mp hc with hc | hc
        · exact hs'.isNumeralChar c hc
        · exact hds.isNumeralChar c hc

theorem IsDecimal.last {t : Text} (h : IsDecimal t) :
    ∃ c ∈ t.getLast?, isValuedDigit c = true ∨ c = '.' := by
  have hdigits : ∀ {ds : Text}, IsDigits ds → ds ≠ [] →
      ∃ c ∈ ds.getLast?, isValuedDigit c = true := by
    intro ds hds hne
    exact ⟨ds.getLast hne, List.getLast?_eq_some_getLast hne, hds _ (List.getLast_mem hne)⟩
  obtain ⟨hs, hw, hf, hx, hne⟩ := h
  rcases hx with rfl | ⟨e, s, ds, rfl, -, -, hds0, hds⟩
  · rcases hf with rfl | ⟨ds, rfl, hds⟩
    · have hw0 : _ ≠ [] := hne.resolve_right (by simp)
      obtain ⟨c, hc, hd⟩ := hdigits hw hw0
      refine ⟨c, ?_, .inl hd⟩
      simp only [List.append_nil, List.getLast?_append, Option.mem_def]
      rw [Option.mem_def.mp hc]
      rfl
    · by_cases hds0 : ds = []
      · subst hds0
        exact ⟨'.', by simp, .inr rfl⟩
      · obtain ⟨c, hc, hd⟩ := hdigits hds hds0
        refine ⟨c, ?_, .inl hd⟩
        have hcons : ('.' :: ds).getLast? = some c := by
          rw [List.getLast?_cons, Option.mem_def.mp hc]
          rfl
        simp only [List.append_nil, List.getLast?_append, Option.mem_def, hcons, Option.some_or]
  · obtain ⟨c, hc, hd⟩ := hdigits hds hds0
    refine ⟨c, ?_, .inl hd⟩
    simp only [List.getLast?_append, List.getLast?_cons, Option.mem_def, Option.mem_def.mp hc,
      Option.some_or, Option.getD_some]

theorem isBlank_or_mem_trim {t : Text} {c : Char} (h : c ∈ t) : isBlank c = true ∨ c ∈ trim t := by
  rw [← List.takeWhile_append_dropWhile (p := isBlank) (l := t)] at h
  rcases List.mem_append.mp h with h | h
  · exact .inl (List.mem_takeWhile_imp h)
  · rw [← trimEndWhile_append_endingWhile isBlank (t.dropWhile isBlank)] at h
    rcases List.mem_append.mp h with h | h
    · exact .inr h
    · left
      rw [endingWhile, List.mem_reverse] at h
      exact List.mem_takeWhile_imp h

/-- a text without blanks has none to trim -/
theorem trim_of_no_blank {t : Text} (h : ∀ c ∈ t, isBlank c = false) : trim t = t := by
  have hdrop : ∀ {u : Text}, (∀ c ∈ u, isBlank c = false) → u.dropWhile isBlank = u := by
    intro u hu
    cases u with
    | nil => rfl
    | cons c u => simp [hu c List.mem_cons_self]
  have hrev : ∀ c ∈ t.reverse, isBlank c = false := fun c hc => h c (List.mem_reverse.mp hc)
  rw [trim, hdrop h, trimEndWhile, hdrop hrev, List.reverse_reverse]

/-! ## Texts that are read as they stand -/

/-- a text of such characters is read as it stands -/
def IsVerbatim (t : Text) : Prop := ∀ c ∈ t, isBlank c = false ∧ pointForComma c = c

theorem isVerbatim_nil : IsVerbatim [] := by
  intro c hc
  cases hc

theorem isVerbatim_append {s t : Text} : IsVerbatim (s ++ t) ↔ IsVerbatim s ∧ IsVerbatim t :=
  List.forall_mem_append

theorem isVerbatim_cons {c : Char} {t : Text} :
    IsVerbatim (c :: t) ↔ (isBlank c = false ∧ pointForComma c = c) ∧ IsVerbatim t :=
  List.forall_mem_cons

theorem IsVerbatim.trim_map {t : Text} (h : IsVerbatim t) : (trim t).map pointForComma = t := by
  rw [trim_of_no_blank fun c hc => (h c hc).1, List.map_congr_left fun c hc => (h c hc).2,
    List.map_id']

/-! ## Texts that are read -/

theorem isDecimal_of_readNumber? {t : Text} {x : Float} (h : readNumber? t = some x) :
    IsDecimal ((trim t).map pointForComma) := by
  obtain ⟨d, hd, -⟩ := Option.map_eq_some_iff.mp h
  exact isDecimal_of_ofNumeral? hd

/-- what stands in a text that is read -/
theorem mem_of_readNumber? {t : Text} {x : Float} (h : readNumber? t = some x) {c : Char}
    (hc : c ∈ t) : isBlank c = true ∨ c = ',' ∨ IsNumeralChar c := by
  rcases isBlank_or_mem_trim hc with hb | hc
  · exact .inl hb
  · right
    have hm := (isDecimal_of_readNumber? h).isNumeralChar (pointForComma c)
      (List.mem_map_of_mem hc)
    by_cases hcomma : c = ','
    · exact .inl hcomma
    · rw [pointForComma, if_neg hcomma] at hm
      exact .inr hm

/-- a text keeps its last character under trimming if that is not blank -/
theorem getLast?_trim {t : Text} {c : Char} (h : t.getLast? = some c) (hc : isBlank c = false) :
    (trim t).getLast? = some c := by
  obtain ⟨r, rfl⟩ := List.getLast?_eq_some_iff.mp h
  have hd : ∃ u, (r ++ [c]).dropWhile isBlank = u ++ [c] := by
    rw [List.dropWhile_append]
    split
    · exact ⟨[], by simp [hc]⟩
    · exact ⟨_, rfl⟩
  obtain ⟨u, hu⟩ := hd
  simp [trim, trimEndWhile, hu, hc]

/-- a text that is read ends in a digit or a separator, or in a blank -/
theorem last_of_readNumber? {t : Text} {x : Float} (h : readNumber? t = some x) {c : Char}
    (hc : t.getLast? = some c) :
    isBlank c = true ∨ isValuedDigit c = true ∨ c = '.' ∨ c = ',' := by
  by_cases hb : isBlank c = true
  · exact .inl hb
  · right
    rw [Bool.not_eq_true] at hb
    have hlast : ((trim t).map pointForComma).getLast? = some (pointForComma c) := by
      rw [List.getLast?_map, getLast?_trim hc hb, Option.map_some]
    obtain ⟨d, hd, hcase⟩ := (isDecimal_of_readNumber? h).last
    rw [hlast] at hd
    cases hd
    by_cases hcomma : c = ','
    · exact .inr (.inr hcomma)
    · rw [pointForComma, if_neg hcomma] at hcase
      rcases hcase with hcase | hcase
      · exact .inl hcase
      · exact .inr (.inl hcase)

end PocketCalc
