import PocketCalc.Keypad.Basic
import PocketCalc.Proofs.Plain

/-!
# How written numbers begin and end

What is typed is added to an entry, and a sign is put in front of it.  So it matters how an entry
begins, and whether it ends in a constant.

* `endsInConstant`              a constant stands at the end of a text;
* `NoSymbol`                    no constant stands anywhere in it;
* `Bare`, `Headed`              no sign and no blank in front, or only one minus sign;
* `writeEntry_ends`             how a number in the entry line begins and ends;
* `toggled_append`, ...         the sign changed.
-/

namespace PocketCalc
open Text

/-! ## Constants in a text -/

/-- a constant stands at the end of the text -/
def endsInConstant (t : Text) : Bool := t.getLast?.any Constant.isSymbol

/-- no constant stands in the text -/
def NoSymbol (t : Text) : Prop := ∀ c ∈ t, Constant.isSymbol c = false

instance (t : Text) : Decidable (NoSymbol t) :=
  inferInstanceAs (Decidable (∀ c ∈ t, Constant.isSymbol c = false))

@[simp]
theorem noSymbol_nil : NoSymbol [] := by
  intro c hc
  cases hc

@[simp]
theorem noSymbol_cons {c : Char} {t : Text} :
    NoSymbol (c :: t) ↔ Constant.isSymbol c = false ∧ NoSymbol t := by
  simp [NoSymbol]

@[simp]
theorem noSymbol_append {s t : Text} : NoSymbol (s ++ t) ↔ NoSymbol s ∧ NoSymbol t := by
  simp only [NoSymbol, List.mem_append]
  constructor
  · intro h
    exact ⟨fun c hc => h c (.inl hc), fun c hc => h c (.inr hc)⟩
  · rintro ⟨hs, ht⟩ c (hc | hc)
    · exact hs c hc
    · exact ht c hc

theorem NoSymbol.of_subset {s t : Text} (h : NoSymbol t) (hst : s ⊆ t) : NoSymbol s :=
  fun c hc => h c (hst hc)

theorem NoSymbol.endsInConstant {t : Text} (h : NoSymbol t) : endsInConstant t = false := by
  unfold PocketCalc.endsInConstant
  cases hl : t.getLast? with
  | none => rfl
  | some c => exact h c (List.mem_of_getLast? hl)

/-- only the end of a text counts -/
theorem endsInConstant_append (s : Text) {t : Text} (ht : t ≠ []) :
    endsInConstant (s ++ t) = endsInConstant t := by
  unfold endsInConstant
  rw [List.getLast?_append, List.getLast?_eq_some_getLast ht, Option.some_or]

theorem Constant.isSymbol_symbol (c : Constant) : isSymbol c.symbol = true := by
  cases c <;> rfl

theorem Constant.exists_of_isSymbol {c : Char} (h : isSymbol c = true) :
    ∃ k : Constant, c = k.symbol := by
  simp only [isSymbol, List.any_eq_true, decide_eq_true_eq] at h
  obtain ⟨k, -, hk⟩ := h
  exact ⟨k, hk.symm⟩

/-- a text that ends in a constant is no number -/
theorem readNumber?_of_endsInConstant {t : Text} (h : endsInConstant t = true) :
    readNumber? t = none := by
  have hlast : ∀ k : Constant, ¬ (isBlank k.symbol = true ∨ isValuedDigit k.symbol = true ∨
      k.symbol = '.' ∨ k.symbol = ',') := by
    intro k
    cases k <;> decide
  cases hx : readNumber? t with
  | none => rfl
  | some x =>
    unfold endsInConstant at h
    cases hl : t.getLast? with
    | none =>
      rw [hl] at h
      cases h
    | some c =>
      rw [hl] at h
      obtain ⟨k, rfl⟩ := Constant.exists_of_isSymbol h
      exact absurd (last_of_readNumber? hx hl) (hlast k)

/-! ## The front of a text -/

/-- neither a sign nor a blank stands in front -/
def Bare (t : Text) : Prop := ∀ c ∈ t.head?, c ≠ '+' ∧ c ≠ '-' ∧ isBlank c = false

/-- the text without the minus sign in front of it -/
def unsigned : Text → Text
  | '-' :: r => r
  | t => t

/-- a minus sign in front, or none, and neither sign nor blank behind it -/
def Headed (t : Text) : Prop := Bare (unsigned t)

theorem bare_nil : Bare [] := by
  intro c hc
  cases hc

theorem bare_cons {c : Char} (hc : c ≠ '+' ∧ c ≠ '-' ∧ isBlank c = false) (t : Text) :
    Bare (c :: t) := by
  intro d hd
  cases hd
  exact hc

theorem Constant.bare_symbol (c : Constant) : Bare [c.symbol] := by
  cases c <;> exact bare_cons (by decide) []

theorem Trig.bare_name_append (f : Trig) (r : Text) : Bare (f.name ++ r) := by
  cases f <;> exact bare_cons (by decide) _

theorem bare_append {s t : Text} (hs : Bare s) (ht : Bare t) : Bare (s ++ t) := by
  cases s with
  | nil => exact ht
  | cons c s => exact bare_cons (hs c rfl) _

theorem Bare.of_append {s t : Text} (h : Bare (s ++ t)) : Bare s := by
  cases s with
  | nil => exact bare_nil
  | cons c s => exact bare_cons (h c rfl) _

theorem Bare.unsigned_eq {t : Text} (h : Bare t) : unsigned t = t := by
  unfold unsigned
  split
  · exact absurd rfl (h '-' rfl).2.1
  · rfl

theorem Bare.headed {t : Text} (h : Bare t) : Headed t := by
  rw [Headed, h.unsigned_eq]
  exact h

/-- a sign stands in front, or none -/
theorem Headed.bare_or {t : Text} (h : Headed t) : Bare t ∨ ∃ r, t = '-' :: r ∧ Bare r := by
  unfold Headed unsigned at h
  split at h
  · rename_i r
    exact .inr ⟨r, rfl, h⟩
  · exact .inl h

theorem headed_nil : Headed [] := bare_nil.headed

theorem headed_append {s t : Text} (hs : Headed s) (ht : Bare t) : Headed (s ++ t) := by
  unfold Headed unsigned at *
  split at hs
  · exact bare_append hs ht
  · rename_i hne
    split
    · rename_i r heq
      cases s with
      | nil =>
        cases heq
        exact absurd rfl (ht '-' rfl).2.1
      | cons c s =>
        cases heq
        exact absurd rfl (hne s)
    · exact bare_append hs ht

theorem Headed.of_append {s t : Text} (h : Headed (s ++ t)) : Headed s := by
  by_cases hs : ∃ r, s = '-' :: r
  · obtain ⟨r, rfl⟩ := hs
    exact Bare.of_append (t := t) h
  · have heq : unsigned s = s := by
      unfold unsigned
      split
      · exact absurd ⟨_, rfl⟩ hs
      · rfl
    rw [Headed, heq]
    cases s with
    | nil => exact bare_nil
    | cons c s =>
      have happ : unsigned (c :: s ++ t) = c :: s ++ t := by
        rw [List.cons_append]
        unfold unsigned
        split
        · rename_i r hr
          cases hr
          exact absurd ⟨s, rfl⟩ hs
        · rfl
      rw [Headed, happ] at h
      exact h.of_append

theorem Headed.dropLast {t : Text} (h : Headed t) : Headed t.dropLast := by
  cases t with
  | nil => exact h
  | cons c t =>
    rw [← List.dropLast_concat_getLast (List.cons_ne_nil c t)] at h
    exact h.of_append

theorem headed_withSign {t : Text} (h : Bare t) (negative : Bool) :
    Headed (withSign negative t) := by
  cases negative with
  | false => exact h.headed
  | true => exact h

/-! ## Written numbers -/

/-- a row of the digits `0` to `9`, and of points -/
def IsFigures (t : Text) : Prop := ∀ c ∈ t, c.isDigit = true ∨ c = '.'

theorem figure_facts {c : Char} (h : c.isDigit = true ∨ c = '.') :
    (c ≠ '+' ∧ c ≠ '-' ∧ isBlank c = false) ∧ Constant.isSymbol c = false := by
  have hother : ∀ d ∈ ['+', '-', 'π', 'e'], c ≠ d := by
    rintro d hd rfl
    have hno : ∀ d ∈ ['+', '-', 'π', 'e'], ¬ (d.isDigit = true ∨ d = '.') := by decide
    exact hno c hd h
  refine ⟨⟨hother _ (by decide), hother _ (by decide), ?_⟩, ?_⟩
  · rcases h with h | rfl
    · simp only [Char.isDigit, Bool.and_eq_true, decide_eq_true_eq, ge_iff_le,
        UInt32.le_iff_toNat_le] at h
      have hn : c.toNat = c.val.toNat := rfl
      have h0 : '0'.val.toNat = 48 := rfl
      have h9 : '9'.val.toNat = 57 := rfl
      simp only [isBlank, isSpace, Ranges.has, spaceRanges, List.any_cons, List.any_nil,
        Bool.or_eq_false_iff, Bool.and_eq_false_iff, decide_eq_false_iff_not, and_true]
      repeat' apply And.intro
      all_goals omega
    · decide
  · simp [Constant.isSymbol, Constant.all, Constant.symbol, (hother 'π' (by decide)).symm,
      (hother 'e' (by decide)).symm]

theorem IsFigures.noSymbol {t : Text} (h : IsFigures t) : NoSymbol t :=
  fun c hc => (figure_facts (h c hc)).2

theorem IsFigures.bare {t : Text} (h : IsFigures t) : Bare t :=
  fun c hc => (figure_facts (h c (List.mem_of_mem_head? hc))).1

theorem isFigures_append {s t : Text} (hs : IsFigures s) (ht : IsFigures t) :
    IsFigures (s ++ t) := by
  intro c hc
  rcases List.mem_append.mp hc with hc | hc
  · exact hs c hc
  · exact ht c hc

theorem IsFigures.of_subset {s t : Text} (h : IsFigures t) (hst : s ⊆ t) : IsFigures s :=
  fun c hc => h c (hst hc)

theorem isFigures_replicate (n : Nat) : IsFigures (List.replicate n '0') := by
  intro c hc
  rw [List.eq_of_mem_replicate hc]
  exact .inl rfl

theorem isFigures_natText (n : Nat) : IsFigures (natText n) :=
  fun _ hc => .inl (Nat.isDigit_of_mem_toDigits (by decide) (by decide) hc)

theorem isFigures_positional {ds : Text} (h : IsFigures ds) (pointZero : Bool) (point : Int) :
    IsFigures (positional pointZero ds point) := by
  have hzeros := isFigures_replicate
  have hpoint : ∀ {t : Text}, IsFigures t → IsFigures ('.' :: t) := by
    intro t ht c hc
    rcases List.mem_cons.mp hc with rfl | hc
    · exact .inr rfl
    · exact ht c hc
  have hzero : ∀ {t : Text}, IsFigures t → IsFigures ('0' :: t) := fun ht =>
    isFigures_append (isFigures_replicate 1) ht
  have hnil : IsFigures [] := isFigures_replicate 0
  unfold positional
  split
  · exact isFigures_append (isFigures_append (hzero (hpoint hnil)) (hzeros _)) h
  · split
    · refine isFigures_append (isFigures_append h (hzeros _)) ?_
      cases pointZero
      · exact hnil
      · exact hpoint (hzero hnil)
    · exact isFigures_append (h.of_subset (List.take_subset _ _))
        (hpoint (h.of_subset (List.drop_subset _ _)))

/-- a power of ten ends in a digit -/
theorem endsInConstant_powerText (e : Int) : endsInConstant (powerText e) = false := by
  apply NoSymbol.endsInConstant
  unfold powerText
  refine noSymbol_cons.mpr ⟨?_, ?_⟩
  · split <;> decide
  · exact noSymbol_append.mpr ⟨(isFigures_replicate _).noSymbol, (isFigures_natText _).noSymbol⟩

theorem Style.write_ends (s : Style) {ds : Text} (h : IsFigures ds) (point : Int) :
    Bare (s.write ds point) ∧ endsInConstant (s.write ds point) = false := by
  unfold Style.write
  split
  · have hfig := isFigures_positional h s.pointZero point
    exact ⟨hfig.bare, hfig.noSymbol.endsInConstant⟩
  · unfold scientific
    constructor
    · refine bare_append (bare_append (h.of_subset (List.take_subset _ _)).bare ?_)
        (bare_cons (by decide) _)
      split
      · exact bare_nil
      · exact bare_cons (by decide) _
    · rw [endsInConstant_append _ (List.cons_ne_nil _ _)]
      exact (endsInConstant_append ['e'] (List.cons_ne_nil _ _)).trans
        (endsInConstant_powerText _)

theorem Style.writeDigits_ends (s : Style) (digits : Nat) (exponent : Int) :
    Bare (s.writeDigits digits exponent) ∧
      endsInConstant (s.writeDigits digits exponent) = false := by
  unfold Style.writeDigits
  split
  · exact s.write_ends (isFigures_replicate 1) 1
  · refine s.write_ends ((isFigures_natText digits).of_subset ?_) _
    intro c hc
    rw [← trimEndWhile_append_endingWhile (· == '0') (natText digits)]
    exact List.mem_append_left _ hc

theorem endsInConstant_withSign {t : Text} (h : endsInConstant t = false) (negative : Bool) :
    endsInConstant (withSign negative t) = false := by
  cases negative with
  | false => exact h
  | true =>
    cases t with
    | nil => rfl
    | cons c t => exact (endsInConstant_append ['-'] (List.cons_ne_nil c t)).trans h

theorem nonFiniteText_ends (x : Float) :
    Headed (nonFiniteText x) ∧ endsInConstant (nonFiniteText x) = false := by
  unfold nonFiniteText
  split
  · exact ⟨Bare.headed (bare_cons (by decide) _), by decide⟩
  · exact ⟨headed_withSign (bare_cons (by decide) _) _, endsInConstant_withSign (by decide) _⟩

theorem writeShortest_ends (x : Float) :
    Headed (writeShortest x) ∧ endsInConstant (writeShortest x) = false := by
  unfold writeShortest
  split
  · exact nonFiniteText_ends x
  · rename_i v _
    have hends := Style.writeDigits_ends Style.shortest
    exact ⟨headed_withSign (hends _ _).1 _, endsInConstant_withSign (hends _ _).2 _⟩

theorem intText_ends (n : Int) : Headed (intText n) ∧ endsInConstant (intText n) = false := by
  have hds := isFigures_natText n.natAbs
  have hsign := endsInConstant_withSign hds.noSymbol.endsInConstant
  unfold intText
  split
  · exact ⟨headed_withSign hds.bare true, hsign true⟩
  · exact ⟨hds.bare.headed, hsign false⟩

theorem writeEntry_ends (x : Float) :
    Headed (writeEntry x) ∧ endsInConstant (writeEntry x) = false := by
  unfold writeEntry
  split
  · split
    · exact intText_ends _
    · exact writeShortest_ends x
  · exact writeShortest_ends x

/-! ## Changing the sign -/

namespace Keypad

theorem toggled_cons_minus (t : Text) : toggled ('-' :: t) = t := rfl

theorem toggled_of_bare {t : Text} (h : Bare t) : toggled t = '-' :: t := by
  unfold toggled
  split
  · exact absurd rfl (h '-' rfl).2.1
  · rfl

theorem headed_toggled {t : Text} (h : Headed t) : Headed (toggled t) := by
  rcases h.bare_or with hb | ⟨r, rfl, hb⟩
  · rw [toggled_of_bare hb]
    exact hb
  · exact hb.headed

theorem toggled_toggled {t : Text} (h : Headed t) : toggled (toggled t) = t := by
  rcases h.bare_or with hb | ⟨r, rfl, hb⟩
  · rw [toggled_of_bare hb, toggled_cons_minus]
  · rw [toggled_cons_minus, toggled_of_bare hb]

/-- the sign of a text is the sign of what stands in front of it -/
theorem toggled_append (p : Text) {r : Text} (hr : Bare r) : toggled (p ++ r) = toggled p ++ r := by
  cases p with
  | nil => exact toggled_of_bare hr
  | cons c p =>
    by_cases hc : c = '-'
    · subst hc
      rfl
    · have hmain : ∀ t, toggled (c :: t) = '-' :: c :: t := by
        intro t
        unfold toggled
        split
        · rename_i heq
          exact absurd (List.cons.inj heq).1 hc
        · rfl
      rw [List.cons_append, hmain, hmain]
      rfl

theorem plain_toggled {t : Text} (h : Plain t) : Plain (toggled t) := by
  unfold toggled
  split
  · exact (plain_cons.mp h).2
  · exact plain_cons.mpr ⟨by decide, h⟩

theorem noSymbol_toggled {t : Text} (h : NoSymbol t) : NoSymbol (toggled t) := by
  unfold toggled
  split
  · exact (noSymbol_cons.mp h).2
  · exact noSymbol_cons.mpr ⟨by decide, h⟩

theorem endsInConstant_toggled (t : Text) : endsInConstant (toggled t) = endsInConstant t := by
  have hsign : ∀ r, endsInConstant ('-' :: r) = endsInConstant r := by
    intro r
    cases r with
    | nil => rfl
    | cons c r => exact endsInConstant_append ['-'] (List.cons_ne_nil c r)
  unfold toggled
  split
  · exact (hsign _).symm
  · exact hsign t

end Keypad
end PocketCalc
