import PocketCalc.Keypad.Press
import PocketCalc.Proofs.Negation
import PocketCalc.Proofs.Written

/-!
# What an entry shows

The number that is typed in front of a function or a constant, as it reads on the display: nothing
stands for one, a lone minus sign for minus one.  Changing the sign of the text changes the sign of
the number, for every text that has at most one sign in front.

* `readNumber?_cons_minus`   a minus sign in front of a numeral;
* `readNumber?_toggled`      the sign of an entry changed;
* `shownFactor?`             the number in front of a function or a constant;
* `InFront`                  the factor of a scope goes with the text in front of it;
* `shownOperand?`            the number in a function scope, or the constant with its factor.
-/

namespace PocketCalc
open Text

/-! ## Numbers with a minus sign -/

theorem Decimal.toFloat_negative (digits : Nat) (exponent : Int) :
    (⟨true, digits, exponent⟩ : Decimal).toFloat =
      -(⟨false, digits, exponent⟩ : Decimal).toFloat := by
  unfold Decimal.toFloat
  simp only
  repeat' split
  all_goals rfl

theorem takeSign_of_bare {t : Text} (h : Bare t) : takeSign t = (false, t) := by
  unfold takeSign
  split
  · exact absurd rfl (h '-' rfl).2.1
  · exact absurd rfl (h '+' rfl).1
  · rfl

/-- a minus sign in front of a numeral changes the sign of what it denotes -/
theorem ofNumeral?_cons_minus {t : Text} (h : Bare t) :
    (Decimal.ofNumeral? ('-' :: t)).map Decimal.toFloat =
      ((Decimal.ofNumeral? t).map Decimal.toFloat).map fun x => -x := by
  have hminus : takeSign ('-' :: t) = (true, t) := rfl
  simp only [Decimal.ofNumeral?, hminus, takeSign_of_bare h]
  split
  · rfl
  · cases exponent? (takeFraction (takeDigits t).2).2 with
    | none => rfl
    | some e => exact congrArg some (Decimal.toFloat_negative _ _)

theorem dropWhile_isBlank_of_bare {t : Text} (h : Bare t) : t.dropWhile isBlank = t := by
  cases t with
  | nil => rfl
  | cons c t => rw [List.dropWhile_cons, (h c rfl).2.2]; rfl

theorem Bare.trim {t : Text} (h : Bare t) : Bare (trim t) := by
  rw [Text.trim, dropWhile_isBlank_of_bare h]
  have happ := trimEndWhile_append_endingWhile isBlank t
  rw [← happ] at h
  exact h.of_append

theorem bare_map_pointForComma {t : Text} (h : Bare t) : Bare (t.map pointForComma) := by
  cases t with
  | nil => exact bare_nil
  | cons c t =>
    refine bare_cons ?_ _
    unfold pointForComma
    split
    · decide
    · exact h c rfl

theorem trimEndWhile_cons {p : Char → Bool} {c : Char} (hc : p c = false) (t : Text) :
    trimEndWhile p (c :: t) = c :: trimEndWhile p t := by
  unfold trimEndWhile
  rw [List.reverse_cons, List.dropWhile_append]
  split
  · rename_i hnil
    rw [List.isEmpty_iff.mp hnil, List.dropWhile_cons, hc]
    rfl
  · rw [List.reverse_append]
    rfl

theorem readNumber?_cons_minus {t : Text} (h : Bare t) :
    readNumber? ('-' :: t) = (readNumber? t).map fun x => -x := by
  have htrim : trim ('-' :: t) = '-' :: trim t := by
    have hminus : isBlank '-' = false := by decide
    rw [trim, trim, List.dropWhile_cons, hminus, dropWhile_isBlank_of_bare h]
    exact trimEndWhile_cons hminus t
  rw [readNumber?, readNumber?, htrim]
  exact ofNumeral?_cons_minus (bare_map_pointForComma h.trim)

namespace Keypad

/-! ## Changing the sign -/

theorem readNumber?_toggled {t : Text} (h : Headed t) :
    readNumber? (toggled t) = (readNumber? t).map fun x => -x := by
  rcases h.bare_or with hb | ⟨r, rfl, hb⟩
  · rw [toggled_of_bare hb, readNumber?_cons_minus hb]
  · rw [toggled_cons_minus, readNumber?_cons_minus hb, Option.map_map]
    simp [Function.comp_def, float_neg_neg]

/-! ## Factors -/

/-- the number that stands in front: nothing is one, a lone sign is minus one -/
def shownFactor? (p : Text) : Option Float :=
  if p = [] then some 1 else if p = ['-'] then some (-1) else readNumber? p

theorem shownFactor?_toggled {p : Text} (h : Headed p) :
    shownFactor? (toggled p) = (shownFactor? p).map fun x => -x := by
  by_cases hnil : p = []
  · subst hnil
    rfl
  by_cases hsign : p = ['-']
  · subst hsign
    exact congrArg some (float_neg_neg 1).symm
  have htoggled : toggled p ≠ [] ∧ toggled p ≠ ['-'] := by
    rcases h.bare_or with hb | ⟨r, rfl, hb⟩
    · rw [toggled_of_bare hb]
      refine ⟨List.cons_ne_nil _ _, ?_⟩
      intro heq
      exact hnil (List.cons.inj heq).2
    · rw [toggled_cons_minus]
      refine ⟨?_, ?_⟩
      · rintro rfl
        exact hsign rfl
      · rintro rfl
        exact absurd rfl (hb '-' rfl).2.1
  rw [shownFactor?, if_neg htoggled.1, if_neg htoggled.2, shownFactor?, if_neg hnil, if_neg hsign,
    readNumber?_toggled h]

theorem factorOf_eq {p : Text} {v : Float} (h : shownFactor? p = some v) : factorOf p = v := by
  unfold shownFactor? at h
  split at h
  · rename_i hp
    subst hp
    exact Option.some.inj h
  split at h
  · rename_i hp
    subst hp
    exact Option.some.inj h
  · rw [factorOf, h]

/-! ## Factors of a scope -/

/-- The factor of a scope goes with the text in front of it: it is the number that stood there when
the function was opened, one where none did, or the negative of that with the sign of the text
changed. -/
def InFront (p₀ p : Text) (factor : Option Float) : Prop :=
  (p = p₀ ∧ factor.getD 1 = (readNumber? p₀).getD 1) ∨
    (p = toggled p₀ ∧ factor.getD 1 = -(readNumber? p₀).getD 1)

variable {p₀ p : Text} {factor : Option Float}

theorem getD_negated (factor : Option Float) :
    (some (factor.elim (-1) fun x => -x)).getD 1 = -factor.getD 1 := by
  cases factor <;> rfl

theorem InFront.toggled (h₀ : Headed p₀) (h : InFront p₀ p factor) :
    InFront p₀ (toggled p) (some (factor.elim (-1) fun x => -x)) := by
  rcases h with ⟨rfl, hv⟩ | ⟨rfl, hv⟩
  · exact .inr ⟨rfl, by rw [getD_negated, hv]⟩
  · exact .inl ⟨toggled_toggled h₀, by rw [getD_negated, hv, float_neg_neg]⟩

/-- The factor is the number in front, as it is shown, exactly for a function that was opened behind
a number or behind nothing. -/
theorem InFront.shownFactor?_iff (h₀ : Headed p₀) (h : InFront p₀ p factor) :
    shownFactor? p = some (factor.getD 1) ↔ p₀ = [] ∨ (readNumber? p₀).isSome = true := by
  have hopened : shownFactor? p₀ = some ((readNumber? p₀).getD 1) ↔
      p₀ = [] ∨ (readNumber? p₀).isSome = true := by
    unfold shownFactor?
    split
    · rename_i hp
      subst hp
      exact ⟨fun _ => .inl rfl, fun _ => rfl⟩
    split
    · rename_i hp
      subst hp
      have hne : (-1 : Float) ≠ 1 := by decide +kernel
      refine ⟨fun heq => absurd (Option.some.inj heq) hne, ?_⟩
      rintro (hnil | hsome)
      · cases hnil
      · cases hsome
    · rename_i hp _
      cases readNumber? p₀ with
      | none => simp [hp]
      | some v => simp
  rcases h with ⟨rfl, hv⟩ | ⟨rfl, hv⟩
  · rw [hv, hopened]
  · rw [hv, shownFactor?_toggled h₀, ← hopened]
    cases shownFactor? p₀ with
    | none => simp
    | some v => simp [float_neg_inj]

/-! ## Operands -/

/-- the number in a function scope, else the constant at its end times the number in front of it -/
def shownOperand? (t : Text) : Option Float :=
  match readNumber? t with
  | some x => some x
  | none =>
    (Constant.all.find? fun c => t.getLast? = some c.symbol).bind fun c =>
      (shownFactor? t.dropLast).map fun v => c.value * v

theorem shownOperand?_append_symbol (m : Text) (c : Constant) :
    shownOperand? (m ++ [c.symbol]) = (shownFactor? m).map fun v => c.value * v := by
  have hends : endsInConstant (m ++ [c.symbol]) = true :=
    (endsInConstant_append m (List.cons_ne_nil _ _)).trans c.isSymbol_symbol
  have hfind :
      (Constant.all.find? fun d => (m ++ [c.symbol]).getLast? = some d.symbol) = some c := by
    rw [List.getLast?_concat]
    cases c <;> decide
  rw [shownOperand?, readNumber?_of_endsInConstant hends]
  simp only [hfind, Option.bind_some, List.dropLast_concat]

theorem shownOperand?_of_noSymbol {t : Text} (h : NoSymbol t) :
    shownOperand? t = readNumber? t := by
  have hfind : (Constant.all.find? fun c => t.getLast? = some c.symbol) = none := by
    rw [List.find?_eq_none]
    intro c _ hc
    have hmem := List.mem_of_getLast? (of_decide_eq_true hc)
    have hno := h c.symbol hmem
    rw [c.isSymbol_symbol] at hno
    cases hno
  unfold shownOperand?
  rw [hfind]
  cases readNumber? t <;> rfl

end Keypad
end PocketCalc
