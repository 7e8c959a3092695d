/-!
# Text as a list of characters

What is keyed, read and shown is edited and scanned one character at a time, so it is a list.

* `Text`          a list of characters;
* `Ranges`        a class of characters as a list of code point ranges;
* `trimEndWhile`  a text without the characters of a class at its end;
* `endingWhile`   those characters;
* `occursIn`      whether one text stands somewhere inside another.
-/

namespace PocketCalc

/-- text as the list of its characters -/
abbrev Text := List Char

namespace Text

/-- what is said of the characters of a text is decided on these, not on all there are -/
instance (priority := high) decidableForallMem (p : Char → Prop) [DecidablePred p] (t : Text) :
    Decidable (∀ c ∈ t, p c) :=
  List.decidableBAll p t

/-! ## Classes of characters -/

/-- a class of characters, as the first and last code point of each of its ranges -/
abbrev Ranges := List (Nat × Nat)

def Ranges.has (rs : Ranges) (c : Char) : Bool :=
  rs.any fun r => r.1 ≤ c.toNat && c.toNat ≤ r.2

/-! ## The end of a text -/

/-- the text without the longest run of `p` at its end -/
def trimEndWhile (p : Char → Bool) (t : Text) : Text := (t.reverse.dropWhile p).reverse

/-- the longest run of `p` at the end of the text -/
def endingWhile (p : Char → Bool) (t : Text) : Text := (t.reverse.takeWhile p).reverse

theorem trimEndWhile_append_endingWhile (p : Char → Bool) (t : Text) :
    trimEndWhile p t ++ endingWhile p t = t := by
  rw [trimEndWhile, endingWhile, ← List.reverse_append, List.takeWhile_append_dropWhile,
    List.reverse_reverse]

theorem length_trimEndWhile_le (p : Char → Bool) (t : Text) :
    (trimEndWhile p t).length ≤ t.length := by
  have hsplit := congrArg List.length (trimEndWhile_append_endingWhile p t)
  rw [List.length_append] at hsplit
  omega

/-! ## Parts of a text -/

/-- whether `s` stands somewhere inside the text -/
def occursIn (s : Text) : Text → Bool
  | [] => s.isEmpty
  | c :: r => s.isPrefixOf (c :: r) || occursIn s r

theorem occursIn_eq_true_iff (s t : Text) : occursIn s t = true ↔ ∃ a b, t = a ++ s ++ b := by
  induction t with
  | nil =>
    simp only [occursIn, List.isEmpty_iff]
    constructor
    · rintro rfl
      exact ⟨[], [], rfl⟩
    · rintro ⟨a, b, h⟩
      simp_all
  | cons c r ih =>
    simp only [occursIn, Bool.or_eq_true, ih, List.isPrefixOf_iff_prefix]
    constructor
    · rintro (⟨b, h⟩ | ⟨a, b, rfl⟩)
      · exact ⟨[], b, h.symm⟩
      · exact ⟨c :: a, b, rfl⟩
    · rintro ⟨a, b, h⟩
      match a, h with
      | [], h => exact .inl ⟨b, h.symm⟩
      | d :: a, h => exact .inr ⟨a, b, (List.cons.inj h).2⟩

end Text
end PocketCalc
