import PocketCalc.Proofs.Spacing

/-!
# The lexemes of a text

The lexemes are given here by a grammar, one rule for each form of each class, and the lexeme that
is cut off a text is the longest one that the grammar allows there.

* `LexemeClass.Matches`     the grammar of lexemes;
* `Lexeme.Longest`          the longest lexeme in front of a text;
* `Lexeme.longest_iff`      that one is cut off;
* `Lexeme.longest_take`     also once what follows it is away;
* `Lexeme.readNumber?_eq_none_iff`   the numerals that have no value.
-/

namespace PocketCalc
open Text

/-! ## Classes of characters -/

namespace Text

/-- no code point is in a range of both -/
def Ranges.apart (rs qs : Ranges) : Bool :=
  rs.all fun r => qs.all fun q => r.2.blt q.1 || q.2.blt r.1

theorem Ranges.has_eq_false_of_apart {rs qs : Ranges} (h : rs.apart qs = true) {c : Char}
    (hc : rs.has c = true) : qs.has c = false := by
  obtain ⟨r, hr, hrc⟩ := List.any_eq_true.mp hc
  rw [Ranges.has, List.any_eq_false]
  intro q hq
  have hapart := List.all_eq_true.mp (List.all_eq_true.mp h r hr) q hq
  simp only [Bool.and_eq_true, Bool.or_eq_true, decide_eq_true_eq, Nat.blt_eq] at hrc hapart ⊢
  omega

/-- the rows of digits that begin with these zeros -/
def digitRows (zeros : List Nat) : Ranges := zeros.map fun z => (z, z + 9)

theorem isSome_zeroOf? (zeros : List Nat) (c : Char) :
    (zeroOf? zeros c).isSome = (digitRows zeros).has c := by
  rw [zeroOf?, List.isSome_find?, digitRows, Ranges.has, List.any_map]
  rfl

theorem isValuedDigit_eq (c : Char) : isValuedDigit c = (digitRows digitZeros).has c := by
  rw [isValuedDigit, digitValue?, Option.isSome_map, isSome_zeroOf?]

theorem isUnvaluedDigit_eq (c : Char) : isUnvaluedDigit c = (digitRows unvaluedZeros).has c :=
  isSome_zeroOf? _ c

theorem isValuedDigit_of_isUnvaluedDigit {c : Char} (h : isUnvaluedDigit c = true) :
    isValuedDigit c = false := by
  rw [isUnvaluedDigit_eq] at h
  rw [isValuedDigit_eq]
  exact Ranges.has_eq_false_of_apart (by decide +kernel) h

theorem isValuedDigit_or_isUnvaluedDigit {c : Char} (h : isDigit c = true) :
    isValuedDigit c = true ∨ isUnvaluedDigit c = true := by
  rwa [isDigit, Bool.or_eq_true] at h

/-- no letter is a digit -/
theorem isDigit_of_isLetter {c : Char} (h : isLetter c = true) : isDigit c = false := by
  unfold isLetter at h
  split at h
  · rename_i hascii
    have hall := forall_ascii (p := fun c => !c.isAlpha || !isDigit c) (by decide +kernel) hascii
    simpa [h] using hall
  · rw [isDigit, isValuedDigit_eq, isUnvaluedDigit_eq,
      Ranges.has_eq_false_of_apart (by decide +kernel) h,
      Ranges.has_eq_false_of_apart (by decide +kernel) h]
    rfl

theorem isSeparator_cases {c : Char} (h : isSeparator c = true) : c = '.' ∨ c = ',' := by
  simpa [isSeparator] using h

theorem isDigit_or_isSeparator_of_isLetter {c : Char} (h : isLetter c = true) :
    (isDigit c || isSeparator c) = false := by
  rw [isDigit_of_isLetter h, Bool.false_or, Bool.eq_false_iff]
  intro hs
  rcases isSeparator_cases hs with rfl | rfl
  · exact absurd h (by decide +kernel)
  · exact absurd h (by decide +kernel)

theorem isSign_of_isLetter {c : Char} (h : isLetter c = true) : Operator.isSign c = false := by
  rw [Bool.eq_false_iff]
  intro hsign
  rw [(isMark_separates (by simp [isMark, hsign])).2.2] at h
  cases h

theorem map_pointForComma_of_isDigit {u : Text} (h : ∀ c ∈ u, isDigit c = true) :
    u.map pointForComma = u := by
  have hpoint : ∀ c ∈ u, pointForComma c = id c := by
    intro c hc
    have hdigit := h c hc
    rw [pointForComma, if_neg]
    · rfl
    · rintro rfl
      rw [not_isDigit_of_isSeparator (by decide)] at hdigit
      cases hdigit
  rw [List.map_congr_left hpoint, List.map_id]

theorem isUnvaluedDigit_separates {c : Char} (h : isUnvaluedDigit c = true) :
    isBlank c = false ∧ c ≠ ',' ∧ ¬ IsNumeralChar c := by
  have hdigit : isDigit c = true := by rw [isDigit, h, Bool.or_true]
  have hvalued := isValuedDigit_of_isUnvaluedDigit h
  refine ⟨?_, ?_, ?_⟩
  · rw [Bool.eq_false_iff]
    intro hblank
    have hnumber := (isBlank_separates hblank).1
    rw [hdigit] at hnumber
    cases hnumber
  · rintro rfl
    exact absurd h (by decide)
  · rintro (hc | hc)
    · rw [hvalued] at hc
      cases hc
    · have hnone : ∀ d ∈ ['+', '-', '.', 'e', 'E'], isUnvaluedDigit d = false := by decide
      rw [hnone c hc] at h
      cases h

end Text

/-! ## The grammar of lexemes -/

/-- the texts of each class -/
inductive LexemeClass.Matches : LexemeClass → Text → Prop
  | digits {w : Text} : w ≠ [] → (∀ c ∈ w, isDigit c = true) → Matches .number w
  | separated {w ds : Text} {s : Char} : (∀ c ∈ w, isDigit c = true) → isSeparator s = true →
      (∀ c ∈ ds, isDigit c = true) → Matches .number (w ++ s :: ds)
  | sign {c : Char} : Operator.isSign c = true → Matches .sign [c]
  | word {w : Text} : w ≠ [] → (∀ c ∈ w, isLetter c = true) → Matches .word w
  | opening : Matches .opening ['(']
  | closing : Matches .closing [')']
  | space {w : Text} : w ≠ [] → IsSpaces w → Matches .space w

theorem LexemeClass.Matches.isBlank_eq_false {w : Text} (h : LexemeClass.number.Matches w) :
    ∀ c ∈ w, isBlank c = false := by
  have hmem : ∀ c ∈ w, (isDigit c || isSeparator c) = true := by
    intro c hc
    rw [Bool.or_eq_true]
    cases h with
    | digits _ hw => exact .inl (hw c hc)
    | separated hw hs hds =>
      rcases List.mem_append.mp hc with hc | hc
      · exact .inl (hw c hc)
      · rcases List.mem_cons.mp hc with rfl | hc
        · exact .inr hs
        · exact .inl (hds c hc)
  intro c hc
  rw [Bool.eq_false_iff]
  intro hblank
  have hnumber := hmem c hc
  rw [(isBlank_separates hblank).1] at hnumber
  cases hnumber

theorem LexemeClass.Matches.ne_nil {k : LexemeClass} {w : Text} (h : k.Matches w) : w ≠ [] := by
  cases h with
  | digits hne | word hne | space hne => exact hne
  | separated => exact List.append_ne_nil_of_right_ne_nil _ (List.cons_ne_nil _ _)
  | sign | opening | closing => exact List.cons_ne_nil _ _

namespace Lexeme

/-- the longest lexeme in front of a text -/
def Longest (t : Text) (l : Lexeme) : Prop :=
  l.cls.Matches l.text ∧ l.text <+: t ∧
    ∀ m : Lexeme, m.cls.Matches m.text → m.text <+: t → m.text.length ≤ l.text.length

theorem matches_numberLexeme {c : Char} {r : Text} (h : (isDigit c || isSeparator c) = true) :
    LexemeClass.number.Matches (numberLexeme (c :: r)) := by
  have hdigits : ∀ u : Text, ∀ d ∈ u.takeWhile isDigit, isDigit d = true :=
    fun u d hd => List.mem_takeWhile_imp hd
  have hne := List.ne_nil_of_length_pos (length_numberLexeme_pos (r := r) h)
  rcases numberLexeme_parts (c :: r) with heq | ⟨s, u, -, hs, heq⟩
  · rw [heq] at hne ⊢
    exact .digits hne (hdigits _)
  · rw [heq]
    exact .separated (hdigits _) hs (hdigits _)

/-- what is cut off is a lexeme -/
theorem matches_of_front? {c : Char} {r : Text} {l : Lexeme} (h : front? c r = some l) :
    l.cls.Matches l.text := by
  have hrun : ∀ {p : Char → Bool}, p c = true → ∀ d ∈ c :: r.takeWhile p, p d = true := by
    intro p hc d hd
    rcases List.mem_cons.mp hd with rfl | hd
    · exact hc
    · exact List.mem_takeWhile_imp hd
  unfold front? at h
  split at h
  · rename_i hnumber
    cases h
    exact matches_numberLexeme hnumber
  split at h
  · rename_i hsign
    cases h
    exact .sign hsign
  split at h
  · rename_i hletter
    cases h
    exact .word (List.cons_ne_nil _ _) (hrun hletter)
  split at h
  · rename_i hopening
    cases h
    rw [hopening]
    exact .opening
  split at h
  · rename_i hclosing
    cases h
    rw [hclosing]
    exact .closing
  split at h
  · rename_i hspace
    cases h
    exact .space (List.cons_ne_nil _ _) (hrun hspace)
  · cases h

/-- the first character of a lexeme tells its class -/
theorem exists_front?_of_matches {k : LexemeClass} {c : Char} {w : Text} (h : k.Matches (c :: w))
    (r : Text) : ∃ l, front? c r = some l ∧ l.cls = k := by
  generalize hcw : c :: w = cw at h
  cases h with
  | digits _ hw =>
    subst hcw
    have hc := hw c List.mem_cons_self
    exact ⟨⟨.number, numberLexeme (c :: r)⟩, by simp [front?, hc], rfl⟩
  | @separated w' ds s hw hs hds =>
    have hc : (isDigit c || isSeparator c) = true := by
      cases w' with
      | nil =>
        cases hcw
        rw [hs, Bool.or_true]
      | cons d w' =>
        cases hcw
        rw [hw c List.mem_cons_self, Bool.true_or]
    exact ⟨⟨.number, numberLexeme (c :: r)⟩, by simp [front?, hc], rfl⟩
  | sign hsign =>
    cases hcw
    obtain ⟨hd, hs, -⟩ := isMark_separates (c := c) (by simp [isMark, hsign])
    exact ⟨⟨.sign, [c]⟩, by simp [front?, hd, hs, hsign], rfl⟩
  | word _ hw =>
    subst hcw
    have hc := hw c List.mem_cons_self
    exact ⟨⟨.word, c :: r.takeWhile isLetter⟩, by
      simp [front?, isDigit_or_isSeparator_of_isLetter hc, isSign_of_isLetter hc, hc], rfl⟩
  | opening =>
    cases hcw
    exact ⟨⟨.opening, ['(']⟩, rfl, rfl⟩
  | closing =>
    cases hcw
    exact ⟨⟨.closing, [')']⟩, rfl, rfl⟩
  | space _ hw =>
    subst hcw
    have hc := hw c List.mem_cons_self
    obtain ⟨hnumber, hsign, hletter, hopening, hclosing⟩ :=
      isBlank_separates (isBlank_of_isSpace hc)
    exact ⟨⟨.space, c :: r.takeWhile isSpace⟩, by
      simp [front?, hnumber, hsign, hletter, hopening, hclosing, hc], rfl⟩

theorem prefix_takeWhile {p : Char → Bool} {w t : Text} (hw : ∀ c ∈ w, p c = true)
    (h : w <+: t) : w <+: t.takeWhile p := by
  obtain ⟨u, rfl⟩ := h
  rw [List.takeWhile_append_of_pos hw]
  exact List.prefix_append _ _

theorem prefix_numberLexeme {w t : Text} (hw : LexemeClass.number.Matches w) (h : w <+: t) :
    w <+: numberLexeme t := by
  cases hw with
  | digits _ hw =>
    refine (prefix_takeWhile hw h).trans ?_
    rcases numberLexeme_parts t with heq | ⟨s, u, -, -, heq⟩
    · rw [heq]
    · rw [heq]
      exact List.prefix_append _ _
  | @separated w ds s hw hs hds =>
    obtain ⟨u, rfl⟩ := h
    rw [List.append_assoc, List.cons_append]
    obtain ⟨htake, hdrop⟩ := span_append (r := s :: (ds ++ u)) hw (by
      intro c hc
      cases hc
      exact not_isDigit_of_isSeparator hs)
    have hlexeme : numberLexeme (w ++ s :: (ds ++ u)) = w ++ s :: (ds ++ u).takeWhile isDigit := by
      unfold numberLexeme
      rw [htake, hdrop]
      simp only [hs, if_true]
    rw [hlexeme, List.prefix_append_right_inj, List.cons_prefix_cons]
    exact ⟨rfl, prefix_takeWhile hds (List.prefix_append _ _)⟩

/-- every lexeme in front of a text goes into the one that is cut off -/
theorem prefix_of_matches {k : LexemeClass} {c : Char} {r w : Text} {l : Lexeme}
    (hw : k.Matches w) (h : w <+: c :: r) (hl : front? c r = some l) : w <+: l.text := by
  obtain ⟨d, u, rfl⟩ := List.exists_cons_of_ne_nil hw.ne_nil
  obtain ⟨rfl, hu⟩ := List.cons_prefix_cons.mp h
  obtain ⟨l', hl', rfl⟩ := exists_front?_of_matches hw r
  obtain rfl : l' = l := Option.some.inj (hl'.symm.trans hl)
  have hsingle : ∀ {e : Char}, l'.text = [e] → d :: u = [e] → d :: u <+: l'.text :=
    fun htext heq => by rw [htext, heq]
  rcases front?_cases hl with ⟨-, rfl⟩ | ⟨-, -, -, rfl⟩ | ⟨-, rfl⟩ | ⟨hcls, -, htext, -⟩
  · exact prefix_numberLexeme hw h
  · cases hw with
    | word _ hletters =>
      exact List.cons_prefix_cons.mpr ⟨rfl,
        prefix_takeWhile (fun e he => hletters e (List.mem_cons_of_mem d he)) hu⟩
  · cases hw with
    | space _ hspaces =>
      exact List.cons_prefix_cons.mpr ⟨rfl,
        prefix_takeWhile (fun e he => hspaces e (List.mem_cons_of_mem d he)) hu⟩
  · rcases hcls with hcls | hcls | hcls
    all_goals
      rw [hcls] at hw
      cases hw
      rw [htext]

/-- **The longest lexeme is the one that is cut off.** -/
theorem longest_iff {c : Char} {r : Text} {l : Lexeme} :
    Longest (c :: r) l ↔ front? c r = some l := by
  constructor
  · rintro ⟨hmatches, hinfront, hmost⟩
    obtain ⟨d, u, hdu⟩ := List.exists_cons_of_ne_nil hmatches.ne_nil
    have hhead := hinfront
    rw [hdu] at hhead
    obtain ⟨rfl, -⟩ := List.cons_prefix_cons.mp hhead
    obtain ⟨l', hl', hcls⟩ := exists_front?_of_matches (hdu ▸ hmatches) r
    have hlength := hmost l' (matches_of_front? hl') (isPrefix_of_front? hl')
    have htext : l.text = l'.text :=
      (prefix_of_matches hmatches hinfront hl').eq_of_length_le hlength
    obtain ⟨k, w⟩ := l
    obtain ⟨k', w'⟩ := l'
    cases hcls
    cases htext
    exact hl'
  · intro h
    exact ⟨matches_of_front? h, isPrefix_of_front? h, fun m hm hinfront =>
      (prefix_of_matches hm hinfront h).length_le⟩

theorem Longest.unique {t : Text} {l m : Lexeme} (hl : Longest t l) (hm : Longest t m) : l = m := by
  cases t with
  | nil => exact absurd (List.prefix_nil.mp hl.2.1) hl.1.ne_nil
  | cons c r => exact Option.some.inj ((longest_iff.mp hl).symm.trans (longest_iff.mp hm))

theorem not_longest_nil (l : Lexeme) : ¬ Longest [] l := by
  rintro ⟨hmatches, hinfront, -⟩
  exact hmatches.ne_nil (List.prefix_nil.mp hinfront)

/-- a lexeme is cut off the same way if the text ends behind it, or anywhere later -/
theorem longest_take {t : Text} {l : Lexeme} (h : Longest t l) {n : Nat}
    (hn : l.text.length ≤ n) : Longest (t.take n) l := by
  obtain ⟨hmatches, hinfront, hmost⟩ := h
  refine ⟨hmatches, List.prefix_take_iff.mpr ⟨hinfront, hn⟩, ?_⟩
  intro m hm hmt
  exact hmost m hm (hmt.trans (List.take_prefix n t))

/-! ## Lexemes without a token -/

/-- a numeral has no value if it is a separator alone, or if one of its digits has none -/
theorem readNumber?_eq_none_iff {w : Text} (h : LexemeClass.number.Matches w) :
    readNumber? w = none ↔
      (∃ s, w = [s] ∧ isSeparator s = true) ∨ ∃ c ∈ w, isUnvaluedDigit c = true := by
  constructor
  · intro hnone
    by_contra hneither
    rw [not_or] at hneither
    obtain ⟨hlone, hunvalued⟩ := hneither
    have hvalued : ∀ {u : Text}, u ⊆ w → (∀ c ∈ u, isDigit c = true) → IsDigits u := by
      intro u huw hu c hc
      exact (isValuedDigit_or_isUnvaluedDigit (hu c hc)).resolve_right
        fun hcontra => hunvalued ⟨c, huw hc, hcontra⟩
    obtain ⟨v, f, hparts, hv, hf, hne⟩ : ∃ v f, w.map pointForComma = [] ++ (v ++ (f ++ [])) ∧
        IsDigits v ∧ IsFraction f ∧ (v ≠ [] ∨ 2 ≤ f.length) := by
      cases h with
      | digits hne hw =>
        refine ⟨w, [], ?_, hvalued (List.Subset.refl w) hw, .inl rfl, .inl hne⟩
        rw [map_pointForComma_of_isDigit hw, List.nil_append, List.nil_append, List.append_nil]
      | @separated v ds s hv hs hds =>
        have hpoint : pointForComma s = '.' := by
          rcases isSeparator_cases hs with rfl | rfl <;> rfl
        refine ⟨v, '.' :: ds, ?_, hvalued (by simp) hv, .inr ⟨ds, rfl, hvalued (by simp) hds⟩, ?_⟩
        · rw [List.map_append, List.map_cons, map_pointForComma_of_isDigit hv,
            map_pointForComma_of_isDigit hds, hpoint, List.nil_append, List.append_nil]
        · by_contra hboth
          rw [not_or, not_not] at hboth
          obtain ⟨rfl, hlength⟩ := hboth
          have hds : ds = [] := List.eq_nil_of_length_eq_zero (by
            rw [List.length_cons] at hlength
            omega)
          subst hds
          exact hlone ⟨s, rfl, hs⟩
    rw [readNumber?, trim_of_no_blank h.isBlank_eq_false, hparts,
      Decimal.ofNumeral?_parts (.inl rfl) hv hf (.inl rfl) hne] at hnone
    cases hnone
  · rintro (⟨s, rfl, hs⟩ | ⟨c, hc, hunvalued⟩)
    · rcases isSeparator_cases hs with rfl | rfl <;> rfl
    · obtain ⟨hblank, hcomma, hnumeral⟩ := isUnvaluedDigit_separates hunvalued
      by_contra hsome
      obtain ⟨x, hx⟩ := Option.ne_none_iff_exists'.mp hsome
      rcases mem_of_readNumber? hx hc with hcontra | hcontra | hcontra
      · rw [hblank] at hcontra
        cases hcontra
      · exact hcomma hcontra
      · exact hnumeral hcontra

end Lexeme

end PocketCalc
