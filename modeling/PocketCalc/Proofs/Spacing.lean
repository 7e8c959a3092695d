import Mathlib
import PocketCalc.Proofs.Grammar
import PocketCalc.Proofs.Lexing

/-!
# White space between tokens

A lexeme is white space or holds none, so the tokens of a text hold all that is written in it; and a
lexeme ends at white space, so a token is read off its own text wherever that is written with white
space behind it.

* `isPrefix_of_front?`, `isSpace_of_mem_front?`  what a lexeme is made of;
* `scan_spaces_append`     white space in front is passed over;
* `flatMap_text_scan`      the texts of the tokens put together;
* `spelled_of_mem_scan`    each token is read off its text again;
* `Spaced`                 the tokens written apart;
* `ofText_respaced`        their texts put together, and the tokens of any text that they are
                           written apart in.
-/

namespace PocketCalc
open Text

/-! ## Lexemes -/

/-- a text of white space -/
def IsSpaces (t : Text) : Prop := ∀ c ∈ t, isSpace c = true

instance (t : Text) : Decidable (IsSpaces t) :=
  inferInstanceAs (Decidable (∀ c ∈ t, isSpace c = true))

theorem isSpace_eq_false_of_begins {c : Char} (h : (isDigit c || isSeparator c) = true ∨
    Operator.isSign c = true ∨ isLetter c = true ∨ c = '(' ∨ c = ')') : isSpace c = false := by
  rw [Bool.eq_false_iff]
  intro hspace
  obtain ⟨hnumber, hsign, hletter, hopening, hclosing⟩ :=
    isBlank_separates (isBlank_of_isSpace hspace)
  simp_all

theorem numberLexeme_parts (t : Text) :
    numberLexeme t = t.takeWhile isDigit ∨
    ∃ s r, t.dropWhile isDigit = s :: r ∧ isSeparator s = true ∧
      numberLexeme t = t.takeWhile isDigit ++ s :: r.takeWhile isDigit := by
  unfold numberLexeme
  split
  · exact .inl rfl
  · rename_i s r hdrop
    split
    · rename_i hs
      exact .inr ⟨s, r, hdrop, hs, rfl⟩
    · exact .inl rfl

theorem numberLexeme_prefix (t : Text) : numberLexeme t <+: t := by
  rcases numberLexeme_parts t with h | ⟨s, r, hdrop, -, h⟩
  · rw [h]
    exact List.takeWhile_prefix _
  · refine ⟨r.dropWhile isDigit, ?_⟩
    rw [h, List.append_assoc, List.cons_append, List.takeWhile_append_dropWhile, ← hdrop,
      List.takeWhile_append_dropWhile]

/-- a numeral is cut out of a text the same way once what followed it is away -/
theorem numberLexeme_append_ends (t : Text) {r : Text} (hr : Ends r) :
    numberLexeme (numberLexeme t ++ r) = numberLexeme t := by
  have hdigits : ∀ u : Text, ∀ c ∈ u.takeWhile isDigit, isDigit c = true :=
    fun u c hc => List.mem_takeWhile_imp hc
  rcases numberLexeme_parts t with h | ⟨s, u, -, hs, h⟩
  · rw [h]
    exact numberLexeme_digits (hdigits t) hr
  · rw [h]
    exact numberLexeme_separated (hdigits t) hs (hdigits u) fun c hc => (hr c hc).1

theorem mem_numberLexeme {t : Text} {c : Char} (h : c ∈ numberLexeme t) :
    (isDigit c || isSeparator c) = true := by
  rw [Bool.or_eq_true]
  rcases numberLexeme_parts t with hp | ⟨s, r, -, hs, hp⟩
  · rw [hp] at h
    exact .inl (List.mem_takeWhile_imp h)
  · rw [hp, List.mem_append, List.mem_cons] at h
    rcases h with h | rfl | h
    · exact .inl (List.mem_takeWhile_imp h)
    · exact .inr hs
    · exact .inl (List.mem_takeWhile_imp h)

namespace Lexeme

/-- the lexeme in front of a text, by what it begins with -/
theorem front?_cases {c : Char} {r : Text} {l : Lexeme} (h : front? c r = some l) :
    ((isDigit c || isSeparator c) = true ∧ l = ⟨.number, numberLexeme (c :: r)⟩) ∨
    ((isDigit c || isSeparator c) = false ∧ Operator.isSign c = false ∧ isLetter c = true ∧
      l = ⟨.word, c :: r.takeWhile isLetter⟩) ∨
    (isSpace c = true ∧ l = ⟨.space, c :: r.takeWhile isSpace⟩) ∨
    ((l.cls = .sign ∨ l.cls = .opening ∨ l.cls = .closing) ∧ isSpace c = false ∧ l.text = [c] ∧
      ∀ u, front? c u = some l) := by
  unfold front? at h
  split at h
  · rename_i hnumber
    cases h
    exact .inl ⟨hnumber, rfl⟩
  rename_i hnumber
  split at h
  · rename_i hsign
    cases h
    refine .inr (.inr (.inr
      ⟨.inl rfl, isSpace_eq_false_of_begins (.inr (.inl hsign)), rfl, ?_⟩))
    intro u
    rw [front?, if_neg hnumber, if_pos hsign]
  rename_i hsign
  split at h
  · rename_i hletter
    cases h
    exact .inr (.inl ⟨by simpa using hnumber, by simpa using hsign, hletter, rfl⟩)
  rename_i hletter
  split at h
  · rename_i hopening
    cases h
    refine .inr (.inr (.inr
      ⟨.inr (.inl rfl), isSpace_eq_false_of_begins (by simp [hopening]), rfl, ?_⟩))
    intro u
    rw [front?, if_neg hnumber, if_neg hsign, if_neg hletter, if_pos hopening]
  rename_i hopening
  split at h
  · rename_i hclosing
    cases h
    refine .inr (.inr (.inr
      ⟨.inr (.inr rfl), isSpace_eq_false_of_begins (by simp [hclosing]), rfl, ?_⟩))
    intro u
    rw [front?, if_neg hnumber, if_neg hsign, if_neg hletter, if_neg hopening, if_pos hclosing]
  split at h
  · rename_i hspace
    cases h
    exact .inr (.inr (.inl ⟨hspace, rfl⟩))
  · cases h

theorem isPrefix_of_front? {c : Char} {r : Text} {l : Lexeme} (h : front? c r = some l) :
    l.text <+: c :: r := by
  rcases front?_cases h with ⟨-, rfl⟩ | ⟨-, -, -, rfl⟩ | ⟨-, rfl⟩ | ⟨-, -, htext, -⟩
  · exact numberLexeme_prefix (c :: r)
  · exact List.cons_prefix_cons.mpr ⟨rfl, List.takeWhile_prefix _⟩
  · exact List.cons_prefix_cons.mpr ⟨rfl, List.takeWhile_prefix _⟩
  · rw [htext]
    exact List.cons_prefix_cons.mpr ⟨rfl, List.nil_prefix⟩

/-- a lexeme is white space all through, or not at all -/
theorem isSpace_of_mem_front? {c : Char} {r : Text} {l : Lexeme} (h : front? c r = some l) :
    ∀ d ∈ l.text, isSpace d = (l.cls == .space) := by
  rcases front?_cases h with ⟨-, rfl⟩ | ⟨-, -, hletter, rfl⟩ | ⟨hspace, rfl⟩ |
      ⟨hcls, hspace, htext, -⟩
  · exact fun d hd => isSpace_eq_false_of_begins (.inl (mem_numberLexeme hd))
  · intro d hd
    rcases List.mem_cons.mp hd with rfl | hd
    · exact isSpace_eq_false_of_begins (.inr (.inr (.inl hletter)))
    · exact isSpace_eq_false_of_begins (.inr (.inr (.inl (List.mem_takeWhile_imp hd))))
  · intro d hd
    rcases List.mem_cons.mp hd with rfl | hd
    · exact hspace
    · exact List.mem_takeWhile_imp hd
  · intro d hd
    rw [htext, List.mem_singleton] at hd
    rw [hd, hspace]
    rcases hcls with hcls | hcls | hcls <;> rw [hcls] <;> rfl

/-- a lexeme is cut out of a text the same way once what followed it is away -/
theorem front?_append_ends {c : Char} {r : Text} {l : Lexeme} (h : front? c r = some l)
    (hcls : l.cls ≠ .space) :
    ∃ d v, l.text = d :: v ∧ ∀ u, Ends u → front? d (v ++ u) = some l := by
  rcases front?_cases h with ⟨hnumber, rfl⟩ | ⟨hnumber, hsign, hletter, rfl⟩ | ⟨-, rfl⟩ |
      ⟨-, -, htext, hfront⟩
  · obtain ⟨d, v, hdv⟩ := List.exists_cons_of_length_pos (length_numberLexeme_pos (r := r) hnumber)
    refine ⟨d, v, hdv, fun u hu => ?_⟩
    have hd : (isDigit d || isSeparator d) = true :=
      mem_numberLexeme (hdv ▸ List.mem_cons_self)
    have happend := numberLexeme_append_ends (c :: r) hu
    rw [hdv, List.cons_append] at happend
    simp [front?, hd, happend, hdv]
  · refine ⟨c, r.takeWhile isLetter, rfl, fun u hu => ?_⟩
    have htake : (r.takeWhile isLetter ++ u).takeWhile isLetter = r.takeWhile isLetter :=
      (span_append (fun d hd => List.mem_takeWhile_imp hd) fun d hd => (hu d hd).2.2).1
    simp [front?, hnumber, hsign, hletter, htake]
  · exact absurd rfl hcls
  · exact ⟨c, [], htext, fun u _ => hfront u⟩

theorem token_eq_ok_none_iff (l : Lexeme) : l.token = .ok none ↔ l.cls = .space := by
  unfold token
  cases l.cls with
  | space => simp
  | number | word =>
    repeat' split
    all_goals simp_all
  | sign | opening | closing => simp

theorem ne_space_of_token {l : Lexeme} {t : Token} (h : l.token = .ok (some t)) :
    l.cls ≠ .space := by
  intro hcls
  rw [(token_eq_ok_none_iff l).mpr hcls] at h
  cases h

theorem text_of_token {l : Lexeme} {t : Token} (h : l.token = .ok (some t)) : t.text = l.text := by
  unfold token at h
  repeat' split at h
  all_goals
    cases h
    try rfl

end Lexeme

/-! ## White space in front -/

namespace Token

theorem scan_cons_of_isSpace {c : Char} {r : Text} (h : isSpace c = true) :
    scan (c :: r) = scan (r.dropWhile isSpace) := by
  obtain ⟨hnumber, hsign, hletter, hopening, hclosing⟩ := isBlank_separates (isBlank_of_isSpace h)
  have hfront : Lexeme.front? c r = some ⟨.space, c :: r.takeWhile isSpace⟩ := by
    simp only [Lexeme.front?, hnumber, hsign, hletter, hopening, hclosing, h, if_true, if_false,
      Bool.false_eq_true]
  have hdrop : (c :: r).drop (c :: r.takeWhile isSpace).length = r.dropWhile isSpace := by
    have hsplit : c :: r = c :: r.takeWhile isSpace ++ r.dropWhile isSpace := by
      rw [List.cons_append, List.takeWhile_append_dropWhile]
    conv_lhs => arg 2; rw [hsplit]
    exact List.drop_left
  rw [scan_cons hfront, hdrop]
  rfl

theorem scan_dropWhile_isSpace (t : Text) : scan (t.dropWhile isSpace) = scan t := by
  cases t with
  | nil => rfl
  | cons c r =>
    by_cases h : isSpace c = true
    · rw [scan_cons_of_isSpace h, List.dropWhile_cons_of_pos h]
    · rw [List.dropWhile_cons_of_neg h]

theorem scan_spaces_append {g : Text} (hg : IsSpaces g) (t : Text) : scan (g ++ t) = scan t := by
  rw [← scan_dropWhile_isSpace (g ++ t), List.dropWhile_append_of_pos hg, scan_dropWhile_isSpace]

/-! ## The tokens of a text -/

theorem ofText_eq_ok_iff {t : Text} {ts : List Token} :
    ofText t = .ok ts ↔ scan t = (ts, none) := by
  unfold ofText
  split
  · rename_i us h
    simp [h]
  · rename_i us f h
    simp [h]

theorem filter_front? {c : Char} {r : Text} {l : Lexeme} (h : Lexeme.front? c r = some l)
    (p : Char → Bool) :
    (c :: r).filter p = l.text.filter p ++ ((c :: r).drop l.text.length).filter p := by
  obtain ⟨u, hu⟩ := Lexeme.isPrefix_of_front? h
  rw [← hu, List.drop_left, List.filter_append]

/-- the tokens of a text hold all of it but its white space -/
theorem flatMap_text_scan (t : Text) : (scan t).2 = none →
    (scan t).1.flatMap text = t.filter (!isSpace ·) := by
  fun_induction scan t with
  | case1 => exact fun _ => rfl
  | case2 =>
    intro hfault
    cases hfault
  | case3 =>
    intro hfault
    cases hfault
  | case4 c r l hl ht ih =>
    intro hfault
    have hspace := (Lexeme.token_eq_ok_none_iff l).mp ht
    have hfilter : l.text.filter (!isSpace ·) = [] := by
      rw [List.filter_eq_nil_iff]
      intro d hd
      simp [Lexeme.isSpace_of_mem_front? hl d hd, hspace]
    rw [ih hfault, filter_front? hl, hfilter, List.nil_append]
  | case5 c r l hl t ht rest ih =>
    intro hfault
    have hcls := Lexeme.ne_space_of_token ht
    have hfilter : l.text.filter (!isSpace ·) = l.text := by
      rw [List.filter_eq_self]
      intro d hd
      simp [Lexeme.isSpace_of_mem_front? hl d hd, hcls]
    rw [List.flatMap_cons, ih hfault, Lexeme.text_of_token ht, filter_front? hl, hfilter]

/-- every token of a text is read off its own text again -/
theorem spelled_of_mem_scan (t : Text) : ∀ u ∈ (scan t).1, u.Spelled := by
  fun_induction scan t with
  | case1 => simp
  | case2 => simp
  | case3 => simp
  | case4 c r l hl ht ih => exact ih
  | case5 c r l hl t ht rest ih =>
    intro u hu
    rcases List.mem_cons.mp hu with rfl | hu
    · obtain ⟨d, v, hdv, hfront⟩ :=
        Lexeme.front?_append_ends hl (Lexeme.ne_space_of_token ht)
      have htext := Lexeme.text_of_token ht
      constructor
      · exact fun r hr => scan_of_front? (htext.trans hdv) (hfront r hr) htext.symm ht
      · rw [htext, hdv, Bool.eq_false_iff]
        intro hblank
        have hd : isBlank d = true := List.all_eq_true.mp hblank d List.mem_cons_self
        exact token_ne_some_of_isBlank hd (hfront [] ends_nil) ht
    · exact ih u hu

/-! ## Tokens written apart -/

/-- the texts of the tokens, white space behind each one that has another behind it -/
inductive SpacedFrom : List Token → Text → Prop
  | nil {g : Text} (hg : IsSpaces g) : SpacedFrom [] g
  | cons {t : Token} {ts : List Token} {g r : Text} (hg : IsSpaces g) (hne : ts ≠ [] → g ≠ [])
      (hr : SpacedFrom ts r) : SpacedFrom (t :: ts) (t.text ++ (g ++ r))

/-- the texts of the tokens with white space between them, and any before and behind -/
def Spaced (ts : List Token) (u : Text) : Prop :=
  ∃ g r, IsSpaces g ∧ SpacedFrom ts r ∧ u = g ++ r

theorem ends_of_isSpace {c : Char} (h : isSpace c = true) (r : Text) : Ends (c :: r) := by
  intro d hd
  cases hd
  obtain ⟨hnumber, -, hletter, -⟩ := isBlank_separates (isBlank_of_isSpace h)
  rw [Bool.or_eq_false_iff] at hnumber
  exact ⟨hnumber.1, hnumber.2, hletter⟩

theorem SpacedFrom.ends {ts : List Token} {g r : Text} (hr : SpacedFrom ts r) (hg : IsSpaces g)
    (hne : ts ≠ [] → g ≠ []) : Ends (g ++ r) := by
  have hspaces : ∀ u : Text, IsSpaces u → Ends u := by
    intro u hu
    cases u with
    | nil => exact ends_nil
    | cons c u => exact ends_of_isSpace (hu c List.mem_cons_self) u
  cases g with
  | cons c g => exact ends_of_isSpace (hg c List.mem_cons_self) (g ++ r)
  | nil =>
    cases hr with
    | nil hr => exact hspaces _ hr
    | cons => exact absurd rfl (hne (List.cons_ne_nil _ _))

theorem SpacedFrom.scan_eq {ts : List Token} {r : Text} (h : SpacedFrom ts r)
    (hts : ∀ t ∈ ts, t.Spelled) : scan r = (ts, none) := by
  induction h with
  | @nil g hg =>
    have hscan := scan_spaces_append hg []
    rw [List.append_nil] at hscan
    rw [hscan, scan]
  | @cons t ts g r hg hne hr ih =>
    have hspelled := hts t List.mem_cons_self
    rw [hspelled.scan_append _ (hr.ends hg hne), scan_spaces_append hg,
      ih fun u hu => hts u (List.mem_cons_of_mem t hu)]

/-- **Cutting into tokens loses nothing and does not depend on spacing**: the texts of the tokens of
a text, put together, are the text without its white space; and any text in which they are written
apart has the same tokens. -/
theorem ofText_respaced {t : Text} {ts : List Token} (h : ofText t = .ok ts) :
    ts.flatMap text = t.filter (!isSpace ·) ∧ ∀ u, Spaced ts u → ofText u = .ok ts := by
  have hscan := ofText_eq_ok_iff.mp h
  have htext := flatMap_text_scan t
  have hspelled := spelled_of_mem_scan t
  rw [hscan] at htext hspelled
  refine ⟨htext rfl, ?_⟩
  rintro u ⟨g, r, hg, hr, rfl⟩
  rw [ofText_eq_ok_iff, scan_spaces_append hg, hr.scan_eq hspelled]

/-- `1.5.5sin(π)` is cut in front of the second point, and a space there changes nothing. -/
theorem ofText_respaced_sine :
    ∃ ts, ofText "1.5.5sin(π)".toList = .ok ts ∧ Spaced ts "\t1.5 .5 sin ( π )".toList ∧
      ts.flatMap text = "1.5.5sin(π)".toList.filter (!isSpace ·) ∧
      ofText "\t1.5 .5 sin ( π )".toList = .ok ts := by
  have hts : ofText "1.5.5sin(π)".toList =
      .ok [⟨.number, ['1', '.', '5'], some 1.5⟩, ⟨.number, ['.', '5'], some 0.5⟩,
        ⟨.function, ['s', 'i', 'n'], none⟩, Infix.opening,
        ⟨.constant, ['π'], some Constant.pi.value⟩, Infix.closing] :=
    Expression.eq_ok_of_toOption (by decide +kernel)
  have hone : IsSpaces [' '] := by decide
  have hspaced : Spaced [⟨.number, ['1', '.', '5'], some 1.5⟩, ⟨.number, ['.', '5'], some 0.5⟩,
      ⟨.function, ['s', 'i', 'n'], none⟩, Infix.opening,
      ⟨.constant, ['π'], some Constant.pi.value⟩, Infix.closing]
      "\t1.5 .5 sin ( π )".toList :=
    ⟨['\t'], _, by decide, .cons hone nofun (.cons hone nofun (.cons hone nofun (.cons hone nofun
      (.cons hone nofun (.cons (g := []) nofun nofun (.nil (g := []) nofun)))))), rfl⟩
  obtain ⟨htext, hrespaced⟩ := ofText_respaced hts
  exact ⟨_, hts, hspaced, htext, hrespaced _ hspaced⟩

end Token
end PocketCalc
