import Mathlib
import PocketCalc.Proofs.Infix
import PocketCalc.Proofs.Numeral

/-!
# Written trees are read back

The text of a tree, every operation in parentheses, is cut into the tokens of the tree again: behind
a numeral or a word there is always a sign, a parenthesis or nothing, so it ends where it should.

* `Ends`                     what follows goes into neither a numeral nor a word;
* `Token.Spelled`            a token that its text is read as wherever it ends so;
* `spelled_number`, ...      which tokens these are;
* `Tree.scan_text_append`    the tokens of the text of a tree;
* `Expression.evaluate_text` its value.
-/

namespace PocketCalc
open Text Infix

/-! ## Characters -/

/-- what holds of the first 128 characters is a matter of computation -/
theorem forall_ascii {p : Char → Bool} (h : ∀ n < 128, p (Char.ofNat n) = true) {c : Char}
    (hc : c.toNat < 128) : p c = true := by
  rw [← Char.ofNat_toNat c]
  exact h c.toNat hc

/-- the longest run in front is found again before anything else -/
theorem span_append {p : Char → Bool} {w r : Text} (hw : ∀ c ∈ w, p c = true)
    (hr : ∀ c ∈ r.head?, p c = false) :
    (w ++ r).takeWhile p = w ∧ (w ++ r).dropWhile p = r := by
  rw [List.takeWhile_append_of_pos hw, List.dropWhile_append_of_pos hw]
  cases r with
  | nil => simp
  | cons c r => simp [hr c rfl]

/-- a sign or a parenthesis -/
def isMark (c : Char) : Bool := Operator.isSign c || c = '(' || c = ')'

theorem Operator.mem_signs_of_ofChar? {c : Char} {op : Operator} (h : ofChar? c = some op) :
    c ∈ ['+', '-', '×', '÷', '*', '/', '−'] := by
  unfold ofChar? at h
  split at h
  · rename_i op' hfind
    have hc := List.find?_some hfind
    rw [← of_decide_eq_true hc]
    cases op' <;> decide
  · obtain ⟨l₁, l₂, hsplit, -⟩ := List.lookup_eq_some_iff.mp h
    have hmem : (c, op) ∈ synonyms := by
      rw [hsplit]
      simp
    simp only [synonyms, List.mem_cons, Prod.mk.injEq, List.not_mem_nil, or_false] at hmem
    rcases hmem with ⟨rfl, -⟩ | ⟨rfl, -⟩ | ⟨rfl, -⟩ <;> decide

/-- a mark goes into neither a numeral nor a word -/
theorem isMark_separates {c : Char} (h : isMark c = true) :
    isDigit c = false ∧ isSeparator c = false ∧ isLetter c = false := by
  have hmarks : ∀ c ∈ ['+', '-', '×', '÷', '*', '/', '−', '(', ')'],
      isDigit c = false ∧ isSeparator c = false ∧ isLetter c = false := by decide +kernel
  apply hmarks
  simp only [isMark, Bool.or_eq_true, decide_eq_true_eq, Operator.isSign] at h
  rcases h with (h | rfl) | rfl
  · obtain ⟨op, hop⟩ := Option.isSome_iff_exists.mp h
    exact List.mem_append_left ['(', ')'] (Operator.mem_signs_of_ofChar? hop)
  · decide
  · decide

/-- nothing follows, or a character that goes into neither a numeral nor a word -/
def Ends (r : Text) : Prop :=
  ∀ c ∈ r.head?, isDigit c = false ∧ isSeparator c = false ∧ isLetter c = false

theorem ends_nil : Ends [] := by
  intro c hc
  cases hc

theorem ends_cons {c : Char} (h : isMark c = true) (r : Text) : Ends (c :: r) := by
  intro d hd
  cases hd
  exact isMark_separates h

/-! ## Tokens -/

namespace Token

/-- A token is read off its text wherever that ends. -/
structure Spelled (t : Token) : Prop where
  scan_append : ∀ r, Ends r → scan (t.text ++ r) = (t :: (scan r).1, (scan r).2)
  visible : isBlankText t.text = false

theorem scan_cons {c : Char} {r : Text} {l : Lexeme} (hl : Lexeme.front? c r = some l) :
    scan (c :: r) =
      match l.token with
      | .error f => ([], some f)
      | .ok none => scan ((c :: r).drop l.text.length)
      | .ok (some t) => (t :: (scan ((c :: r).drop l.text.length)).1,
          (scan ((c :: r).drop l.text.length)).2) := by
  rw [scan]
  split
  · rename_i h
    rw [hl] at h
    cases h
  · rename_i l' h
    rw [hl] at h
    cases h
    rfl

theorem scan_of_front? {t : Token} {c : Char} {u r : Text} {l : Lexeme} (ht : t.text = c :: u)
    (hl : Lexeme.front? c (u ++ r) = some l) (htext : l.text = t.text)
    (htoken : l.token = .ok (some t)) : scan (t.text ++ r) = (t :: (scan r).1, (scan r).2) := by
  have hdrop : (c :: (u ++ r)).drop l.text.length = r := by
    rw [htext, ht]
    exact List.drop_left
  rw [ht, List.cons_append, scan_cons hl, hdrop, htoken]

end Token

/-! ## Signs and parentheses -/

theorem scan_opening (r : Text) :
    Token.scan (opening.text ++ r) = (opening :: (Token.scan r).1, (Token.scan r).2) :=
  Token.scan_of_front? (l := ⟨.opening, ['(']⟩) rfl rfl rfl rfl

theorem scan_closing (r : Text) :
    Token.scan (closing.text ++ r) = (closing :: (Token.scan r).1, (Token.scan r).2) :=
  Token.scan_of_front? (l := ⟨.closing, [')']⟩) rfl rfl rfl rfl

theorem ends_opening (r : Text) : Ends (opening.text ++ r) := ends_cons (by decide) r

theorem ends_closing (r : Text) : Ends (closing.text ++ r) := ends_cons (by decide) r

theorem Operator.eq_singleton_of_ofText? {t : Text} {op : Operator} (h : ofText? t = some op) :
    ∃ c, t = [c] ∧ isMark c = true := by
  unfold ofText? at h
  split at h
  · rename_i c
    exact ⟨c, rfl, by simp [isMark, isSign, h]⟩
  · cases h

theorem scan_operator {t : Text} {op : Operator} (h : Operator.ofText? t = some op) (r : Text) :
    Token.scan (t ++ r) = (⟨.operator, t, none⟩ :: (Token.scan r).1, (Token.scan r).2) := by
  obtain ⟨c, rfl, hmark⟩ := Operator.eq_singleton_of_ofText? h
  obtain ⟨hdigit, hsep, -⟩ := isMark_separates hmark
  have hsign : Operator.isSign c = true := by
    rw [Operator.isSign, show Operator.ofChar? c = some op from h]
    rfl
  refine Token.scan_of_front? (t := ⟨.operator, [c], none⟩) (l := ⟨.sign, [c]⟩) rfl ?_ rfl rfl
  simp [Lexeme.front?, hdigit, hsep, hsign]

/-! ## Words -/

/-- a letter that starts no other lexeme -/
def isWordChar (c : Char) : Bool :=
  isLetter c && !isDigit c && !isSeparator c && !Operator.isSign c && !isBlank c

theorem isWordChar_of_isAlpha {c : Char} (h : c.isAlpha = true) : isWordChar c = true := by
  have hascii : c.toNat < 128 := by
    simp only [Char.isAlpha, Char.isUpper, Char.isLower, Bool.or_eq_true, Bool.and_eq_true,
      decide_eq_true_eq, UInt32.le_iff_toNat_le, ge_iff_le] at h
    have hval : c.val.toNat = c.toNat := rfl
    have hZ : 'Z'.val.toNat = 90 := rfl
    have hz : 'z'.val.toNat = 122 := rfl
    omega
  have hall := forall_ascii (p := fun c => !c.isAlpha || isWordChar c) (by decide +kernel) hascii
  simpa [h] using hall

theorem scan_word {t : Token} {c : Char} {u r : Text} (ht : t.text = c :: u)
    (hword : ∀ d ∈ c :: u, isWordChar d = true) (hr : Ends r)
    (htoken : Lexeme.token ⟨.word, t.text⟩ = .ok (some t)) :
    Token.scan (t.text ++ r) = (t :: (Token.scan r).1, (Token.scan r).2) := by
  have hletter : ∀ d ∈ u, isLetter d = true := by
    intro d hd
    have h := hword d (List.mem_cons_of_mem c hd)
    simp only [isWordChar, Bool.and_eq_true] at h
    exact h.1.1.1.1
  have htake : (u ++ r).takeWhile isLetter = u :=
    (span_append hletter fun d hd => (hr d hd).2.2).1
  refine Token.scan_of_front? ht (l := ⟨.word, t.text⟩) ?_ rfl htoken
  have h := hword c List.mem_cons_self
  simp only [isWordChar, Bool.and_eq_true, Bool.not_eq_true'] at h
  obtain ⟨⟨⟨⟨hl, hd⟩, hs⟩, hsign⟩, -⟩ := h
  simp [Lexeme.front?, hd, hs, hsign, hl, htake, ht]

theorem isBlankText_of_isWordChar {c : Char} {u : Text} (h : isWordChar c = true) :
    isBlankText (c :: u) = false := by
  simp only [isWordChar, Bool.and_eq_true, Bool.not_eq_true'] at h
  simp [isBlankText, h.2]

theorem spelled_constant {t : Text} {k : Constant} (h : Constant.ofText? t = some k) :
    Token.Spelled ⟨.constant, t, some k.value⟩ := by
  have hcases : t = ['π'] ∨ t = ['p', 'i'] ∨ t = ['e'] := by
    unfold Constant.ofText? at h
    split at h
    · exact .inl rfl
    · exact .inr (.inl rfl)
    · exact .inr (.inr rfl)
    · cases h
  have hword : ∀ d ∈ t, isWordChar d = true := by
    rcases hcases with rfl | rfl | rfl <;> decide +kernel
  have htoken : Lexeme.token ⟨.word, t⟩ = .ok (some ⟨.constant, t, some k.value⟩) := by
    simp only [Lexeme.token, h]
  cases t with
  | nil => cases h
  | cons c u =>
    exact ⟨fun r hr => scan_word rfl hword hr htoken,
      isBlankText_of_isWordChar (hword c List.mem_cons_self)⟩

theorem Trig.isAlpha_of_ofText? {t : Text} {f : Trig} (h : ofText? t = some f) :
    3 ≤ t.length ∧ ∀ c ∈ t, c.isAlpha = true := by
  have hname : f.name = t.map Char.toLower := by
    unfold ofText? at h
    have hfound := List.find?_some h
    exact of_decide_eq_true hfound
  constructor
  · have hlen : 3 ≤ f.name.length := by cases f <;> decide
    rw [hname, List.length_map] at hlen
    exact hlen
  · intro c hc
    have hlower : c.toLower ∈ f.name := by
      rw [hname]
      exact List.mem_map_of_mem hc
    have hletters : ∀ d ∈ f.name, d.isAlpha = true := by cases f <;> decide
    have halpha := hletters _ hlower
    unfold Char.toLower at halpha
    split at halpha
    · rename_i hupper
      have hisUpper : c.isUpper = true := by simpa [Char.isUpper] using hupper
      rw [Char.isAlpha, hisUpper]
      rfl
    · exact halpha

theorem spelled_function {t : Text} {f : Trig} (h : Trig.ofText? t = some f) :
    Token.Spelled ⟨.function, t, none⟩ := by
  obtain ⟨hlen, halpha⟩ := Trig.isAlpha_of_ofText? h
  have hword : ∀ d ∈ t, isWordChar d = true := fun d hd => isWordChar_of_isAlpha (halpha d hd)
  have hconstant : Constant.ofText? t = none := by
    unfold Constant.ofText?
    split <;> simp_all
  have htoken : Lexeme.token ⟨.word, t⟩ = .ok (some ⟨.function, t, none⟩) := by
    simp only [Lexeme.token, hconstant, h]
  cases t with
  | nil => cases hlen
  | cons c u =>
    exact ⟨fun r hr => scan_word rfl hword hr htoken,
      isBlankText_of_isWordChar (hword c List.mem_cons_self)⟩

/-! ## Numerals -/

theorem mem_digits_of_isAsciiDigit {c : Char} (h : isAsciiDigit c = true) :
    c ∈ ['0', '1', '2', '3', '4', '5', '6', '7', '8', '9'] := by
  have hascii : c.toNat < 128 := by
    simp only [isAsciiDigit, Bool.and_eq_true, decide_eq_true_eq] at h
    have hle : c.val ≤ '9'.val := h.2
    rw [UInt32.le_iff_toNat_le] at hle
    have hval : c.val.toNat = c.toNat := rfl
    have h9 : '9'.val.toNat = 57 := rfl
    omega
  have hall := forall_ascii (p := fun c => !isAsciiDigit c ||
    ['0', '1', '2', '3', '4', '5', '6', '7', '8', '9'].contains c) (by decide +kernel) hascii
  rw [h] at hall
  exact List.contains_iff_mem.mp hall

/-- one of the digits `0` to `9` goes into a numeral, whatever class is asked for -/
theorem isAsciiDigit_classes {c : Char} (h : isAsciiDigit c = true) :
    isValuedDigit c = true ∧ isDigit c = true ∧ isBlank c = false ∧ pointForComma c = c := by
  have hall : ∀ c ∈ ['0', '1', '2', '3', '4', '5', '6', '7', '8', '9'],
      isValuedDigit c = true ∧ isDigit c = true ∧ isBlank c = false ∧ pointForComma c = c := by
    decide
  exact hall c (mem_digits_of_isAsciiDigit h)

/-- a row of the digits `0` to `9` -/
def IsAsciiDigits (t : Text) : Prop := ∀ c ∈ t, isAsciiDigit c = true

instance (t : Text) : Decidable (IsAsciiDigits t) :=
  inferInstanceAs (Decidable (∀ c ∈ t, isAsciiDigit c = true))

theorem IsAsciiDigits.isDigits {t : Text} (h : IsAsciiDigits t) : IsDigits t :=
  fun c hc => (isAsciiDigit_classes (h c hc)).1

/-- a point with digits behind it, or nothing -/
def IsAsciiFraction (t : Text) : Prop := t = [] ∨ ∃ ds, t = '.' :: ds ∧ IsAsciiDigits ds

theorem IsAsciiFraction.isFraction {t : Text} (h : IsAsciiFraction t) : IsFraction t := by
  rcases h with rfl | ⟨ds, rfl, hds⟩
  · exact .inl rfl
  · exact .inr ⟨ds, rfl, hds.isDigits⟩

theorem not_isDigit_of_isSeparator {c : Char} (h : isSeparator c = true) : isDigit c = false := by
  simp only [isSeparator, Bool.or_eq_true, decide_eq_true_eq] at h
  rcases h with rfl | rfl <;> decide

theorem numberLexeme_digits {w r : Text} (hw : ∀ c ∈ w, isDigit c = true) (hr : Ends r) :
    numberLexeme (w ++ r) = w := by
  obtain ⟨htake, hdrop⟩ := span_append hw fun c hc => (hr c hc).1
  unfold numberLexeme
  rw [htake, hdrop]
  cases r with
  | nil => rfl
  | cons d r => simp [(hr d rfl).2.1]

theorem numberLexeme_separated {w ds r : Text} {s : Char} (hw : ∀ c ∈ w, isDigit c = true)
    (hs : isSeparator s = true) (hds : ∀ c ∈ ds, isDigit c = true)
    (hr : ∀ c ∈ r.head?, isDigit c = false) :
    numberLexeme (w ++ s :: ds ++ r) = w ++ s :: ds := by
  obtain ⟨htake, hdrop⟩ := span_append (r := s :: (ds ++ r)) hw (by
    intro c hc
    cases hc
    exact not_isDigit_of_isSeparator hs)
  unfold numberLexeme
  rw [List.append_assoc, List.cons_append, htake, hdrop]
  simp only [hs, if_true, (span_append hds hr).1]

theorem numberLexeme_append {w f r : Text} (hw : IsAsciiDigits w) (hf : IsAsciiFraction f)
    (hr : Ends r) : numberLexeme (w ++ f ++ r) = w ++ f := by
  have hdigits : ∀ {ds : Text}, IsAsciiDigits ds → ∀ c ∈ ds, isDigit c = true :=
    fun hds c hc => (isAsciiDigit_classes (hds c hc)).2.1
  rcases hf with rfl | ⟨ds, rfl, hds⟩
  · rw [List.append_nil]
    exact numberLexeme_digits (hdigits hw) hr
  · exact numberLexeme_separated (hdigits hw) (by decide) (hdigits hds) fun c hc => (hr c hc).1

theorem spelled_number {w f : Text} {x : Float} (hw : IsAsciiDigits w) (hne : w ≠ [])
    (hf : IsAsciiFraction f) (hx : readNumber? (w ++ f) = some x) :
    Token.Spelled ⟨.number, w ++ f, some x⟩ := by
  obtain ⟨c, u, rfl⟩ := List.exists_cons_of_ne_nil hne
  obtain ⟨-, hdigit, hblank, -⟩ := isAsciiDigit_classes (hw c List.mem_cons_self)
  constructor
  · intro r hr
    refine Token.scan_of_front? (t := ⟨.number, c :: u ++ f, some x⟩) rfl
      (l := ⟨.number, c :: u ++ f⟩) ?_ rfl ?_
    · have hlexeme := numberLexeme_append hw hf hr
      simp only [List.cons_append, List.append_assoc] at hlexeme ⊢
      simp [Lexeme.front?, hdigit, hlexeme]
    · simp only [Lexeme.token, hx]
  · simp [isBlankText, hblank]

/-! ## Trees -/

namespace Infix.Tree

def text (e : Tree) : Text := e.enclosed.flatMap Token.text

/-- a tree whose tokens are read off their texts -/
def Spelled : Tree → Prop
  | leaf v => v.token.Spelled
  | binary op l r => l.Spelled ∧ op.token.value = none ∧ r.Spelled
  | apply f x => f.token.Spelled ∧ x.Spelled

theorem scan_text_append (e : Tree) (h : e.Spelled) : ∀ r, Ends r →
    Token.scan (e.text ++ r) = (e.enclosed ++ (Token.scan r).1, (Token.scan r).2) := by
  induction e with
  | leaf v =>
    intro r hr
    simp only [text, enclosed, List.flatMap_cons, List.flatMap_nil, List.append_nil]
    exact h.scan_append r hr
  | binary op l r ihl ihr =>
    intro rest hrest
    obtain ⟨hl, hop, hr⟩ := h
    have htoken : op.token = ⟨.operator, op.token.text, none⟩ := by
      rw [← op.isOperator, ← hop]
    have hends : Ends (op.token.text ++ (r.text ++ (closing.text ++ rest))) := by
      obtain ⟨c, hc, hmark⟩ := Operator.eq_singleton_of_ofText? op.reads
      rw [hc]
      exact ends_cons hmark _
    have htext : (binary op l r).text ++ rest =
        opening.text ++ (l.text ++ (op.token.text ++ (r.text ++ (closing.text ++ rest)))) := by
      simp [text, enclosed]
    rw [htext, scan_opening, ihl hl _ hends, scan_operator op.reads, ← htoken,
      ihr hr _ (ends_closing rest), scan_closing]
    simp [enclosed]
  | apply f x ih =>
    intro rest _
    obtain ⟨hf, hx⟩ := h
    have htext : (apply f x).text ++ rest =
        f.token.text ++ (opening.text ++ (x.text ++ (closing.text ++ rest))) := by
      simp [text, enclosed]
    rw [htext, hf.scan_append _ (ends_opening _), scan_opening, ih hx _ (ends_closing rest),
      scan_closing]
    simp [enclosed]

theorem isBlankText_text (e : Tree) (h : e.Spelled) : isBlankText e.text = false := by
  have hopening : isBlankText opening.text = false := by decide +kernel
  cases e with
  | leaf v =>
    simp only [text, enclosed, List.flatMap_cons, List.flatMap_nil, List.append_nil]
    exact h.visible
  | binary op l r =>
    simp only [text, enclosed, List.flatMap_cons, isBlankText, List.all_append] at hopening ⊢
    rw [hopening, Bool.false_and]
  | apply f x =>
    have hvisible := h.1.visible
    simp only [text, enclosed, List.flatMap_cons, isBlankText, List.all_append] at hvisible ⊢
    rw [hvisible, Bool.false_and]

end Infix.Tree

/-- the text of a tree is evaluated to the value of the tree -/
theorem Expression.evaluate_text (lib : TrigLibrary) {e : Tree} (h : e.Spelled) :
    evaluate lib e.text = ((e.eval lib).mapError RunError.fault).map some := by
  have htokens : Token.ofText e.text = .ok e.enclosed := by
    have hscan := e.scan_text_append h [] ends_nil
    rw [List.append_nil] at hscan
    rw [Token.ofText, hscan]
    simp [Token.scan]
  have hrpn : rpn e.text = .ok e.postorder := by
    rw [rpn, if_neg (by rw [e.isBlankText_text h]; exact Bool.false_ne_true), htokens]
    exact Rpn.ofInfix_of_renders (e.renders_enclosed 0)
  rw [evaluate, hrpn]
  exact Rpn.run_postorder lib e

end PocketCalc
