import Mathlib
import PocketCalc.Proofs.Overflow
import PocketCalc.Proofs.Spacing

/-!
# Expressions have finite values

Every operation checks its result, so what an operator or a function gives is finite, and so is a
constant.  A numeral is not checked: one that is too large for a double is read as infinity, and an
expression that is such a numeral and nothing else has that value.

* `check_eq_ok`              a result that passes its check is finite;
* `Tree.eval_cases`          the value of a tree is finite, or the tree is a leaf;
* `Token.IsHuge`             a numeral that is too large for a double;
* `finite_or_isHuge`         no other token of a text has an infinite value;
* `Tree.inorder`             the tokens of a written tree without its parentheses;
* `evaluate_finite_or_huge`  a value is finite, or it is that of such a numeral alone.
-/

namespace PocketCalc
open Text Infix

/-! ## Checked results -/

theorem check_eq_ok {x y : Float} {source : Option Source} {operand : Option Float}
    {detail : Option Text} (h : check x source operand detail = .ok y) :
    y = x ∧ x.isFinite = true := by
  have husable : ∀ k, classify.unusableKind x k = none → x.isFinite = true := by
    intro k hk
    rw [isFinite_eq]
    unfold classify.unusableKind at hk
    cases hnan : x.isNaN <;> cases hinf : x.isInf <;> simp_all
  unfold check at h
  split at h
  · rename_i hclass
    cases h
    refine ⟨rfl, ?_⟩
    unfold classify at hclass
    split at hclass
    · split at hclass
      · cases hclass
      · exact husable _ hclass
    · exact husable _ hclass
    · exact husable _ hclass
  · cases h

theorem Operator.isFinite_of_compute {op : Operator} {sign : Text} {a b x : Float}
    (h : op.compute sign a b = .ok x) : x.isFinite = true := by
  unfold compute at h
  split at h
  · obtain ⟨rfl, hfinite⟩ := check_eq_ok h
    exact hfinite
  · cases h

theorem Trig.isFinite_of_compute {lib : TrigLibrary} {f : Trig} {word : Text} {a x : Float}
    {factor : Option Float} (h : f.compute lib word a factor = .ok x) : x.isFinite = true := by
  obtain ⟨rfl, hfinite⟩ := check_eq_ok h
  exact hfinite

/-- only the value of a single number or constant goes unchecked -/
theorem Infix.Tree.eval_cases {lib : TrigLibrary} {e : Tree} {x : Float} (h : e.eval lib = .ok x) :
    x.isFinite = true ∨ ∃ v, e = .leaf v ∧ x = v.value := by
  cases e with
  | leaf v =>
    cases h
    exact .inr ⟨v, rfl, rfl⟩
  | binary op l r =>
    left
    rw [eval] at h
    cases hl : l.eval lib with
    | error f =>
      rw [hl] at h
      cases h
    | ok a =>
      cases hr : r.eval lib with
      | error f =>
        rw [hl, hr] at h
        cases h
      | ok b =>
        rw [hl, hr] at h
        exact Operator.isFinite_of_compute h
  | apply f e =>
    left
    rw [eval] at h
    cases he : e.eval lib with
    | error g =>
      rw [he] at h
      cases h
    | ok a =>
      rw [he] at h
      exact Trig.isFinite_of_compute h

/-! ## Values of tokens -/

/-- a numeral that is too large for a double -/
def Token.IsHuge (t : Token) : Prop :=
  t.kind = .number ∧
    ∃ d, Decimal.ofNumeral? ((trim t.text).map pointForComma) = some d ∧ overflowAt ≤ d.magnitude

theorem Constant.isFinite_value (k : Constant) : k.value.isFinite = true := by
  cases k <;> decide

theorem Decimal.mem_of_negative {t : Text} {d : Decimal} (h : ofNumeral? t = some d)
    (hneg : d.negative = true) : '-' ∈ t := by
  obtain ⟨hs, hw, hf, hx, hne⟩ := isDecimal_of_ofNumeral? h
  rw [ofNumeral?_parts hs hw hf hx hne] at h
  cases h
  rename_i s w f x
  have hsign : s = ['-'] := eq_of_beq hneg
  simp [hsign]

theorem mem_of_mem_trim {t : Text} {c : Char} (h : c ∈ trim t) : c ∈ t := by
  have hsuffix : c ∈ t.dropWhile isBlank := by
    rw [← trimEndWhile_append_endingWhile isBlank (t.dropWhile isBlank)]
    exact List.mem_append_left _ h
  exact (List.dropWhile_sublist _).subset hsuffix

/-- no sign goes into a number -/
theorem negative_of_numberLexeme {t : Text} {d : Decimal}
    (h : Decimal.ofNumeral? ((trim (numberLexeme t)).map pointForComma) = some d) :
    d.negative = false := by
  rw [Bool.eq_false_iff]
  intro hneg
  obtain ⟨c, hc, hminus⟩ := List.mem_map.mp (Decimal.mem_of_negative h hneg)
  have hlexeme := mem_numberLexeme (mem_of_mem_trim hc)
  unfold pointForComma at hminus
  split at hminus
  · cases hminus
  · rw [hminus] at hlexeme
    exact absurd hlexeme (by decide)

namespace Token

theorem finite_or_isHuge_of_front? {c : Char} {r : Text} {l : Lexeme} {t : Token} {x : Float}
    (hl : Lexeme.front? c r = some l) (ht : l.token = .ok (some t)) (hx : t.value = some x) :
    ¬ t.IsHuge ∧ x.isFinite = true ∨ t.IsHuge ∧ x = infinity := by
  cases hcls : l.cls with
  | number =>
    have htext : l.text = numberLexeme (c :: r) := by
      rcases Lexeme.front?_cases hl with ⟨-, rfl⟩ | ⟨-, -, -, rfl⟩ | ⟨-, rfl⟩ | ⟨hmark, -⟩
      · rfl
      · cases hcls
      · cases hcls
      · rw [hcls] at hmark
        rcases hmark with hmark | hmark | hmark <;> cases hmark
    simp only [Lexeme.token, hcls] at ht
    split at ht
    · rename_i y hy
      cases ht
      cases hx
      obtain ⟨d, hd, rfl⟩ := Option.map_eq_some_iff.mp hy
      by_cases hfinite : d.magnitude < overflowAt
      · refine .inl ⟨?_, d.isFinite_toFloat_iff.mpr hfinite⟩
        rintro ⟨-, e, he, hhuge⟩
        rw [hd] at he
        cases he
        exact not_lt.mpr hhuge hfinite
      · have hhuge := not_lt.mp hfinite
        refine .inr ⟨⟨rfl, d, hd, hhuge⟩, ?_⟩
        rw [htext] at hd
        rw [Decimal.toFloat_eq_infinity hhuge, negative_of_numberLexeme hd]
        rfl
    · cases ht
  | word =>
    simp only [Lexeme.token, hcls] at ht
    split at ht
    · rename_i k hk
      cases ht
      cases hx
      refine .inl ⟨fun hhuge => ?_, k.isFinite_value⟩
      cases hhuge.1
    split at ht
    · cases ht
      cases hx
    · cases ht
  | sign | opening | closing | space =>
    simp only [Lexeme.token, hcls] at ht
    cases ht
    try cases hx

theorem finite_or_isHuge_of_mem_scan (t : Text) : ∀ u ∈ (scan t).1, ∀ x, u.value = some x →
    ¬ u.IsHuge ∧ x.isFinite = true ∨ u.IsHuge ∧ x = infinity := by
  fun_induction scan t with
  | case1 => simp
  | case2 => simp
  | case3 => simp
  | case4 c r l hl ht ih => exact ih
  | case5 c r l hl t ht rest ih =>
    intro u hu x hx
    rcases List.mem_cons.mp hu with rfl | hu
    · exact finite_or_isHuge_of_front? hl ht hx
    · exact ih u hu x hx

/-- the numbers and constants of a text are finite, but for numerals too large for a double -/
theorem finite_or_isHuge {t : Text} {ts : List Token} (h : ofText t = .ok ts) {u : Token}
    (hu : u ∈ ts) {x : Float} (hx : u.value = some x) :
    ¬ u.IsHuge ∧ x.isFinite = true ∨ u.IsHuge ∧ x = infinity := by
  have hscan := finite_or_isHuge_of_mem_scan t
  rw [ofText_eq_ok_iff.mp h] at hscan
  exact hscan u hu x hx

end Token

/-! ## Written trees without parentheses -/

namespace Infix

/-- the tokens of a tree in the order they are written in -/
def Tree.inorder : Tree → List Token
  | leaf v => [v.token]
  | binary op l r => l.inorder ++ op.token :: r.inorder
  | apply f x => f.token :: x.inorder

theorem Tree.inorder_ne_nil (e : Tree) : e.inorder ≠ [] := by
  cases e with
  | leaf v => exact List.cons_ne_nil _ _
  | binary op l r => exact List.append_ne_nil_of_right_ne_nil _ (List.cons_ne_nil _ _)
  | apply f x => exact List.cons_ne_nil _ _

/-- a tree of one token is a leaf -/
theorem Tree.exists_leaf_of_inorder {e : Tree} {u : Token} (h : e.inorder = [u]) :
    ∃ v, e = .leaf v ∧ v.token = u := by
  cases e with
  | leaf v => exact ⟨v, rfl, List.head_eq_of_cons_eq h⟩
  | binary op l r =>
    rw [inorder, List.append_eq_singleton_iff] at h
    rcases h with ⟨hl, -⟩ | ⟨-, hr⟩
    · exact absurd hl l.inorder_ne_nil
    · cases hr
  | apply f x => exact absurd (List.tail_eq_of_cons_eq h) x.inorder_ne_nil

theorem mem_of_withoutParens_eq {ts : List Token} {u : Token} (h : withoutParens ts = [u]) :
    u ∈ ts := by
  have hfilter : u ∈ withoutParens ts := h ▸ List.mem_singleton_self u
  exact (List.mem_filter.mp hfilter).1

theorem withoutParens_cons_of_not {t : Token} (h : t.kind ≠ .openParen ∧ t.kind ≠ .closeParen)
    (ts : List Token) : withoutParens (t :: ts) = t :: withoutParens ts :=
  List.filter_cons_of_pos (by simp [h])

theorem Renders.withoutParens_eq {p : Nat} {e : Tree} {ts : List Token} (h : Renders p e ts) :
    withoutParens ts = e.inorder := by
  induction h with
  | leaf v =>
    have hkind : v.token.kind ≠ .openParen ∧ v.token.kind ≠ .closeParen := by
      have hvalue := v.isValue
      constructor <;> intro hkind <;> rw [hkind] at hvalue <;> cases hvalue
    rw [withoutParens_cons_of_not hkind]
    rfl
  | @binary _ op _ _ _ _ _ _ _ ihl ihr =>
    have hkind : op.token.kind ≠ .openParen ∧ op.token.kind ≠ .closeParen := by
      rw [op.isOperator]
      decide
    rw [withoutParens_append, withoutParens_cons_of_not hkind, ihl, ihr]
    rfl
  | @apply _ f _ _ _ _ ho hc _ ih =>
    have hkind : f.token.kind ≠ .openParen ∧ f.token.kind ≠ .closeParen := by
      rw [f.isFunction]
      decide
    rw [withoutParens_cons_of_not hkind, withoutParens_cons_of_paren (.inl ho),
      withoutParens_append, withoutParens_cons_of_paren (.inr hc), ih]
    exact congrArg _ (List.append_nil _)
  | paren ho hc _ ih =>
    rw [withoutParens_cons_of_paren (.inl ho), withoutParens_append,
      withoutParens_cons_of_paren (.inr hc), ih]
    exact List.append_nil _

end Infix

/-! ## Main result -/

namespace Expression

/-- **A value is a finite number, or an infinity read off a numeral.**  A text has no value, and a
fault tells why, or it has a finite value, or it is a numeral too large for a double, alone in
parentheses or in none, and has the value infinity; and every such numeral has that value. -/
theorem evaluate_finite_or_huge (lib : TrigLibrary) (t : Text) :
    ((∃ f, evaluate lib t = .error (.fault f)) ∨
      (∃ x, evaluate lib t = .ok (some x) ∧ x.isFinite = true) ∨
      ∃ ts u, Token.ofText t = .ok ts ∧ withoutParens ts = [u] ∧ u.IsHuge ∧
        evaluate lib t = .ok (some infinity)) ∧
    ∀ ts u, Token.ofText t = .ok ts → IsExpression ts → withoutParens ts = [u] → u.IsHuge →
      evaluate lib t = .ok (some infinity) := by
  constructor
  · rcases evaluate_cases lib t with
      hfault | ⟨ts, us, e, x, hts, -, -, -, -, htokens, he, heval, hok⟩
    · exact .inl hfault
    rcases Tree.eval_cases heval with hfinite | ⟨v, rfl, rfl⟩
    · exact .inr (.inl ⟨x, hok, hfinite⟩)
    have hsingle : withoutParens ts = [v.token] := by
      rw [he.withoutParens_eq] at htokens
      exact (List.singleton_perm.mp htokens).symm
    have hmem := mem_of_withoutParens_eq hsingle
    rcases Token.finite_or_isHuge hts hmem v.carries with ⟨-, hfinite⟩ | ⟨hhuge, hinfinity⟩
    · exact .inr (.inl ⟨v.value, hok, hfinite⟩)
    · exact .inr (.inr ⟨ts, v.token, hts, hsingle, hhuge, by rw [hok, hinfinity]⟩)
  · intro ts u hts h hsingle hhuge
    obtain ⟨e, he⟩ := isExpression_iff.mp h
    obtain ⟨v, rfl, rfl⟩ := Tree.exists_leaf_of_inorder (he.withoutParens_eq ▸ hsingle)
    have hmem := mem_of_withoutParens_eq hsingle
    rcases Token.finite_or_isHuge hts hmem v.carries with ⟨hnot, -⟩ | ⟨-, hinfinity⟩
    · exact absurd hhuge hnot
    · rw [evaluate_of_renders lib hts he, ← hinfinity]
      rfl

/-- a one with 400 zeros behind it, in parentheses -/
def hugeText : Text := '(' :: '1' :: (List.replicate 400 '0' ++ [')'])

theorem evaluate_finite_or_huge_parenthesized :
    ∃ ts u, Token.ofText hugeText = .ok ts ∧ IsExpression ts ∧ withoutParens ts = [u] ∧ u.IsHuge ∧
      evaluate .native hugeText = .ok (some infinity) := by
  have hts : Token.ofText hugeText =
      .ok [opening, ⟨.number, '1' :: List.replicate 400 '0', some infinity⟩, closing] :=
    eq_ok_of_toOption (by decide +kernel)
  have hexpression : IsExpression
      [opening, ⟨.number, '1' :: List.replicate 400 '0', some infinity⟩, closing] :=
    .paren rfl rfl (.value (.number ('1' :: List.replicate 400 '0') infinity))
  have hhuge : Token.IsHuge ⟨.number, '1' :: List.replicate 400 '0', some infinity⟩ := by
    refine ⟨rfl, ⟨false, 10 ^ 400, 0⟩, by decide +kernel, ?_⟩
    have hle := Decimal.overflowAt_le_ten_zpow (le_refl 400)
    rw [Decimal.magnitude, zpow_zero, mul_one]
    exact_mod_cast hle
  exact ⟨_, _, hts, hexpression, rfl, hhuge,
    (evaluate_finite_or_huge .native hugeText).2 _ _ hts hexpression rfl hhuge⟩

/-- A one with 400 zeros behind it has a value, and that is no finite number. -/
theorem evaluate_huge :
    evaluate .native ('1' :: List.replicate 400 '0') = .ok (some infinity) ∧
      infinity.isFinite = false :=
  ⟨eq_ok_of_toOption (by decide +kernel), by decide⟩

end Expression
end PocketCalc
