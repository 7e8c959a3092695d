import Mathlib.Data.List.TakeWhile
import PocketCalc.Proofs.Infix

/-!
# What counts as an expression

The conversion to reverse Polish order checks nothing but the parentheses, and the run of the
converted list nothing but the number of values on the stack.  So texts have a value that are not
infix expressions, such as `1 2 +`.  Their value is that of an expression all the same: one with the
same conversion, made of the same tokens but for parentheses, with its numbers in the same order.

* `IsExpression`          the grammar of infix expressions;
* `isExpression_iff`      its sentences are the written trees, read by precedence;
* `Yard.step_cases`       what one token can do in the conversion;
* `Kept`                  what the conversion keeps of the tokens it has read;
* `Stacked`               a stack of values as the trees that were read;
* `run_cases`             a list that has a value is a tree in postorder;
* `Token.Legible`         a token that can be read, as those of a text can;
* `evaluate_as_expression`   the texts that have a value, and which value that is;
* `evaluate_postfix`      one of them that is no expression.
-/

namespace PocketCalc
namespace Infix

/-! ## The grammar -/

/-- the infix expressions: values, operations, applied functions, expressions in parentheses -/
inductive IsExpression : List Token → Prop
  | value (v : ValueToken) : IsExpression [v.token]
  | binary (op : OperatorToken) {ls rs : List Token} : IsExpression ls → IsExpression rs →
      IsExpression (ls ++ op.token :: rs)
  | paren {opening closing : Token} {ts : List Token} : opening.kind = .openParen →
      closing.kind = .closeParen → IsExpression ts → IsExpression (opening :: (ts ++ [closing]))
  | apply (f : FunctionToken) {opening closing : Token} {ts : List Token} :
      opening.kind = .openParen → closing.kind = .closeParen → IsExpression ts →
      IsExpression (f.token :: opening :: (ts ++ [closing]))

theorem Renders.isExpression {p : Nat} {e : Tree} {ts : List Token} (h : Renders p e ts) :
    IsExpression ts := by
  induction h with
  | leaf v => exact .value v
  | binary _ _ _ ihl ihr => exact .binary _ ihl ihr
  | apply f ho hc _ ih => exact .apply f ho hc ih
  | paren ho hc _ ih => exact .paren ho hc ih

/-- An operation behind a written tree: its operator goes to the operand at the right end of the
tree that it binds to, so the induction is on the way the tree is written. -/
theorem Renders.snoc {p : Nat} {e r : Tree} {ts rs : List Token} (h : Renders p e ts)
    (op : OperatorToken) (hr : ∀ q, Renders q r rs) :
    p ≤ op.op.precedence → ∃ e', Renders p e' (ts ++ op.token :: rs) := by
  induction h with
  | leaf v => exact fun hp => ⟨_, .binary hp (.leaf v) (hr _)⟩
  | @binary p op' l r' ls rs' hp' hl hr' _ ihr =>
    intro hp
    by_cases hle : op.op.precedence ≤ op'.op.precedence
    · exact ⟨_, .binary hp (.binary hle hl hr') (hr _)⟩
    · obtain ⟨e', he'⟩ := ihr (by omega)
      rw [List.append_assoc, List.cons_append]
      exact ⟨_, .binary hp' hl he'⟩
  | apply f ho hc hx _ => exact fun hp => ⟨_, .binary hp (.apply f ho hc hx) (hr _)⟩
  | paren ho hc he _ => exact fun hp => ⟨_, .binary hp (.paren ho hc he) (hr _)⟩

/-- two written trees with an operator between them, whatever it binds to on either side -/
theorem Renders.join {p : Nat} {r : Tree} {rs : List Token} (h : Renders p r rs) :
    ∀ {l : Tree} {ls : List Token} (op : OperatorToken), Renders 0 l ls →
      ∃ e, Renders 0 e (ls ++ op.token :: rs) := by
  induction h with
  | leaf v => exact fun op hl => hl.snoc op (fun _ => .leaf v) (Nat.zero_le _)
  | @binary p op' r₁ r₂ rs₁ rs₂ _ _ _ ih₁ ih₂ =>
    intro l ls op hl
    obtain ⟨e₁, he₁⟩ := ih₁ op hl
    obtain ⟨e₂, he₂⟩ := ih₂ op' he₁
    rw [List.append_assoc, List.cons_append] at he₂
    exact ⟨e₂, he₂⟩
  | apply f ho hc hx _ => exact fun op hl => hl.snoc op (fun _ => .apply f ho hc hx) (Nat.zero_le _)
  | paren ho hc he _ => exact fun op hl => hl.snoc op (fun _ => .paren ho hc he) (Nat.zero_le _)

/-- the sentences of the grammar are the written trees -/
theorem isExpression_iff {ts : List Token} : IsExpression ts ↔ ∃ e, Renders 0 e ts := by
  constructor
  · intro h
    induction h with
    | value v => exact ⟨_, .leaf v⟩
    | binary op _ _ ihl ihr =>
      obtain ⟨l, hl⟩ := ihl
      obtain ⟨r, hr⟩ := ihr
      exact hr.join op hl
    | paren ho hc _ ih =>
      obtain ⟨e, he⟩ := ih
      exact ⟨e, .paren ho hc he⟩
    | apply f ho hc _ ih =>
      obtain ⟨e, he⟩ := ih
      exact ⟨_, .apply f ho hc he⟩
  · rintro ⟨e, he⟩
    exact he.isExpression

/-- an expression ends in a value or in a parenthesis -/
theorem IsExpression.getLast? {ts : List Token} (h : IsExpression ts) :
    ∃ t, ts.getLast? = some t ∧ (t.kind.isValue = true ∨ t.kind = .closeParen) := by
  induction h with
  | value v => exact ⟨v.token, rfl, .inl v.isValue⟩
  | binary op _ _ _ ihr =>
    obtain ⟨t, ht, hkind⟩ := ihr
    refine ⟨t, ?_, hkind⟩
    rw [List.getLast?_append, List.getLast?_cons, ht]
    rfl
  | @paren opening closing ts _ hc _ _ =>
    refine ⟨closing, ?_, .inr hc⟩
    rw [← List.cons_append, List.getLast?_concat]
  | @apply f opening closing ts _ hc _ _ =>
    refine ⟨closing, ?_, .inr hc⟩
    rw [← List.cons_append, ← List.cons_append, List.getLast?_concat]

/-! ## What the conversion keeps -/

/-- the numbers and constants of a token list -/
def values (ts : List Token) : List Token := ts.filter fun t => t.kind.isValue

/-- a token list without its parentheses -/
def withoutParens (ts : List Token) : List Token :=
  ts.filter fun t => t.kind ≠ .openParen && t.kind ≠ .closeParen

theorem values_append (ts us : List Token) : values (ts ++ us) = values ts ++ values us :=
  List.filter_append ..

theorem values_cons_of_not {t : Token} (h : t.kind.isValue = false) (ts : List Token) :
    values (t :: ts) = values ts :=
  List.filter_cons_of_neg (by simp [h])

theorem withoutParens_append (ts us : List Token) :
    withoutParens (ts ++ us) = withoutParens ts ++ withoutParens us :=
  List.filter_append ..

theorem withoutParens_cons_of_paren {t : Token} (h : t.kind = .openParen ∨ t.kind = .closeParen)
    (ts : List Token) : withoutParens (t :: ts) = withoutParens ts := by
  refine List.filter_cons_of_neg ?_
  rcases h with h | h <;> simp [h]

end Infix

namespace Yard
open Infix

/-- of the tokens held back those in front that `p` holds of are put out, up to one that it does not
hold of -/
theorem release_cases (p : Token → Bool) (y : Yard) :
    ∃ ops held, y.held = ops ++ held ∧ (∀ u ∈ ops, p u = true) ∧ (∀ u ∈ held.head?, p u = false) ∧
      y.release p = ⟨ops.reverse ++ y.output, held⟩ := by
  refine ⟨y.held.takeWhile p, y.held.dropWhile p, List.takeWhile_append_dropWhile.symm, ?_, ?_, rfl⟩
  · exact fun u hu => List.mem_takeWhile_imp hu
  · intro u hu
    rw [← List.find?_not_eq_head?_dropWhile] at hu
    simpa using List.find?_some hu

/-- What one token can do: a value is put out; another token is held back, and some of those held
back in front of it are put out first; a closing parenthesis drops its partner and puts out what is
in front of that, and perhaps a function behind it.  No opening parenthesis is put out. -/
theorem step_cases {y y' : Yard} {t : Token} (h : y.step t = .ok y') :
    (t.kind.isValue = true ∧ y' = ⟨t :: y.output, y.held⟩) ∨
    (t.kind.isValue = false ∧ t.kind ≠ .closeParen ∧
      ∃ ops held, y.held = ops ++ held ∧ (∀ u ∈ ops, isInner u = true) ∧
        y' = ⟨ops.reverse ++ y.output, t :: held⟩) ∨
    (t.kind = .closeParen ∧
      ∃ ops opening fs held, y.held = ops ++ opening :: (fs ++ held) ∧ opening.kind = .openParen ∧
        (∀ u ∈ ops ++ fs, isInner u = true) ∧ y' = ⟨(ops ++ fs).reverse ++ y.output, held⟩) := by
  unfold step at h
  cases hk : t.kind with
  | number | constant =>
    simp only [hk] at h
    cases h
    exact .inl ⟨rfl, rfl⟩
  | function | openParen =>
    simp only [hk] at h
    cases h
    exact .inr (.inl ⟨rfl, nofun, [], y.held, rfl, by simp, rfl⟩)
  | operator =>
    simp only [hk] at h
    cases hop : Operator.find t.text with
    | error f =>
      rw [hop] at h
      cases h
    | ok op =>
      rw [hop] at h
      obtain ⟨ops, held, hheld, hops, -, hrelease⟩ := release_cases (bindsAtLeast op.precedence) y
      simp only [hrelease] at h
      cases h
      refine .inr (.inl ⟨rfl, nofun, ops, held, hheld, ?_, rfl⟩)
      exact fun u hu => isInner_of_bindsAtLeast (hops u hu)
  | closeParen =>
    simp only [hk] at h
    obtain ⟨ops, held, hheld, hops, hhead, hrelease⟩ := release_cases isInner y
    simp only [hrelease] at h
    right
    right
    refine ⟨rfl, ?_⟩
    cases held with
    | nil => cases h
    | cons opening held =>
      have ho : opening.kind = .openParen := by simpa [isInner] using hhead opening rfl
      cases held with
      | nil =>
        cases h
        exact ⟨ops, opening, [], [], hheld, ho, by simpa using hops, by simp⟩
      | cons f held =>
        simp only at h
        split at h
        · rename_i hf
          cases h
          refine ⟨ops, opening, [f], held, hheld, ho, ?_, by simp⟩
          intro u hu
          rcases List.mem_append.mp hu with hu | hu
          · exact hops u hu
          · rw [List.mem_singleton.mp hu, isInner, hf]
            rfl
        · cases h
          exact ⟨ops, opening, [], f :: held, hheld, ho, by simpa using hops, by simp⟩

end Yard

namespace Rpn
open Infix Expression

/-- the number of parentheses that are open -/
def opens (held : List Token) : Nat := held.countP fun t => !Yard.isInner t

theorem opens_append (ts us : List Token) : opens (ts ++ us) = opens ts + opens us :=
  List.countP_append

theorem opens_cons_of_inner {t : Token} (h : Yard.isInner t = true) (ts : List Token) :
    opens (t :: ts) = opens ts :=
  List.countP_cons_of_neg (by simp [h])

theorem opens_cons_opening {t : Token} (h : t.kind = .openParen) (ts : List Token) :
    opens (t :: ts) = opens ts + 1 :=
  List.countP_cons_of_pos (by simp [Yard.isInner, h])

theorem opens_of_inner {ts : List Token} (h : ∀ t ∈ ts, Yard.isInner t = true) : opens ts = 0 := by
  refine List.countP_eq_zero.mpr ?_
  intro t ht
  rw [h t ht]
  exact Bool.false_ne_true

/-- the parentheses held back are those that are open -/
theorem depthAfter_step {y y' : Yard} {t : Token} (h : y.step t = .ok y') :
    depthAfter (opens y.held) t = some (opens y'.held) := by
  rcases Yard.step_cases h with ⟨ht, rfl⟩ | ⟨ht, hc, ops, held, hheld, hops, rfl⟩ |
    ⟨ht, ops, opening, fs, held, hheld, ho, hops, rfl⟩
  · cases hk : t.kind with
    | number | constant => simp [depthAfter, hk]
    | operator | function | openParen | closeParen =>
      rw [hk] at ht
      cases ht
  · rw [hheld, opens_append, opens_of_inner hops, Nat.zero_add]
    cases hk : t.kind with
    | openParen => simp [depthAfter, hk, opens_cons_opening hk]
    | operator | function | number | constant =>
      rw [opens_cons_of_inner (by simp [Yard.isInner, hk])]
      simp [depthAfter, hk]
    | closeParen => exact absurd hk hc
  · rw [hheld, opens_append, opens_cons_opening ho, opens_append,
      opens_of_inner fun u hu => hops u (List.mem_append_left _ hu),
      opens_of_inner fun u hu => hops u (List.mem_append_right _ hu)]
    simp [depthAfter, ht]

/-- what the conversion keeps of the tokens `ts` that it has read -/
structure Kept (ts : List Token) (y : Yard) : Prop where
  depth : ts.foldlM depthAfter 0 = some (opens y.held)
  valueless : values y.held = []
  order : values y.output.reverse = values ts
  tokens : (withoutParens (y.output ++ y.held)).Perm (withoutParens ts)

theorem Kept.step {ts : List Token} {y y' : Yard} {t : Token} (h : Kept ts y)
    (hstep : y.step t = .ok y') : Kept (ts ++ [t]) y' := by
  have hdepth : (ts ++ [t]).foldlM depthAfter 0 = some (opens y'.held) := by
    rw [List.foldlM_append, h.depth]
    show [t].foldlM depthAfter (opens y.held) = _
    rw [List.foldlM_cons, depthAfter_step hstep]
    rfl
  have htokens : (withoutParens (y.output ++ y.held ++ [t])).Perm (withoutParens (ts ++ [t])) := by
    rw [withoutParens_append, withoutParens_append ts]
    exact h.tokens.append_right _
  have hnone := h.valueless
  rcases Yard.step_cases hstep with ⟨ht, rfl⟩ | ⟨ht, hc, ops, held, hheld, hops, rfl⟩ |
    ⟨ht, ops, opening, fs, held, hheld, ho, hops, rfl⟩
  · refine ⟨hdepth, hnone, ?_, .trans (List.Perm.filter _ ?_) htokens⟩
    · rw [List.reverse_cons, values_append, values_append, h.order]
    · exact (List.perm_append_singleton t (y.output ++ y.held)).symm
  · rw [hheld, values_append, List.append_eq_nil_iff] at hnone
    refine ⟨hdepth, ?_, ?_, .trans (List.Perm.filter _ ?_) htokens⟩
    · rw [values_cons_of_not ht]
      exact hnone.2
    · rw [List.reverse_append, List.reverse_reverse, values_append, values_append, h.order,
        hnone.1, values_cons_of_not ht]
      rfl
    · rw [hheld, List.perm_iff_count]
      intro u
      simp only [List.count_append, List.count_cons, List.count_nil, List.count_reverse]
      omega
  · rw [hheld, values_append, values_cons_of_not (by rw [ho]; rfl), values_append,
      List.append_eq_nil_iff, List.append_eq_nil_iff] at hnone
    obtain ⟨hops', hfs, hheld'⟩ := hnone
    refine ⟨hdepth, hheld', ?_, .trans ?_ htokens⟩
    · rw [List.reverse_append, List.reverse_reverse, values_append, values_append, values_append,
        h.order, hops', hfs, values_cons_of_not (by rw [ht]; rfl)]
      rfl
    · rw [hheld]
      simp only [withoutParens_append, withoutParens_cons_of_paren (.inl ho),
        withoutParens_cons_of_paren (.inr ht)]
      rw [List.perm_iff_count]
      intro u
      simp only [withoutParens, List.filter_reverse, List.filter_append, List.filter_nil,
        List.count_append, List.count_nil, List.count_reverse]
      omega

theorem Kept.foldlM {us : List Token} : ∀ {ts : List Token} {y y' : Yard}, Kept ts y →
    us.foldlM Yard.step y = .ok y' → Kept (ts ++ us) y' := by
  induction us with
  | nil =>
    intro ts y y' h hus
    cases hus
    rw [List.append_nil]
    exact h
  | cons u us ih =>
    intro ts y y' h hus
    rw [List.foldlM_cons] at hus
    cases hstep : y.step u with
    | error f =>
      rw [hstep] at hus
      cases hus
    | ok y₁ =>
      rw [hstep] at hus
      have hkept := ih (h.step hstep) hus
      rw [List.append_assoc] at hkept
      exact hkept

/-- What converts has matching parentheses; its conversion has its values in their order, and its
tokens but for parentheses. -/
theorem kept_of_ofInfix {ts us : List Token} (h : ofInfix ts = .ok us) :
    isBalanced ts = true ∧ values us = values ts ∧ (withoutParens us).Perm (withoutParens ts) := by
  unfold ofInfix at h
  split at h
  case h_2 => cases h
  rename_i y hy
  have hfresh : Kept [] {} := ⟨rfl, rfl, rfl, .refl _⟩
  have hkept : Kept ts y := hfresh.foldlM hy
  unfold Yard.finish at h
  split at h
  case isFalse => cases h
  rename_i hinner
  rw [List.all_eq_true] at hinner
  obtain ⟨ops, held, hheld, -, hhead, hrelease⟩ := Yard.release_cases (fun _ => true) y
  have hnil : held = [] := by
    cases held with
    | nil => rfl
    | cons t held => exact absurd (hhead t rfl).symm Bool.false_ne_true
  rw [hrelease] at h
  cases h
  rw [hnil, List.append_nil] at hheld
  have htokens : (ops.reverse ++ y.output).reverse.Perm (y.output ++ y.held) := by
    rw [hheld, List.reverse_append, List.reverse_reverse]
    exact (List.reverse_perm _).append_right _
  refine ⟨?_, ?_, .trans (htokens.filter _) hkept.tokens⟩
  · rw [isBalanced, hkept.depth, opens_of_inner hinner]
    rfl
  · rw [List.reverse_append, List.reverse_reverse, values_append, hkept.order, ← hheld,
      hkept.valueless, List.append_nil]

end Rpn

/-! ## What has a value -/

/-- a token whose value or text is what its kind calls for -/
structure Token.Legible (t : Token) : Prop where
  value : t.kind.isValue = true → t.value.isSome = true
  operator : t.kind = .operator → (Operator.ofText? t.text).isSome = true
  function : t.kind = .function → (Trig.ofText? t.text).isSome = true

namespace Rpn
open Infix Expression

/-- a stack of values is that of the tokens read so far: trees in postorder -/
inductive Stacked (lib : TrigLibrary) : List Token → List (Option Float) → Prop
  | nil : Stacked lib [] []
  | push {ts : List Token} {stack : List (Option Float)} {e : Tree} {x : Float} :
      Stacked lib ts stack → e.eval lib = .ok x →
      Stacked lib (ts ++ e.postorder) (some x :: stack)

variable {lib : TrigLibrary}

/-- a token that can be read ends the run with a fault or leaves a stack of trees -/
theorem Stacked.step {ts : List Token} {stack : List (Option Float)} {t : Token}
    (h : Stacked lib ts stack) (ht : t.Legible) :
    (∃ f, step lib stack t = .error (.fault f)) ∨
      ∃ stack', step lib stack t = .ok stack' ∧ Stacked lib (ts ++ [t]) stack' := by
  cases hk : t.kind with
  | number | constant =>
    have hvalue : t.kind.isValue = true := by
      rw [hk]
      rfl
    obtain ⟨x, hx⟩ := Option.isSome_iff_exists.mp (ht.value hvalue)
    refine .inr ⟨some x :: stack, ?_, ?_⟩
    · simp [Rpn.step, hk, hx]
    · exact h.push (e := .leaf ⟨t, x, hvalue, hx⟩) rfl
  | operator =>
    obtain ⟨op, hop⟩ := Option.isSome_iff_exists.mp (ht.operator hk)
    cases h with
    | nil => exact .inl ⟨.notEnoughOperands t.text, by simp [Rpn.step, hk]⟩
    | @push ts stack r b h hb =>
      cases h with
      | nil => exact .inl ⟨.notEnoughOperands t.text, by simp [Rpn.step, hk]⟩
      | @push ts stack l a h ha =>
        have hstep : Rpn.step lib (some b :: some a :: stack) t =
            ((op.compute t.text a b).mapError RunError.fault).map fun x => some x :: stack := by
          simp only [Rpn.step, hk, runOperator, hop]
        rw [hstep]
        cases hx : op.compute t.text a b with
        | error f => exact .inl ⟨f, rfl⟩
        | ok x =>
          refine .inr ⟨some x :: stack, rfl, ?_⟩
          have hpush := h.push (e := .binary ⟨t, op, hk, hop⟩ l r) (x := x) (by
            rw [Tree.eval, ha, hb]
            exact hx)
          rw [Tree.postorder] at hpush
          simpa using hpush
  | function =>
    obtain ⟨f, hf⟩ := Option.isSome_iff_exists.mp (ht.function hk)
    cases h with
    | nil => exact .inl ⟨.missingOperand t.text, by simp [Rpn.step, hk]⟩
    | @push ts stack e a h ha =>
      have hstep : Rpn.step lib (some a :: stack) t =
          ((f.compute lib t.text a none).mapError RunError.fault).map fun x => some x :: stack := by
        simp only [Rpn.step, hk, runFunction, hf]
      rw [hstep]
      cases hx : f.compute lib t.text a none with
      | error g => exact .inl ⟨g, rfl⟩
      | ok x =>
        refine .inr ⟨some x :: stack, rfl, ?_⟩
        have hpush := h.push (e := .apply ⟨t, f, hk, hf⟩ e) (x := x) (by
          rw [Tree.eval, ha]
          exact hx)
        rw [Tree.postorder] at hpush
        simpa using hpush
  | openParen | closeParen => exact .inl ⟨.unexpected t.text, by simp [Rpn.step, hk]⟩

theorem Stacked.foldlM {us : List Token} : ∀ {ts : List Token} {stack : List (Option Float)},
    Stacked lib ts stack → (∀ t ∈ us, t.Legible) →
    (∃ f, us.foldlM (Rpn.step lib) stack = .error (.fault f)) ∨
      ∃ stack', us.foldlM (Rpn.step lib) stack = .ok stack' ∧ Stacked lib (ts ++ us) stack' := by
  induction us with
  | nil =>
    intro ts stack h _
    rw [List.append_nil]
    exact .inr ⟨stack, rfl, h⟩
  | cons u us ih =>
    intro ts stack h hus
    obtain ⟨hu, hus⟩ := List.forall_mem_cons.mp hus
    rw [List.foldlM_cons]
    rcases h.step hu with ⟨f, hf⟩ | ⟨stack', hok, h'⟩
    · rw [hf]
      exact .inl ⟨f, rfl⟩
    · rw [hok]
      have hrest := ih h' hus
      rw [List.append_assoc] at hrest
      exact hrest

/-- A list of tokens that can be read has no value, and a fault tells why, or it is a tree in
postorder and has its value. -/
theorem run_cases (lib : TrigLibrary) {us : List Token} (h : ∀ t ∈ us, t.Legible) :
    (∃ f, run lib us = .error (.fault f)) ∨
      ∃ (e : Tree) (x : Float),
        us = e.postorder ∧ e.eval lib = .ok x ∧ run lib us = .ok (some x) := by
  have hempty : Stacked lib [] [] := .nil
  unfold run
  rcases hempty.foldlM h with ⟨f, hf⟩ | ⟨stack, hok, hstack⟩
  · rw [hf]
    exact .inl ⟨f, rfl⟩
  rw [hok]
  rw [List.nil_append] at hstack
  cases hstack with
  | nil => exact .inl ⟨_, rfl⟩
  | @push ts stack e x hrest he =>
    cases hrest with
    | nil => exact .inr ⟨e, x, rfl, he, rfl⟩
    | push => exact .inl ⟨_, rfl⟩

end Rpn

/-! ## The tokens of a text -/

namespace Text

/-- the characters of a class -/
def Ranges.chars (rs : Ranges) : Text :=
  rs.flatMap fun r => (List.range' r.1 (r.2 + 1 - r.1)).map Char.ofNat

theorem Ranges.mem_chars {rs : Ranges} {c : Char} (h : rs.has c = true) : c ∈ rs.chars := by
  obtain ⟨r, hr, hc⟩ := List.any_eq_true.mp h
  simp only [Bool.and_eq_true, decide_eq_true_eq] at hc
  refine List.mem_flatMap.mpr ⟨r, hr, List.mem_map.mpr ⟨c.toNat, ?_, Char.ofNat_toNat c⟩⟩
  rw [List.mem_range'_1]
  omega

/-- a blank begins neither a numeral nor a word, and is neither sign nor parenthesis -/
theorem isBlank_separates {c : Char} (h : isBlank c = true) :
    (isDigit c || isSeparator c) = false ∧ Operator.isSign c = false ∧ isLetter c = false ∧
      c ≠ '(' ∧ c ≠ ')' := by
  have hblanks : ∀ c ∈ Ranges.chars ((0x1C, 0x1F) :: spaceRanges),
      (isDigit c || isSeparator c) = false ∧ Operator.isSign c = false ∧ isLetter c = false ∧
        c ≠ '(' ∧ c ≠ ')' := by decide +kernel
  apply hblanks
  apply Ranges.mem_chars
  rw [isBlank, isSpace, Bool.or_comm] at h
  exact h

end Text

namespace Token

/-- the one sign of a lexeme of signs is an operator -/
theorem isSome_of_front? {c : Char} {r : Text} {l : Lexeme} (h : Lexeme.front? c r = some l)
    (hl : l.cls = .sign) : (Operator.ofText? l.text).isSome = true := by
  unfold Lexeme.front? at h
  split at h
  · cases h
    cases hl
  split at h
  · rename_i hsign
    cases h
    exact hsign
  repeat' split at h
  all_goals cases h
  all_goals cases hl

theorem legible_of_token {l : Lexeme} {t : Token} (h : l.token = .ok (some t))
    (hsign : l.cls = .sign → (Operator.ofText? l.text).isSome = true) : t.Legible := by
  unfold Lexeme.token at h
  cases hcls : l.cls with
  | number =>
    simp only [hcls] at h
    split at h
    · cases h
      exact ⟨fun _ => rfl, nofun, nofun⟩
    · cases h
  | sign =>
    simp only [hcls] at h
    cases h
    exact ⟨nofun, fun _ => hsign hcls, nofun⟩
  | opening | closing =>
    simp only [hcls] at h
    cases h
    exact ⟨nofun, nofun, nofun⟩
  | space =>
    simp only [hcls] at h
    cases h
  | word =>
    simp only [hcls] at h
    split at h
    · cases h
      exact ⟨fun _ => rfl, nofun, nofun⟩
    split at h
    · rename_i f hf
      cases h
      exact ⟨nofun, nofun, fun _ => by rw [hf]; rfl⟩
    · cases h

/-- the tokens in front of the first fault of a text can be read -/
theorem legible_of_mem_scan (t : Text) : ∀ u ∈ (scan t).1, u.Legible := by
  fun_induction scan t with
  | case1 => simp
  | case2 => simp
  | case3 => simp
  | case4 c r l hl ht ih => exact ih
  | case5 c r l hl t ht rest ih =>
    intro u hu
    rcases List.mem_cons.mp hu with rfl | hu
    · exact legible_of_token ht (isSome_of_front? hl)
    · exact ih u hu

theorem legible_of_ofText {t : Text} {ts : List Token} (h : ofText t = .ok ts) :
    ∀ u ∈ ts, u.Legible := by
  have hscan := legible_of_mem_scan t
  unfold ofText at h
  split at h
  · rename_i hts
    cases h
    rw [hts] at hscan
    exact hscan
  · cases h

/-- a lexeme that begins with a blank has no token -/
theorem token_ne_some_of_isBlank {c : Char} {r : Text} {l : Lexeme} {t : Token}
    (hc : Text.isBlank c = true) (hl : Lexeme.front? c r = some l) : l.token ≠ .ok (some t) := by
  obtain ⟨hnumber, hsign, hletter, hopening, hclosing⟩ := Text.isBlank_separates hc
  simp only [Lexeme.front?, hnumber, hsign, hletter, hopening, hclosing, if_false,
    Bool.false_eq_true] at hl
  split at hl
  · cases hl
    exact nofun
  · cases hl

theorem scan_of_isBlankText (t : Text) : t.isBlankText = true → (scan t).1 = [] := by
  fun_induction scan t with
  | case1 => exact fun _ => rfl
  | case2 => exact fun _ => rfl
  | case3 => exact fun _ => rfl
  | case4 c r l hl ht ih =>
    intro hblank
    apply ih
    rw [Text.isBlankText, List.all_eq_true] at hblank ⊢
    exact fun d hd => hblank d (List.mem_of_mem_drop hd)
  | case5 c r l hl t ht rest ih =>
    intro hblank
    rw [Text.isBlankText, List.all_eq_true] at hblank
    exact absurd ht (token_ne_some_of_isBlank (hblank c List.mem_cons_self) hl)

/-- a text with tokens is not blank -/
theorem isBlankText_of_ofText {t : Text} {ts : List Token} (h : ofText t = .ok ts)
    (hts : ts ≠ []) : t.isBlankText = false := by
  rw [Bool.eq_false_iff]
  intro hblank
  have hscan := scan_of_isBlankText t hblank
  unfold ofText at h
  split at h
  · rename_i ts' hts'
    cases h
    rw [hts'] at hscan
    exact hts hscan
  · cases h

theorem legible_of_paren {t : Token} (h : t.kind = .openParen ∨ t.kind = .closeParen) :
    t.Legible := by
  rcases h with h | h
  all_goals
    refine ⟨?_, ?_, ?_⟩ <;> rw [h] <;> exact nofun

end Token

/-! ## Main result -/

namespace Expression
open Infix

theorem exists_of_rpn {t : Text} {us : List Token} (h : rpn t = .ok us) :
    ∃ ts, Token.ofText t = .ok ts ∧ Rpn.ofInfix ts = .ok us := by
  unfold rpn at h
  split at h
  · cases h
  split at h
  · rename_i ts hts
    exact ⟨ts, hts, h⟩
  · cases h

/-- the tokens of a conversion are among those converted -/
theorem legible_of_ofInfix {ts us : List Token} (h : Rpn.ofInfix ts = .ok us)
    (hts : ∀ t ∈ ts, t.Legible) : ∀ t ∈ us, t.Legible := by
  obtain ⟨-, -, htokens⟩ := Rpn.kept_of_ofInfix h
  intro t ht
  by_cases hparen : t.kind = .openParen ∨ t.kind = .closeParen
  · exact Token.legible_of_paren hparen
  · have hmem : t ∈ withoutParens us := List.mem_filter.mpr ⟨ht, by simpa using hparen⟩
    exact hts t (List.mem_filter.mp (htokens.subset hmem)).1

theorem eq_ok_of_toOption {ε α : Type} {r : Except ε α} {a : α} (h : r.toOption = some a) :
    r = .ok a := by
  cases r with
  | error e => cases h
  | ok b =>
    cases h
    rfl

/-- a text whose tokens are a written tree is evaluated as that tree -/
theorem evaluate_of_renders (lib : TrigLibrary) {t : Text} {ts : List Token} {e : Tree}
    (hts : Token.ofText t = .ok ts) (h : Renders 0 e ts) :
    evaluate lib t = ((e.eval lib).mapError RunError.fault).map some := by
  have hne : ts ≠ [] := by
    rintro rfl
    obtain ⟨u, hu, -⟩ := h.isExpression.getLast?
    cases hu
  have hrpn : rpn t = .ok e.postorder := by
    rw [rpn, Token.isBlankText_of_ofText hts hne, hts]
    exact Rpn.ofInfix_of_renders h
  rw [evaluate, hrpn]
  exact Rpn.run_postorder lib e

/-- a text has no value, and a fault tells why, or it has that of an expression with its tokens -/
theorem evaluate_cases (lib : TrigLibrary) (t : Text) :
    (∃ f, evaluate lib t = .error (.fault f)) ∨
      ∃ (ts us : List Token) (e : Tree) (x : Float),
        Token.ofText t = .ok ts ∧ isBalanced ts = true ∧
        IsExpression us ∧ Rpn.ofInfix us = Rpn.ofInfix ts ∧
        values us = values ts ∧ (withoutParens us).Perm (withoutParens ts) ∧
        Renders 0 e us ∧ e.eval lib = .ok x ∧ evaluate lib t = .ok (some x) := by
  cases hrpn : rpn t with
  | error f => exact .inl ⟨f, by rw [evaluate, hrpn]⟩
  | ok ws =>
    have hrun : evaluate lib t = Rpn.run lib ws := by rw [evaluate, hrpn]
    obtain ⟨ts, hts, hconvert⟩ := exists_of_rpn hrpn
    have hlegible := legible_of_ofInfix hconvert (Token.legible_of_ofText hts)
    rcases Rpn.run_cases lib hlegible with ⟨f, hf⟩ | ⟨e, x, rfl, heval, hok⟩
    · exact .inl ⟨f, hrun.trans hf⟩
    have he : Renders 0 e e.enclosed := e.renders_enclosed 0
    have hconvert' := Rpn.ofInfix_of_renders he
    obtain ⟨hbalanced, hvalues, htokens⟩ := Rpn.kept_of_ofInfix hconvert
    obtain ⟨-, hvalues', htokens'⟩ := Rpn.kept_of_ofInfix hconvert'
    exact .inr ⟨ts, e.enclosed, e, x, hts, hbalanced, he.isExpression,
      hconvert'.trans hconvert.symm, hvalues'.symm.trans hvalues, htokens'.symm.trans htokens, he,
      heval, hrun.trans hok⟩

/-- a text has a value, or a fault tells why not -/
theorem value_or_fault (lib : TrigLibrary) (t : Text) :
    (∃ x, evaluate lib t = .ok (some x)) ∨ ∃ f, evaluate lib t = .error (.fault f) := by
  rcases evaluate_cases lib t with hf | ⟨-, -, -, x, -, -, -, -, -, -, -, -, hx⟩
  · exact .inr hf
  · exact .inl ⟨x, hx⟩

/-- **What has a value has that of an expression**: a text whose tokens are an infix expression has
the value of that expression, read by precedence, or its first fault.  Any text has no value, and a
fault tells why, or its parentheses match and its tokens are converted as those of an infix
expression are, with the same numbers and constants in the same order and the same operators and
functions, and it has the value of that expression. -/
theorem evaluate_as_expression (lib : TrigLibrary) (t : Text) :
    (∀ ts, Token.ofText t = .ok ts → IsExpression ts →
      ∃ e, Renders 0 e ts ∧ evaluate lib t = ((e.eval lib).mapError RunError.fault).map some) ∧
    ((∃ f, evaluate lib t = .error (.fault f)) ∨
      ∃ (ts us : List Token) (e : Tree) (x : Float),
        Token.ofText t = .ok ts ∧ isBalanced ts = true ∧
        IsExpression us ∧ Rpn.ofInfix us = Rpn.ofInfix ts ∧
        values us = values ts ∧ (withoutParens us).Perm (withoutParens ts) ∧
        Renders 0 e us ∧ e.eval lib = .ok x ∧ evaluate lib t = .ok (some x)) := by
  refine ⟨?_, evaluate_cases lib t⟩
  intro ts hts h
  obtain ⟨e, he⟩ := isExpression_iff.mp h
  exact ⟨e, he, evaluate_of_renders lib hts he⟩

/-- `1+2×3` is an expression, and its value is seven -/
theorem evaluate_as_expression_sum :
    ∃ ts, Token.ofText "1+2×3".toList = .ok ts ∧ IsExpression ts ∧
      (∃ e, Renders 0 e ts ∧ evaluate .native "1+2×3".toList =
        ((e.eval .native).mapError RunError.fault).map some) ∧
      evaluate .native "1+2×3".toList = .ok (some 7) := by
  have hts : Token.ofText "1+2×3".toList =
      .ok [⟨.number, ['1'], some 1⟩, ⟨.operator, ['+'], none⟩, ⟨.number, ['2'], some 2⟩,
        ⟨.operator, ['×'], none⟩, ⟨.number, ['3'], some 3⟩] :=
    eq_ok_of_toOption (by decide +kernel)
  have hexpression : IsExpression
      [⟨.number, ['1'], some 1⟩, ⟨.operator, ['+'], none⟩, ⟨.number, ['2'], some 2⟩,
        ⟨.operator, ['×'], none⟩, ⟨.number, ['3'], some 3⟩] :=
    .binary (.ofSymbol .add) (.value (.number ['1'] 1))
      (.binary (.ofSymbol .multiply) (.value (.number ['2'] 2)) (.value (.number ['3'] 3)))
  refine ⟨_, hts, hexpression, ?_, eq_ok_of_toOption (by decide +kernel)⟩
  exact (evaluate_as_expression .native "1+2×3".toList).1 _ hts hexpression

/-- `1 2 +` has the value of `1 + 2`, but it is no expression: it ends in an operator. -/
theorem evaluate_postfix :
    ∃ ts, Token.ofText "1 2 +".toList = .ok ts ∧ ¬ IsExpression ts ∧
      evaluate .native "1 2 +".toList = .ok (some 3) := by
  have hts : Token.ofText "1 2 +".toList =
      .ok [⟨.number, ['1'], some 1⟩, ⟨.number, ['2'], some 2⟩, ⟨.operator, ['+'], none⟩] :=
    eq_ok_of_toOption (by decide +kernel)
  refine ⟨_, hts, fun h => ?_, eq_ok_of_toOption (by decide +kernel)⟩
  obtain ⟨t, ht, hkind⟩ := h.getLast?
  cases ht
  rcases hkind with hkind | hkind <;> cases hkind

end Expression
end PocketCalc
