import PocketCalc.Expression.Evaluate

/-!
# Infix expressions as trees

A token list in infix order stands for a tree.  Its conversion is the tree in postorder, and the run
of that list is the value of the tree, whatever parentheses the list has beyond those it needs.

* `Infix.Tree`             numbers and constants, binary operators, applied functions;
* `Tree.postorder`         the tokens of a tree, operators and functions behind their operands;
* `Tree.eval`              its value, the left operand before the right one;
* `Renders p e ts`         `ts` is a way to write `e` next to an operator that leaves to `e` only
                           operators of precedence `p` or more;
* `Tree.enclosed`          one such way: every operation in parentheses;
* `ofInfix_of_renders`     the conversion of any of them;
* `run_postorder`          the run of the converted list;
* `ofInfix_run_of_renders` both together.
-/

namespace PocketCalc

/-! ## Trees -/

namespace Infix

/-- a token that stands for a number -/
structure ValueToken where
  token : Token
  value : Float
  isValue : token.kind.isValue = true
  carries : token.value = some value

/-- a token for a binary operator, in any of its spellings -/
structure OperatorToken where
  token : Token
  op : Operator
  isOperator : token.kind = .operator
  reads : Operator.ofText? token.text = some op

/-- a token for a function, in any of its spellings -/
structure FunctionToken where
  token : Token
  fn : Trig
  isFunction : token.kind = .function
  reads : Trig.ofText? token.text = some fn

/-- an expression -/
inductive Tree
  | leaf (v : ValueToken)
  | binary (op : OperatorToken) (left right : Tree)
  | apply (f : FunctionToken) (argument : Tree)

def ValueToken.number (t : Text) (x : Float) : ValueToken := ⟨⟨.number, t, some x⟩, x, rfl, rfl⟩

def ValueToken.constant (t : Text) (c : Constant) : ValueToken :=
  ⟨⟨.constant, t, some c.value⟩, c.value, rfl, rfl⟩

def OperatorToken.ofText {t : Text} {op : Operator} (h : Operator.ofText? t = some op) :
    OperatorToken :=
  ⟨⟨.operator, t, none⟩, op, rfl, h⟩

def OperatorToken.ofSymbol (op : Operator) : OperatorToken :=
  ⟨⟨.operator, [op.symbol], none⟩, op, rfl, op.ofChar?_symbol⟩

def FunctionToken.ofText {t : Text} {f : Trig} (h : Trig.ofText? t = some f) : FunctionToken :=
  ⟨⟨.function, t, none⟩, f, rfl, h⟩

namespace Tree

/-- the tokens with operators and functions behind their operands -/
def postorder : Tree → List Token
  | leaf v => [v.token]
  | binary op l r => l.postorder ++ (r.postorder ++ [op.token])
  | apply f x => x.postorder ++ [f.token]

/-- the value, or the first fault on the way to it -/
def eval (lib : TrigLibrary) : Tree → Except Fault Float
  | leaf v => .ok v.value
  | binary op l r => do
    let a ← l.eval lib
    let b ← r.eval lib
    op.op.compute op.token.text a b
  | apply f x => do
    let a ← x.eval lib
    f.fn.compute lib f.token.text a none

end Tree

/-! ## Written trees -/

/-- the ways to write a tree where an operator of a precedence below `p` needs parentheses -/
inductive Renders : Nat → Tree → List Token → Prop
  | leaf {p : Nat} (v : ValueToken) : Renders p (.leaf v) [v.token]
  | binary {p : Nat} {op : OperatorToken} {l r : Tree} {ls rs : List Token} :
      p ≤ op.op.precedence → Renders op.op.precedence l ls → Renders (op.op.precedence + 1) r rs →
      Renders p (.binary op l r) (ls ++ op.token :: rs)
  | apply {p : Nat} (f : FunctionToken) {x : Tree} {xs : List Token} {opening closing : Token} :
      opening.kind = .openParen → closing.kind = .closeParen → Renders 0 x xs →
      Renders p (.apply f x) (f.token :: opening :: (xs ++ [closing]))
  | paren {p : Nat} {e : Tree} {ts : List Token} {opening closing : Token} :
      opening.kind = .openParen → closing.kind = .closeParen → Renders 0 e ts →
      Renders p e (opening :: (ts ++ [closing]))

def opening : Token := ⟨.openParen, ['('], none⟩

def closing : Token := ⟨.closeParen, [')'], none⟩

namespace Tree

/-- the tree written with every operation in parentheses -/
def enclosed : Tree → List Token
  | leaf v => [v.token]
  | binary op l r => opening :: (l.enclosed ++ op.token :: r.enclosed ++ [closing])
  | apply f x => f.token :: opening :: (x.enclosed ++ [closing])

theorem renders_enclosed (e : Tree) : ∀ p, Renders p e e.enclosed := by
  induction e with
  | leaf v => exact fun p => .leaf v
  | binary op l r ihl ihr =>
    intro p
    exact .paren rfl rfl (.binary (Nat.zero_le _) (ihl _) (ihr _))
  | apply f x ih =>
    intro p
    exact .apply f rfl rfl (ih 0)

end Tree
end Infix

/-! ## Holding tokens back -/

namespace Yard
open Infix

theorem kind_of_bindsAtLeast {p : Nat} {t : Token} (h : bindsAtLeast p t = true) :
    t.kind = .operator := by
  simp only [bindsAtLeast, Bool.and_eq_true, decide_eq_true_eq] at h
  exact h.1

theorem bindsAtLeast_token (p : Nat) (op : OperatorToken) :
    bindsAtLeast p op.token = decide (p ≤ op.op.precedence) := by
  simp [bindsAtLeast, op.isOperator, op.reads]

/-- what binds as tightly as `q` asks for does so for any smaller precedence -/
theorem bindsAtLeast_mono {p q : Nat} (hpq : p ≤ q) {t : Token} (h : bindsAtLeast q t = true) :
    bindsAtLeast p t = true := by
  simp only [bindsAtLeast, Bool.and_eq_true, Option.any_eq_true, decide_eq_true_eq] at h ⊢
  obtain ⟨hk, op, hop, hq⟩ := h
  exact ⟨hk, op, hop, Nat.le_trans hpq hq⟩

/-- An operand of precedence `p` can follow the tokens held back: it takes neither an operator from
them nor a function, whose parenthesis is still to come. -/
def Admits (p : Nat) (held : List Token) : Prop :=
  ∀ t ∈ held.head?, t.kind ≠ .function ∧ bindsAtLeast p t = false

theorem Admits.mono {p q : Nat} (hpq : p ≤ q) {held : List Token} (h : Admits p held) :
    Admits q held := by
  intro t ht
  refine ⟨(h t ht).1, ?_⟩
  rw [Bool.eq_false_iff]
  intro hq
  have hp := bindsAtLeast_mono hpq hq
  rw [(h t ht).2] at hp
  exact Bool.false_ne_true hp

theorem admits_cons_opening {t : Token} (h : t.kind = .openParen) (p : Nat) (held : List Token) :
    Admits p (t :: held) := by
  intro u hu
  cases hu
  simp [h, bindsAtLeast]

theorem admits_cons_operator (op : OperatorToken) (held : List Token) :
    Admits (op.op.precedence + 1) (op.token :: held) := by
  intro u hu
  cases hu
  exact ⟨by simp [op.isOperator], by simp [bindsAtLeast_token]⟩

/-- of the tokens held back exactly those in front that `q` holds of are put out -/
theorem release_append (q : Token → Bool) {ops held o : List Token} (hops : ∀ t ∈ ops, q t = true)
    (hheld : ∀ t ∈ held.head?, q t = false) :
    release q ⟨o, ops ++ held⟩ = ⟨ops.reverse ++ o, held⟩ := by
  have ht : held.takeWhile q = [] := by
    cases held with
    | nil => rfl
    | cons t held => simp [hheld t rfl]
  have hd : held.dropWhile q = held := by
    cases held with
    | nil => rfl
    | cons t held => simp [hheld t rfl]
  simp only [release]
  rw [List.takeWhile_append_of_pos hops, List.dropWhile_append_of_pos hops, ht, hd,
    List.append_nil]

theorem isInner_of_bindsAtLeast {p : Nat} {t : Token} (h : bindsAtLeast p t = true) :
    isInner t = true := by
  simp [isInner, kind_of_bindsAtLeast h]

/-! ## One token -/

theorem step_value (v : ValueToken) (y : Yard) :
    step y v.token = .ok ⟨v.token :: y.output, y.held⟩ := by
  have h := v.isValue
  unfold step
  split <;> simp_all [TokenKind.isValue]

theorem step_opening {t : Token} (h : t.kind = .openParen) (y : Yard) :
    step y t = .ok ⟨y.output, t :: y.held⟩ := by
  simp [step, h]

theorem step_function (f : FunctionToken) (y : Yard) :
    step y f.token = .ok ⟨y.output, f.token :: y.held⟩ := by
  simp [step, f.isFunction]

/-- an operator puts out the operators of its left operand that are still held back -/
theorem step_operator (op : OperatorToken) {ops held o : List Token}
    (hops : ∀ t ∈ ops, bindsAtLeast op.op.precedence t = true)
    (hheld : Admits op.op.precedence held) :
    step ⟨o, ops ++ held⟩ op.token = .ok ⟨ops.reverse ++ o, op.token :: held⟩ := by
  simp only [step, op.isOperator, Operator.find, op.reads]
  rw [release_append _ hops fun t ht => (hheld t ht).2]

/-- A closing parenthesis puts out the operators back to its partner, and a function in front of
that. -/
theorem step_closing {opening closing : Token} (ho : opening.kind = .openParen)
    (hc : closing.kind = .closeParen) {ops held o : List Token}
    (hops : ∀ t ∈ ops, bindsAtLeast 0 t = true) :
    step ⟨o, ops ++ opening :: held⟩ closing =
      match held with
      | f :: held' =>
        if f.kind = .function then .ok ⟨f :: (ops.reverse ++ o), held'⟩
        else .ok ⟨ops.reverse ++ o, held⟩
      | [] => .ok ⟨ops.reverse ++ o, []⟩ := by
  have hr : release isInner ⟨o, ops ++ opening :: held⟩ = ⟨ops.reverse ++ o, opening :: held⟩ := by
    refine release_append _ (fun t ht => isInner_of_bindsAtLeast (hops t ht)) ?_
    intro t ht
    cases ht
    simp [isInner, ho]
  simp only [step, hc, hr]
  cases held with
  | nil => rfl
  | cons f held => rfl

theorem step_closing_paren {opening closing : Token} (ho : opening.kind = .openParen)
    (hc : closing.kind = .closeParen) {p : Nat} {ops held o : List Token}
    (hops : ∀ t ∈ ops, bindsAtLeast 0 t = true) (hheld : Admits p held) :
    step ⟨o, ops ++ opening :: held⟩ closing = .ok ⟨ops.reverse ++ o, held⟩ := by
  rw [step_closing ho hc hops]
  cases held with
  | nil => rfl
  | cons t held => exact if_neg (hheld t rfl).1

/-! ## One tree -/

/-- Over a written tree the yard puts out the tree in postorder, but for some operators that bind as
tightly as the place of the tree asks for: those it still holds back. -/
theorem foldlM_renders {p : Nat} {e : Tree} {ts : List Token} (h : Renders p e ts) :
    ∀ y : Yard, Admits p y.held →
      ∃ ops o, ts.foldlM step y = .ok ⟨o, ops ++ y.held⟩ ∧
        (∀ t ∈ ops, bindsAtLeast p t = true) ∧
        ops.reverse ++ o = e.postorder.reverse ++ y.output := by
  induction h with
  | leaf v =>
    intro y _
    refine ⟨[], v.token :: y.output, ?_, by simp, rfl⟩
    rw [List.foldlM_cons, step_value]
    rfl
  | @binary p op l r ls rs hp _ _ ihl ihr =>
    intro y hy
    have hyl : Admits op.op.precedence y.held := hy.mono hp
    obtain ⟨lops, lo, hl, hlops, hlout⟩ := ihl y hyl
    have hop := step_operator op (o := lo) hlops hyl
    obtain ⟨rops, ro, hr, hrops, hrout⟩ :=
      ihr ⟨lops.reverse ++ lo, op.token :: y.held⟩ (admits_cons_operator op y.held)
    refine ⟨rops ++ [op.token], ro, ?_, ?_, ?_⟩
    · rw [List.foldlM_append, hl]
      show ((op.token :: rs).foldlM step ⟨lo, lops ++ y.held⟩ : Except Fault Yard) = _
      rw [List.foldlM_cons, hop]
      show rs.foldlM step _ = _
      rw [hr, List.append_assoc]
      rfl
    · intro t ht
      rcases List.mem_append.mp ht with ht | ht
      · exact bindsAtLeast_mono (by omega) (hrops t ht)
      · rw [List.mem_singleton.mp ht, bindsAtLeast_token, decide_eq_true hp]
    · rw [List.reverse_append, List.reverse_singleton, List.singleton_append, List.cons_append,
        hrout, hlout]
      simp [Tree.postorder]
  | @apply p f x xs opening closing ho hc _ ih =>
    intro y _
    obtain ⟨ops, o, hx, hops, hout⟩ :=
      ih ⟨y.output, opening :: f.token :: y.held⟩ (admits_cons_opening ho 0 _)
    refine ⟨[], f.token :: (ops.reverse ++ o), ?_, by simp, ?_⟩
    · rw [List.foldlM_cons, step_function]
      show (opening :: (xs ++ [closing])).foldlM step ⟨y.output, f.token :: y.held⟩ = _
      rw [List.foldlM_cons, step_opening ho]
      show (xs ++ [closing]).foldlM step ⟨y.output, opening :: f.token :: y.held⟩ = _
      rw [List.foldlM_append, hx]
      show [closing].foldlM step ⟨o, ops ++ opening :: f.token :: y.held⟩ = _
      rw [List.foldlM_cons, step_closing ho hc hops]
      show ((if f.token.kind = .function then _ else _) >>= _ : Except Fault Yard) = _
      rw [if_pos f.isFunction]
      rfl
    · rw [hout]
      simp [Tree.postorder]
  | @paren p e ts opening closing ho hc _ ih =>
    intro y hy
    obtain ⟨ops, o, hx, hops, hout⟩ :=
      ih ⟨y.output, opening :: y.held⟩ (admits_cons_opening ho 0 _)
    refine ⟨[], ops.reverse ++ o, ?_, by simp, hout⟩
    rw [List.foldlM_cons, step_opening ho]
    show (ts ++ [closing]).foldlM step ⟨y.output, opening :: y.held⟩ = _
    rw [List.foldlM_append, hx]
    show [closing].foldlM step ⟨o, ops ++ opening :: y.held⟩ = _
    rw [List.foldlM_cons, step_closing_paren ho hc hops hy]
    rfl

end Yard

/-! ## Conversion and value -/

namespace Rpn
open Infix

/-- a written tree is converted to its postorder -/
theorem ofInfix_of_renders {e : Tree} {ts : List Token} (h : Renders 0 e ts) :
    ofInfix ts = .ok e.postorder := by
  have hnil : Yard.Admits 0 ([] : List Token) := by
    intro t ht
    cases ht
  obtain ⟨ops, o, hts, hops, hout⟩ := Yard.foldlM_renders h {} hnil
  have hinner : (ops ++ []).all Yard.isInner = true := by
    rw [List.append_nil, List.all_eq_true]
    exact fun t ht => Yard.isInner_of_bindsAtLeast (hops t ht)
  have hrelease : Yard.release (fun _ => true) ⟨o, ops ++ []⟩ = ⟨ops.reverse ++ o, []⟩ :=
    Yard.release_append _ (fun _ _ => rfl) (by simp)
  unfold ofInfix
  rw [hts]
  show Yard.finish ⟨o, ops ++ []⟩ = _
  rw [Yard.finish, if_pos hinner, hrelease, hout]
  simp

/-- the run of a tree in postorder puts its value on the stack, or ends with its first fault -/
theorem foldlM_postorder (lib : TrigLibrary) (e : Tree) : ∀ stack : List (Option Float),
    e.postorder.foldlM (step lib) stack =
      ((e.eval lib).mapError RunError.fault).map fun x => some x :: stack := by
  induction e with
  | leaf v =>
    intro stack
    have hv := v.isValue
    have hstep : step lib stack v.token = .ok (some v.value :: stack) := by
      rw [← v.carries]
      unfold step
      split <;> simp_all [TokenKind.isValue]
    rw [Tree.postorder, List.foldlM_cons, hstep]
    rfl
  | binary op l r ihl ihr =>
    intro stack
    rw [Tree.postorder, List.foldlM_append, ihl, Tree.eval]
    cases hl : l.eval lib with
    | error f => rfl
    | ok a =>
      show (r.postorder ++ [op.token]).foldlM (step lib) (some a :: stack) = _
      rw [List.foldlM_append, ihr]
      cases hr : r.eval lib with
      | error f => rfl
      | ok b =>
        show [op.token].foldlM (step lib) (some b :: some a :: stack) =
          ((op.op.compute op.token.text a b).mapError RunError.fault).map _
        have hstep : step lib (some b :: some a :: stack) op.token =
            ((op.op.compute op.token.text a b).mapError RunError.fault).map
              fun x => some x :: stack := by
          simp only [step, op.isOperator, runOperator, op.reads]
        rw [List.foldlM_cons, hstep]
        cases op.op.compute op.token.text a b <;> rfl
  | apply f x ih =>
    intro stack
    rw [Tree.postorder, List.foldlM_append, ih, Tree.eval]
    cases hx : x.eval lib with
    | error f => rfl
    | ok a =>
      show [f.token].foldlM (step lib) (some a :: stack) =
        ((f.fn.compute lib f.token.text a none).mapError RunError.fault).map _
      have hstep : step lib (some a :: stack) f.token =
          ((f.fn.compute lib f.token.text a none).mapError RunError.fault).map
            fun x => some x :: stack := by
        simp only [step, f.isFunction, runFunction, f.reads]
      rw [List.foldlM_cons, hstep]
      cases f.fn.compute lib f.token.text a none <;> rfl

/-- the run of a tree in postorder is its value -/
theorem run_postorder (lib : TrigLibrary) (e : Tree) :
    run lib e.postorder = ((e.eval lib).mapError RunError.fault).map some := by
  rw [run, foldlM_postorder]
  cases e.eval lib <;> rfl

/-- **Written trees are evaluated as they are read**: whatever parentheses a token list has beyond
those it needs, its conversion is the tree in postorder, and the run of that is the value of the
tree or the first fault on the way to it. -/
theorem ofInfix_run_of_renders (lib : TrigLibrary) {e : Tree} {ts : List Token}
    (h : Renders 0 e ts) :
    ofInfix ts = .ok e.postorder ∧
      (∀ x, e.eval lib = .ok x → run lib e.postorder = .ok (some x)) ∧
      ∀ f, e.eval lib = .error f → run lib e.postorder = .error (.fault f) := by
  refine ⟨ofInfix_of_renders h, ?_, ?_⟩
  · intro x hx
    rw [run_postorder, hx]
    rfl
  · intro f hf
    rw [run_postorder, hf]
    rfl

/-- `8-(1+2)×sin(30)` as a tree -/
def sampleTree : Tree :=
  .binary (.ofSymbol .subtract) (.leaf (.number ['8'] 8))
    (.binary (.ofSymbol .multiply)
      (.binary (.ofSymbol .add) (.leaf (.number ['1'] 1)) (.leaf (.number ['2'] 2)))
      (.apply ⟨⟨.function, "sin".toList, none⟩, .sin, rfl, rfl⟩ (.leaf (.number "30".toList 30))))

/-- the same as tokens, with parentheses around the `30` that it does not need -/
def sampleTokens : List Token :=
  [⟨.number, ['8'], some 8⟩, ⟨.operator, ['-'], none⟩, opening, ⟨.number, ['1'], some 1⟩,
    ⟨.operator, ['+'], none⟩, ⟨.number, ['2'], some 2⟩, closing, ⟨.operator, ['×'], none⟩,
    ⟨.function, "sin".toList, none⟩, opening, opening, ⟨.number, "30".toList, some 30⟩, closing,
    closing]

theorem renders_sample : Renders 0 sampleTree sampleTokens := by
  have hsum := @Renders.binary 0 (.ofSymbol .add) (.leaf (.number ['1'] 1))
    (.leaf (.number ['2'] 2)) _ _ (by decide) (.leaf _) (.leaf _)
  have hsine := @Renders.apply 3 ⟨⟨.function, "sin".toList, none⟩, .sin, rfl, rfl⟩
    (.leaf (.number "30".toList 30)) _ opening closing rfl rfl
    (@Renders.paren 0 _ _ opening closing rfl rfl (.leaf _))
  have hproduct := @Renders.binary 2 (.ofSymbol .multiply) _ _ _ _ (by decide)
    (@Renders.paren 2 _ _ opening closing rfl rfl hsum) hsine
  exact @Renders.binary 0 (.ofSymbol .subtract) (.leaf (.number ['8'] 8)) _ _ _ (by decide)
    (.leaf _) hproduct

theorem ofInfix_run_sample :
    let lib : TrigLibrary := ⟨fun _ => 0.5, fun _ => 0.5, fun _ => 0.5, fun _ => 0.5, fun _ => 0.5,
      fun _ => 0.5⟩
    ofInfix sampleTokens = .ok sampleTree.postorder ∧
      run lib sampleTree.postorder = .ok (some 6.5) := by
  intro lib
  have hvalue : (sampleTree.eval lib).toOption = some 6.5 := by decide +kernel
  obtain ⟨hconvert, hrun, -⟩ := ofInfix_run_of_renders lib renders_sample
  refine ⟨hconvert, ?_⟩
  cases heval : sampleTree.eval lib with
  | ok x =>
    rw [heval] at hvalue
    cases hvalue
    exact hrun _ heval
  | error f =>
    rw [heval] at hvalue
    cases hvalue

end Rpn
end PocketCalc
