import PocketCalc.Proofs.Conversion
import PocketCalc.Proofs.Steps

/-!
# What can break off

The steps from a text to its value come to what they come to as functions.  A text becomes tokens
that carry what their kinds call for, and those in reverse Polish order are among them, so every
look into a table finds something and every value is there; and the arithmetic breaks off at faults
only.

* `tokens_eq`, `convert_eq`    the tokens of a text, and their order;
* `foldlM_eq`                  two runs that keep step with each other;
* `run_eq`                     the run of a token list, faults and other breaks;
* `rpn_eq`, `evaluate_eq`, `validate_eq`   what is done with a text;
* `breaks_at_faults_only`      what a text can come to.
-/

namespace PocketCalc.Expression

namespace Program

variable {α β ε : Type}

/-! ## Tokens -/

theorem isMember_eq (a : Option α) : isMember a = pure a.isSome := by
  cases a <;> rfl

theorem token_eq (l : Lexeme) : token l = known l.token := by
  unfold token Lexeme.token
  cases l.cls with
  | number =>
    simp only [parse_eq]
    cases readNumber? l.text <;> rfl
  | word =>
    simp only [isMember_eq, constantValue, pure_bind]
    cases Constant.ofText? l.text with
    | some c => rfl
    | none => cases Trig.ofText? l.text <;> rfl
  | sign | opening | closing | space => rfl

theorem tokens_of_front?_eq_none {c : Char} {r : Text} (h : Lexeme.front? c r = none) :
    tokens (c :: r) = fail (.invalidCharacter c) := by
  rw [tokens]
  split
  · rfl
  · rename_i hl
    rw [h] at hl
    cases hl

theorem tokens_of_front? {c : Char} {r : Text} {l : Lexeme} (h : Lexeme.front? c r = some l) :
    tokens (c :: r) = token l >>= fun t =>
      tokens ((c :: r).drop l.text.length) >>= fun ts => pure (t.toList ++ ts) := by
  rw [tokens]
  split
  · rename_i hl
    rw [h] at hl
    cases hl
  · rename_i hl
    rw [h] at hl
    cases hl
    rfl

/-- the tokens of a text, or the fault in it -/
theorem tokens_eq (t : Text) : tokens t = known (Token.ofText t) := by
  unfold Token.ofText
  fun_induction Token.scan t with
  | case1 =>
    rw [tokens]
    rfl
  | case2 c r hl => rw [tokens_of_front?_eq_none hl]; rfl
  | case3 c r l hl f ht => rw [tokens_of_front? hl, token_eq, ht]; rfl
  | case4 c r l hl ht ih =>
    rw [tokens_of_front? hl, token_eq, ht, ih]
    obtain ⟨ts, f⟩ := Token.scan ((c :: r).drop l.text.length)
    cases f <;> rfl
  | case5 c r l hl t ht rest ih =>
    rw [tokens_of_front? hl, token_eq, ht, ih]
    simp only [rest]
    obtain ⟨ts, f⟩ := Token.scan ((c :: r).drop l.text.length)
    cases f <;> rfl

/-! ## Two runs -/

/-- A fold follows another one that can break off in other ways, from any state that the other one
keeps. -/
theorem foldlM_eq {σ : Type} {P : σ → Prop} {f : σ → α → Except ε σ} {f' : σ → α → Program σ}
    {g : ε → Break} (hstep : ∀ s a, P s → f' s a = (f s a).mapError g)
    (hkeep : ∀ s a s', P s → f s a = .ok s' → P s') (as : List α) :
    ∀ s, P s → as.foldlM f' s = (as.foldlM f s).mapError g := by
  induction as with
  | nil => exact fun _ _ => rfl
  | cons a as ih =>
    intro s hs
    rw [List.foldlM_cons, List.foldlM_cons, hstep s a hs]
    cases h : f s a with
    | error e => rfl
    | ok s' => exact ih s' (hkeep s a s' hs h)

/-! ## Reverse Polish order -/

/-- the operators held back can be read -/
def Readable (held : List Token) : Prop :=
  ∀ t ∈ held, t.kind = .operator → (Operator.ofText? t.text).isSome = true

theorem operatorOf_eq (t : Text) : operatorOf t = known (Operator.find t) := by
  unfold operatorOf Operator.find
  cases Operator.ofText? t <;> rfl

/-- operators that can be read are put out as far as they bind -/
theorem releaseBinding_eq (p : Nat) (held : List Token) : ∀ output, Readable held →
    releaseBinding p output held = pure (Yard.release (Yard.bindsAtLeast p) ⟨output, held⟩) := by
  induction held with
  | nil => exact fun _ _ => rfl
  | cons t held ih =>
    intro output hheld
    rw [releaseBinding]
    by_cases hk : t.kind = .operator
    · obtain ⟨op, hop⟩ := Option.isSome_iff_exists.mp (hheld t List.mem_cons_self hk)
      have hfound : operatorOf t.text = pure op := by
        rw [operatorOf_eq, Operator.find, hop]
        rfl
      have hbinds : Yard.bindsAtLeast p t = decide (p ≤ op.precedence) := by
        rw [Yard.bindsAtLeast, hop, decide_eq_true hk]
        rfl
      rw [if_pos hk, hfound, pure_bind]
      split
      · rename_i hp
        rw [ih (t :: output) fun u hu => hheld u (List.mem_cons_of_mem t hu)]
        simp [Yard.release, hbinds, hp]
      · rename_i hp
        simp [Yard.release, hbinds, hp]
    · have hbinds : Yard.bindsAtLeast p t = false := by
        rw [Yard.bindsAtLeast, decide_eq_false hk, Bool.false_and]
      rw [if_neg hk]
      simp [Yard.release, hbinds]

theorem takeUp_eq {y : Yard} (t : Token) (h : Readable y.held) : takeUp y t = known (y.step t) := by
  unfold takeUp Yard.step
  cases t.kind with
  | number | constant | function | openParen => rfl
  | operator =>
    simp only [operatorOf_eq]
    cases Operator.find t.text with
    | error f => rfl
    | ok op =>
      show (releaseBinding _ _ _ >>= _) = _
      rw [releaseBinding_eq _ _ _ h]
      rfl
  | closeParen =>
    simp only
    rcases (y.release Yard.isInner).held with _ | ⟨u, _ | ⟨f, held⟩⟩
    · rfl
    · rfl
    · by_cases hf : f.kind = .function
      · simp [pop, known, Except.mapError, hf, bind, Except.bind]
        rfl
      · simp [pop, known, Except.mapError, hf, bind, Except.bind]
        rfl

theorem Readable.of_subset {s t : List Token} (h : Readable t) (hst : s ⊆ t) : Readable s :=
  fun u hu => h u (hst hu)

/-- an operator is held back when it has been read -/
theorem isSome_of_step {y y' : Yard} {t : Token} (h : y.step t = .ok y') (hk : t.kind = .operator) :
    (Operator.ofText? t.text).isSome = true := by
  unfold Yard.step Operator.find at h
  simp only [hk] at h
  cases hop : Operator.ofText? t.text with
  | none =>
    rw [hop] at h
    cases h
  | some op => rfl

theorem readable_step {y y' : Yard} {t : Token} (h : Readable y.held) (hstep : y.step t = .ok y') :
    Readable y'.held := by
  rcases Yard.step_cases hstep with ⟨-, rfl⟩ | ⟨-, -, ops, held, heq, -, rfl⟩ |
    ⟨-, ops, opening, fs, held, heq, -, -, rfl⟩
  · exact h
  · intro u hu
    rcases List.mem_cons.mp hu with rfl | hu
    · exact isSome_of_step hstep
    · exact h u (heq ▸ List.mem_append_right ops hu)
  · apply h.of_subset
    rw [heq]
    intro u hu
    exact List.mem_append_right _ (List.mem_cons_of_mem _ (List.mem_append_right _ hu))

theorem convert_eq (ts : List Token) : convert ts = known (Rpn.ofInfix ts) := by
  have hfold : ts.foldlM takeUp {} = known (ts.foldlM Yard.step {}) :=
    foldlM_eq (P := fun y => Readable y.held) (fun _ t h => takeUp_eq t h)
      (fun _ _ _ h hstep => readable_step h hstep) ts {} nofun
  unfold convert Rpn.ofInfix
  rw [hfold]
  cases ts.foldlM Yard.step {} <;> rfl

/-- the tokens of a text in their order, or a fault -/
theorem rpn_eq (t : Text) : rpn t = known (Expression.rpn t) := by
  unfold rpn Expression.rpn
  rw [tokens_eq]
  split
  · rfl
  · cases Token.ofText t with
    | error f => rfl
    | ok ts => exact convert_eq ts

/-! ## Runs -/

theorem compute_of_none (op : Operator) (sign : Text) (a : Option Float) :
    compute op sign a none = .error .missing := by
  unfold compute calculate dividesByZero
  split
  · rfl
  · cases a <;> rfl

/-- how a token list that has no value breaks off -/
def breakOf : RunError → Break
  | .fault f => .fault f
  | .unreadable => .unfit
  | .noValue => .missing

theorem mapError_breakOf_fault (r : Except Fault α) :
    (r.mapError RunError.fault).mapError breakOf = known r := by
  cases r <;> rfl

theorem operation_eq (t : Token) (a b : Option Float) :
    operation t a b = (Rpn.runOperator t a b).mapError breakOf := by
  unfold operation Rpn.runOperator
  cases Operator.ofText? t.text with
  | none => rfl
  | some op =>
    show compute op t.text a b = _
    match a, b with
    | some a, some b =>
      rw [compute_eq]
      exact (mapError_breakOf_fault _).symm
    | none, some b =>
      unfold compute calculate
      rw [dividesByZero_eq, pure_bind]
      simp only
      split <;> rfl
    | a, none =>
      rw [compute_of_none]
      cases a <;> rfl

theorem application_eq (lib : TrigLibrary) (t : Token) (a : Option Float) :
    application lib t a = (Rpn.runFunction lib t a).mapError breakOf := by
  unfold application Rpn.runFunction
  cases Trig.ofText? t.text with
  | none => rfl
  | some f =>
    cases a with
    | none => rfl
    | some a =>
      show computeTrig lib f t.text (some a) none = _
      rw [computeTrig_eq]
      exact (mapError_breakOf_fault _).symm

/-- one token, from any stack -/
theorem step_eq (lib : TrigLibrary) (stack : List (Option Float)) (t : Token) :
    step lib stack t = (Rpn.step lib stack t).mapError breakOf := by
  unfold step Rpn.step
  cases t.kind with
  | number | constant | openParen | closeParen => rfl
  | operator =>
    rcases stack with _ | ⟨b, _ | ⟨a, stack⟩⟩
    · rfl
    · rfl
    · show (operation t a b >>= fun x => pure (some x :: stack)) = _
      rw [operation_eq]
      simp only
      cases Rpn.runOperator t a b <;> rfl
  | function =>
    cases stack with
    | nil => rfl
    | cons a stack =>
      show (application lib t a >>= fun x => pure (some x :: stack)) = _
      rw [application_eq]
      simp only
      cases Rpn.runFunction lib t a <;> rfl

/-- a token list breaks off where it has no value, and nowhere else -/
theorem run_eq (lib : TrigLibrary) (ts : List Token) :
    run lib ts = (Rpn.run lib ts).mapError breakOf := by
  have hfold : ts.foldlM (step lib) [] = (ts.foldlM (Rpn.step lib) []).mapError breakOf :=
    foldlM_eq (P := fun _ => True) (fun s t _ => step_eq lib s t) (fun _ _ _ _ _ => trivial) ts []
      trivial
  unfold run Rpn.run
  rw [hfold]
  cases ts.foldlM (Rpn.step lib) [] with
  | error e => rfl
  | ok stack => rcases stack with _ | ⟨x, _ | ⟨y, stack⟩⟩ <;> rfl

/-! ## Texts -/

theorem evaluate_eq (lib : TrigLibrary) (t : Text) :
    evaluate lib t = (Expression.evaluate lib t).mapError breakOf := by
  unfold evaluate Expression.evaluate
  rw [rpn_eq]
  cases Expression.rpn t with
  | error f => rfl
  | ok ts => exact run_eq lib ts

theorem validate_eq (t : Text) : validate t = pure (Expression.validate t) := by
  unfold validate Expression.validate
  rw [tokens_eq]
  split
  · rfl
  · cases Token.ofText t <;> rfl

end Program

/-! ## Main result -/

/-- **A text never leads to a malformed token**, and nothing but a fault is told of it: step by step
it comes to what it comes to as a function.  Its tokens in reverse Polish order carry a value if
they are numbers or constants, a sign or a word that can be looked up if they are operators or
functions, and are no parentheses; its value is a number; and whether it is valid is always told. -/
theorem breaks_at_faults_only (lib : TrigLibrary) (t : Text) :
    ((∃ f, Program.rpn t = .error (.fault f) ∧ rpn t = .error f) ∨
      ∃ ts, Program.rpn t = .ok ts ∧ rpn t = .ok ts ∧ ∀ u ∈ ts,
        (u.kind = .number ∨ u.kind = .constant → ∃ x, u.value = some x) ∧
        (u.kind = .operator → ∃ op, Operator.ofText? u.text = some op) ∧
        (u.kind = .function → ∃ f, Trig.ofText? u.text = some f) ∧
        u.kind ≠ .openParen ∧ u.kind ≠ .closeParen) ∧
    ((∃ f, Program.evaluate lib t = .error (.fault f) ∧ evaluate lib t = .error (.fault f)) ∨
      ∃ x, Program.evaluate lib t = .ok (some x) ∧ evaluate lib t = .ok (some x)) ∧
    Program.validate t = .ok (validate t) := by
  refine ⟨?_, ?_, Program.validate_eq t⟩
  · rw [Program.rpn_eq]
    cases hrpn : rpn t with
    | error f => exact .inl ⟨f, rfl, rfl⟩
    | ok us =>
      obtain ⟨ts, hts, hconvert⟩ := exists_of_rpn hrpn
      refine .inr ⟨us, rfl, rfl, fun u hu => ?_⟩
      have hlegible := legible_of_ofInfix hconvert (Token.legible_of_ofText hts) u hu
      have hplain : Yard.NoParen u := Rpn.noParen_of_ofInfix hconvert u hu
      refine ⟨fun hk => ?_, fun hk => ?_, fun hk => ?_, hplain⟩
      · have hvalue : u.kind.isValue = true := by
          rcases hk with hk | hk <;> rw [hk] <;> rfl
        exact Option.isSome_iff_exists.mp (hlegible.value hvalue)
      · exact Option.isSome_iff_exists.mp (hlegible.operator hk)
      · exact Option.isSome_iff_exists.mp (hlegible.function hk)
  · rw [Program.evaluate_eq]
    rcases value_or_fault lib t with ⟨x, hx⟩ | ⟨f, hf⟩
    · exact .inr ⟨x, by rw [hx]; rfl, hx⟩
    · exact .inl ⟨f, by rw [hf]; rfl, hf⟩

/-- tokens that no text has do break off otherwise: a sum with a number that carries no value -/
example (lib : TrigLibrary) :
    Program.run lib [⟨.number, ['1'], none⟩, ⟨.number, ['1'], some 1⟩, ⟨.operator, ['+'], none⟩] =
      .error .missing := by
  rfl

end PocketCalc.Expression
