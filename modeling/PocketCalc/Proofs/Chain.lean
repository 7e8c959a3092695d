import PocketCalc.Proofs.Lexing
import PocketCalc.Proofs.Nearest

/-!
# Chains of operations

What is keyed in between a fresh start and `=`: operands with operators between them.  A chain has a
value of its own, computed from left to right the way the keys are handled, and it stands for a tree
that has one, too.  They are the same number, or errors of the same kind.

* `Numeral`, `Operand`, `Chain`   what is keyed;
* `Chain.commands`                the text commands that key it;
* `Chain.value`                   its value from left to right;
* `Chain.tree`                    the tree it stands for, its text fully in parentheses;
* `TrigLibrary.Regular`           what is asked of the functions on radians;
* `Chain.alike_value`             both values.

They differ in one thing.  A number in front of a function is a factor within the scope, so that the
product is checked once; in the tree the value of the function is checked on its own first.
-/

namespace PocketCalc
open Text Infix

/-! ## Numerals -/

/-- digits, and perhaps a point with digits behind it -/
structure Numeral where
  whole : Text
  fraction : Text
  isDigits : IsAsciiDigits whole
  ne_nil : whole ≠ []
  isFraction : IsAsciiFraction fraction

namespace Numeral

def text (m : Numeral) : Text := m.whole ++ m.fraction

/-- the number that it is read as -/
def value (m : Numeral) : Float := (readNumber? m.text).getD 0

def ofWhole (t : Text) (h : IsAsciiDigits t) (hne : t ≠ []) : Numeral := ⟨t, [], h, hne, .inl rfl⟩

def one : Numeral := .ofWhole ['1'] (by decide) (by decide)

theorem value_one : one.value = 1 := by decide +kernel

theorem isAsciiDigit_or_eq_point (m : Numeral) {c : Char} (h : c ∈ m.text) :
    isAsciiDigit c = true ∨ c = '.' := by
  rcases List.mem_append.mp h with h | h
  · exact .inl (m.isDigits c h)
  · rcases m.isFraction with hf | ⟨ds, hf, hds⟩
    · rw [hf] at h
      cases h
    · rw [hf] at h
      rcases List.mem_cons.mp h with rfl | h
      · exact .inr rfl
      · exact .inl (hds c h)

/-- a numeral is read as it stands: there is nothing to trim, and no comma to replace -/
theorem readNumber?_text_eq (m : Numeral) :
    readNumber? m.text = some (Decimal.toFloat
      ⟨false, ofDigits (digitValues m.whole ++ digitValues (m.fraction.drop 1)),
        0 - (digitValues (m.fraction.drop 1)).length⟩) := by
  have hverbatim : IsVerbatim m.text := by
    intro c hc
    rcases m.isAsciiDigit_or_eq_point hc with h | rfl
    · exact (isAsciiDigit_classes h).2.2
    · decide
  have hparts := Decimal.ofNumeral?_parts (s := []) (x := []) (.inl rfl) m.isDigits.isDigits
    m.isFraction.isFraction (.inl rfl) (.inl m.ne_nil)
  rw [List.nil_append, List.append_nil] at hparts
  rw [readNumber?, hverbatim.trim_map, text, hparts]
  rfl

theorem readNumber?_text (m : Numeral) : readNumber? m.text = some m.value := by
  rw [value, m.readNumber?_text_eq]
  rfl

theorem spelled (m : Numeral) : Token.Spelled ⟨.number, m.text, some m.value⟩ :=
  spelled_number m.isDigits m.ne_nil m.isFraction m.readNumber?_text

end Numeral

/-! ## The size of a numeral -/

theorem digitValue?_lt {c : Char} {v : Nat} (h : digitValue? c = some v) : v < 10 := by
  unfold digitValue? at h
  obtain ⟨z, hz, rfl⟩ := Option.map_eq_some_iff.mp h
  have hrange := List.find?_some hz
  simp only [Bool.and_eq_true, decide_eq_true_eq] at hrange
  omega

theorem ofDigits_lt {ds : List Nat} (h : ∀ d ∈ ds, d < 10) : ofDigits ds < 10 ^ ds.length := by
  have hfold : ∀ (ds : List Nat), (∀ d ∈ ds, d < 10) → ∀ n,
      ds.foldl (fun n d => 10 * n + d) n < (n + 1) * 10 ^ ds.length := by
    intro ds
    induction ds with
    | nil =>
      intro _ n
      simp
    | cons d ds ih =>
      intro h n
      have hd := h d List.mem_cons_self
      calc ds.foldl (fun n d => 10 * n + d) (10 * n + d)
          < (10 * n + d + 1) * 10 ^ ds.length := ih (fun d hd => h d (List.mem_cons_of_mem _ hd)) _
        _ ≤ (10 * (n + 1)) * 10 ^ ds.length := Nat.mul_le_mul_right _ (by omega)
        _ = (n + 1) * 10 ^ (d :: ds).length := by
          rw [List.length_cons, Nat.pow_succ]
          ring
  have h0 := hfold ds h 0
  rw [Nat.zero_add, Nat.one_mul] at h0
  exact h0

theorem Numeral.moderate {m : Numeral} (h : m.text.length ≤ 13) : Moderate m.value := by
  have hvalues : ∀ t : Text, ∀ d ∈ digitValues t, d < 10 := by
    intro t d hd
    obtain ⟨c, -, hc⟩ := List.mem_filterMap.mp hd
    exact digitValue?_lt hc
  rw [value, m.readNumber?_text_eq, Option.getD_some]
  refine moderate_toFloat rfl ?_ (by show (0 : Int) - _ ≤ 0; omega)
  have hlen : (digitValues m.whole ++ digitValues (m.fraction.drop 1)).length ≤ 13 := by
    have hw : (digitValues m.whole).length ≤ m.whole.length := List.length_filterMap_le _ _
    have hf : (digitValues (m.fraction.drop 1)).length ≤ (m.fraction.drop 1).length :=
      List.length_filterMap_le _ _
    rw [text, List.length_append] at h
    rw [List.length_append]
    rw [List.length_drop] at hf
    omega
  have hlt : ∀ d ∈ digitValues m.whole ++ digitValues (m.fraction.drop 1), d < 10 := by
    intro d hd
    rcases List.mem_append.mp hd with hd | hd
    · exact hvalues _ d hd
    · exact hvalues _ d hd
  exact Nat.lt_of_lt_of_le (ofDigits_lt hlt) (Nat.pow_le_pow_right (by decide) hlen)

/-! ## Operands and chains -/

/-- a word for an operator: its sign or a synonym -/
structure OperatorWord where
  text : Text
  op : Operator
  reads : Operator.ofText? text = some op

/-- a word for a function: its name, in capitals or small letters -/
structure FunctionWord where
  text : Text
  fn : Trig
  reads : Trig.ofText? text = some fn

structure ConstantWord where
  text : Text
  constant : Constant
  reads : Constant.ofText? text = some constant

/-- an operand as it is keyed -/
inductive Operand
  | number (m : Numeral)
  /-- a function of a numeral, perhaps with a numeral in front -/
  | applied (factor : Option Numeral) (f : FunctionWord) (x : Numeral)
  /-- a constant, perhaps with a numeral in front -/
  | constant (factor : Option Numeral) (c : ConstantWord)

/-- operands with operators between them -/
structure Chain where
  first : Operand
  rest : List (OperatorWord × Operand)

namespace Operand

/-- the text commands that key an operand -/
def commands : Operand → List Text
  | number m => [m.text]
  | applied factor f x => factor.toList.map Numeral.text ++ [f.text, x.text]
  | constant factor c => factor.toList.map Numeral.text ++ [c.text]

/-- an operand as the entry shows it, the scope not yet closed -/
def entry : Operand → Text
  | number m => m.text
  | applied factor f x => factor.elim [] Numeral.text ++ f.fn.name ++ '(' :: x.text
  | constant factor c => factor.elim [] Numeral.text ++ [c.constant.symbol]

/-- the value of an operand; what is in front of a function is a factor of its scope -/
def value (lib : TrigLibrary) : Operand → Except Fault Float
  | number m => .ok m.value
  | applied factor f x => f.fn.compute lib f.fn.name x.value (factor.map Numeral.value)
  | constant factor c => .ok (c.constant.value * factor.elim 1 Numeral.value)

def leaf (m : Numeral) : Tree := .leaf (.number m.text m.value)

def times (l r : Tree) : Tree := .binary (.ofSymbol .multiply) l r

/-- the tree of an operand: `m`, `f(x)` or `(m×f(x))`, and `(c×m)` with `1` for `m` where none is
keyed -/
def tree : Operand → Tree
  | number m => leaf m
  | applied none f x => .apply (.ofText f.reads) (leaf x)
  | applied (some m) f x => times (leaf m) (.apply (.ofText f.reads) (leaf x))
  | constant factor c => times (.leaf (.constant c.text c.constant)) (leaf (factor.getD .one))

end Operand

namespace Chain

/-- the text commands that key a chain -/
def commands (ch : Chain) : List Text :=
  ch.first.commands ++ ch.rest.flatMap fun r => r.1.text :: r.2.commands

def operands (ch : Chain) : List Operand := ch.first :: ch.rest.map Prod.snd

def stepValue (lib : TrigLibrary) (a : Float) (r : OperatorWord × Operand) :
    Except Fault Float := do
  let x ← r.2.value lib
  r.1.op.compute [r.1.op.symbol] a x

/-- the value of a chain from left to right -/
def value (lib : TrigLibrary) (ch : Chain) : Except Fault Float := do
  let a ← ch.first.value lib
  ch.rest.foldlM (stepValue lib) a

def stepTree (e : Tree) (r : OperatorWord × Operand) : Tree :=
  .binary (.ofText r.1.reads) e r.2.tree

/-- the tree of a chain: its operations from left to right -/
def tree (ch : Chain) : Tree := ch.rest.foldl stepTree ch.first.tree

end Chain

/-! ## Trees of chains are read back -/

theorem Operand.spelled_tree (o : Operand) : o.tree.Spelled := by
  have hleaf : ∀ m : Numeral, (leaf m).Spelled := fun m => m.spelled
  rcases o with m | ⟨_ | m, f, x⟩ | ⟨m, c⟩
  · exact hleaf m
  · exact ⟨spelled_function f.reads, hleaf x⟩
  · exact ⟨hleaf m, rfl, spelled_function f.reads, hleaf x⟩
  · exact ⟨spelled_constant c.reads, rfl, hleaf _⟩

theorem Chain.spelled_tree (ch : Chain) : ch.tree.Spelled := by
  have hfold : ∀ (rest : List (OperatorWord × Operand)) (e : Tree), e.Spelled →
      (rest.foldl stepTree e).Spelled := by
    intro rest
    induction rest with
    | nil => exact fun e he => he
    | cons r rest ih => exact fun e he => ih _ ⟨he, rfl, r.2.spelled_tree⟩
  exact hfold ch.rest _ ch.first.spelled_tree

/-! ## Both values -/

/-- the same value, or errors of the same kind -/
inductive Alike {α : Type} : Except Fault α → Except Fault α → Prop
  | ok (x : α) : Alike (.ok x) (.ok x)
  | error {f g : Fault} : f.kind = g.kind → Alike (.error f) (.error g)

theorem Alike.bind {α β : Type} {a b : Except Fault α} {p q : α → Except Fault β} (h : Alike a b)
    (hpq : ∀ x, Alike (p x) (q x)) : Alike (a >>= p) (b >>= q) := by
  cases h with
  | ok x => exact hpq x
  | error hk => exact .error hk

/-- how a computation is written shows only in the detail of an error -/
theorem alike_check (x : Float) (source : Option Source) (b : Option Float) (d d' : Option Text) :
    Alike (check x source b d) (check x source b d') := by
  unfold check
  cases classify x source b with
  | none => exact .ok x
  | some k => exact .error rfl

theorem Operator.alike_compute (op : Operator) (s t : Text) (a b : Float) :
    Alike (op.compute s a b) (op.compute t a b) := by
  unfold compute
  cases op.calculate a b with
  | error f => exact .error rfl
  | ok x => exact alike_check _ _ _ _ _

/-- the functions on radians: a finite number gives a finite number or NaN, and an angle between
`-π` and `π` where the function is an inverse one -/
structure TrigLibrary.Regular (lib : TrigLibrary) : Prop where
  isInf : ∀ f x, x.isFinite = true → (lib.eval f x).isInf = false
  angle : ∀ f x, f.isInverse = true → x.isFinite = true →
    (lib.eval f x).isNaN = true ∨ (-piValue ≤ lib.eval f x ∧ lib.eval f x ≤ piValue)

/-! ## The value of a function -/

namespace Trig

theorem isInf_applyDegrees {lib : TrigLibrary} (h : lib.Regular) (f : Trig) {x : Float}
    (hx : Moderate x) : (f.applyDegrees lib x none).isInf = false := by
  unfold applyDegrees
  split
  · rename_i hinv
    show (snapAngle (degrees (lib.eval f x))).isInf = false
    rcases h.angle f x hinv hx.isFinite with hnan | ⟨hlow, hhigh⟩
    · exact isInf_of_isNaN (isNaN_snapAngle_degrees hnan)
    · exact isInf_of_isFinite (isFinite_snapAngle_degrees hlow hhigh)
  · have hfactor : Moderate (piValue / 180) := by decide +kernel
    exact h.isInf f _ (isFinite_mul_of_moderate hx hfactor)

end Trig

/-! ## Checked values -/

theorem compute_multiply (t : Text) (a b : Float) :
    Operator.multiply.compute t a b =
      if (a * b).isNaN then .error (.unusable .math (some (operationText a t b)))
      else if (a * b).isInf then .error (.unusable .overflow (some (operationText a t b)))
      else .ok (a * b) := by
  show check (a * b) (some (.operator .multiply)) (some b) _ = _
  unfold check classify classify.unusableKind
  cases (a * b).isNaN <;> cases (a * b).isInf <;> rfl

/-- A factor in front of a function: within the scope the product is checked, in the tree the value
of the function and then the product. -/
theorem Trig.alike_compute_scaled {lib : TrigLibrary} (h : lib.Regular) (f : Trig) (w w' t : Text)
    {x k : Float} (hx : Moderate x) (hk : k.isFinite = true) :
    Alike (f.compute lib w x (some k))
      (f.compute lib w' x none >>= fun v => Operator.multiply.compute t k v) := by
  have hinf := f.isInf_applyDegrees h hx
  unfold compute
  rw [applyDegrees_some]
  generalize f.applyDegrees lib x none = v at hinf ⊢
  rw [check_function, check_function]
  cases hv : v.isNaN with
  | true =>
    rw [if_pos (isNaN_mul_right k hv)]
    exact .error rfl
  | false =>
    have hvf : v.isFinite = true := by rw [isFinite_eq, hv, hinf]; rfl
    have hprod := isNaN_mul_of_isFinite hk hvf
    rw [hprod, hinf]
    show Alike (if (k * v).isInf then _ else _) (Operator.multiply.compute t k v)
    rw [compute_multiply, hprod]
    cases (k * v).isInf with
    | true => exact .error rfl
    | false => exact .ok _

/-! ## Operands and chains have one value -/

/-- an operand of no more characters than can be typed into an entry -/
def Operand.Fits (o : Operand) : Prop := o.entry.length ≤ 13

instance (o : Operand) : Decidable o.Fits := inferInstanceAs (Decidable (_ ≤ _))

theorem Operand.alike_value {lib : TrigLibrary} (h : lib.Regular) {o : Operand} (ho : o.Fits) :
    Alike (o.value lib) (o.tree.eval lib) := by
  rcases o with m | ⟨_ | m, f, x⟩ | ⟨m, c⟩
  · exact .ok m.value
  · exact alike_check _ _ _ _ _
  · simp only [Fits, entry, Option.elim_some, List.length_append, List.length_cons] at ho
    have hm : Moderate m.value := m.moderate (by omega)
    have hx : Moderate x.value := x.moderate (by omega)
    exact f.fn.alike_compute_scaled h f.fn.name f.text ['×'] hx hm.isFinite
  · have hm : Moderate ((m.getD .one).value) := by
      cases m with
      | none => exact Numeral.moderate (by decide)
      | some m =>
        simp only [Fits, entry, Option.elim_some, List.length_append, List.length_singleton] at ho
        exact m.moderate (by omega)
    have hc : Moderate c.constant.value := by cases c.constant <;> decide +kernel
    have hfactor : m.elim 1 Numeral.value = (m.getD .one).value := by
      cases m with
      | none => exact Numeral.value_one.symm
      | some m => rfl
    have hfinite := isFinite_mul_of_moderate hc hm
    show Alike (.ok (c.constant.value * m.elim 1 Numeral.value))
      (Operator.multiply.compute ['×'] c.constant.value (m.getD .one).value)
    rw [compute_multiply, isNaN_mul_of_isFinite hc.isFinite hm.isFinite, isInf_of_isFinite hfinite,
      hfactor]
    exact .ok _

/-- **A chain computed from left to right has the value of its tree**, or an error of the same
kind. -/
theorem Chain.alike_value {lib : TrigLibrary} (h : lib.Regular) {ch : Chain}
    (hch : ∀ o ∈ ch.operands, o.Fits) : Alike (ch.value lib) (ch.tree.eval lib) := by
  have hfold : ∀ (rest : List (OperatorWord × Operand)), (∀ r ∈ rest, r.2.Fits) →
      ∀ (a : Except Fault Float) (e : Tree), Alike a (e.eval lib) →
        Alike (a >>= rest.foldlM (stepValue lib)) ((rest.foldl stepTree e).eval lib) := by
    intro rest
    induction rest with
    | nil =>
      intro _ a e hae
      show Alike (a >>= pure) (e.eval lib)
      rw [bind_pure]
      exact hae
    | cons r rest ih =>
      intro hfits a e hae
      have hstep : Alike (a >>= fun x => stepValue lib x r) ((stepTree e r).eval lib) := by
        refine hae.bind fun x => ?_
        refine (r.2.alike_value h (hfits r List.mem_cons_self)).bind fun y => ?_
        exact r.1.op.alike_compute _ _ x y
      have hrest := ih (fun r hr => hfits r (List.mem_cons_of_mem _ hr)) _ _ hstep
      rw [bind_assoc] at hrest
      exact hrest
  refine hfold ch.rest ?_ _ _ (ch.first.alike_value h (hch _ List.mem_cons_self))
  intro r hr
  exact hch _ (List.mem_cons_of_mem _ (List.mem_map_of_mem hr))

end PocketCalc
