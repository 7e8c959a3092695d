import Mathlib
import PocketCalc.Proofs.Chain
import PocketCalc.Proofs.Finite

/-!
# Second spellings

Three operators have a second sign, and in some places a comma is written for the point.  A text
with the usual signs in their place is cut at the same characters, into tokens of the same kinds and
values, and so it goes the same way through the conversion and the evaluation.

* `respell`                 a text in the usual spelling;
* `apply_respellChar`       what is the same of both signs cannot tell the spellings apart;
* `front?_respell`          the lexemes of a text in the usual spelling;
* `Follows r φ`             two computations that end alike, the values of the second one by `φ`;
* `scan_respell`, `follows_ofInfix`, `follows_run`   the three stages;
* `evaluate_respell`        all of them together.
-/

namespace PocketCalc
open Text

/-! ## Characters -/

/-- the second signs, each with the usual one -/
def spellings : List (Char × Char) := [('*', '×'), ('/', '÷'), ('−', '-'), (',', '.')]

def respellChar (c : Char) : Char := (spellings.lookup c).getD c

/-- the text with the usual sign for each second one -/
def respell (t : Text) : Text := t.map respellChar

theorem respell_cons (c : Char) (r : Text) : respell (c :: r) = respellChar c :: respell r := rfl

theorem respellChar_cases (c : Char) : respellChar c = c ∨ (c, respellChar c) ∈ spellings := by
  unfold respellChar
  cases h : spellings.lookup c with
  | none => exact .inl rfl
  | some d =>
    obtain ⟨l, r, hsplit, -⟩ := List.lookup_eq_some_iff.mp h
    refine .inr ?_
    rw [hsplit, Option.getD_some]
    exact List.mem_append_right l List.mem_cons_self

/-- what is the same of both signs does not see which of them is written -/
theorem apply_respellChar {α : Type} {p : Char → α} (h : ∀ s ∈ spellings, p s.2 = p s.1)
    (c : Char) : p (respellChar c) = p c := by
  rcases respellChar_cases c with hc | hc
  · rw [hc]
  · exact h _ hc

/-- a class without second signs is not respelled -/
theorem respellChar_of_mem {p : Char → Bool} (h : ∀ s ∈ spellings, p s.1 = false) {c : Char}
    (hc : p c = true) : respellChar c = c := by
  rcases respellChar_cases c with heq | hmem
  · exact heq
  · rw [h _ hmem] at hc
    cases hc

theorem respell_of_mem {p : Char → Bool} (h : ∀ s ∈ spellings, p s.1 = false) {t : Text}
    (ht : ∀ c ∈ t, p c = true) : respell t = t := by
  rw [respell, List.map_congr_left fun c hc => respellChar_of_mem h (ht c hc), List.map_id']

theorem isDigit_respellChar (c : Char) : isDigit (respellChar c) = isDigit c :=
  apply_respellChar (by decide +kernel) c

theorem isSeparator_respellChar (c : Char) : isSeparator (respellChar c) = isSeparator c :=
  apply_respellChar (by decide) c

theorem ofChar?_respellChar (c : Char) :
    Operator.ofChar? (respellChar c) = Operator.ofChar? c :=
  apply_respellChar (by decide) c

theorem isSign_respellChar (c : Char) : Operator.isSign (respellChar c) = Operator.isSign c := by
  rw [Operator.isSign, ofChar?_respellChar, Operator.isSign]

theorem isLetter_respellChar (c : Char) : isLetter (respellChar c) = isLetter c :=
  apply_respellChar (by decide +kernel) c

theorem isSpace_respellChar (c : Char) : isSpace (respellChar c) = isSpace c :=
  apply_respellChar (by decide +kernel) c

theorem isBlank_respellChar (c : Char) : isBlank (respellChar c) = isBlank c :=
  apply_respellChar (by decide +kernel) c

theorem respellChar_eq_iff {d : Char} (h : ∀ s ∈ spellings, s.1 ≠ d ∧ s.2 ≠ d) (c : Char) :
    respellChar c = d ↔ c = d := by
  rcases respellChar_cases c with hc | hc
  · rw [hc]
  · exact iff_of_false (h _ hc).2 (h _ hc).1

/-! ## Texts -/

theorem takeWhile_respell {p : Char → Bool} (h : ∀ c, p (respellChar c) = p c) (t : Text) :
    (respell t).takeWhile p = respell (t.takeWhile p) := by
  have hp : p ∘ respellChar = p := funext h
  rw [respell, List.takeWhile_map, hp, respell]

theorem dropWhile_respell {p : Char → Bool} (h : ∀ c, p (respellChar c) = p c) (t : Text) :
    (respell t).dropWhile p = respell (t.dropWhile p) := by
  have hp : p ∘ respellChar = p := funext h
  rw [respell, List.dropWhile_map, hp, respell]

theorem trim_respell (t : Text) : trim (respell t) = respell (trim t) := by
  rw [trim, dropWhile_respell isBlank_respellChar, trimEndWhile, respell, ← List.map_reverse]
  show (List.dropWhile isBlank (respell (t.dropWhile isBlank).reverse)).reverse = _
  rw [dropWhile_respell isBlank_respellChar, respell, ← List.map_reverse]
  rfl

theorem isBlankText_respell (t : Text) : isBlankText (respell t) = isBlankText t := by
  have hblank : isBlank ∘ respellChar = isBlank := funext isBlank_respellChar
  rw [isBlankText, respell, List.all_map, hblank, isBlankText]

/-- the separators of a numeral are read alike -/
theorem readNumber?_respell {t : Text} (h : ∀ c ∈ t, (isDigit c || isSeparator c) = true) :
    readNumber? (respell t) = readNumber? t := by
  have hpoint : ∀ c ∈ trim t, pointForComma (respellChar c) = pointForComma c := by
    intro c hc
    have hboth : ∀ s ∈ spellings, (isDigit s.1 || isSeparator s.1) = true →
        pointForComma s.2 = pointForComma s.1 := by decide +kernel
    rcases respellChar_cases c with heq | hmem
    · rw [heq]
    · exact hboth _ hmem (h c (mem_of_mem_trim hc))
  rw [readNumber?, trim_respell, respell, List.map_map, readNumber?]
  exact congrArg (fun t => (Decimal.ofNumeral? t).map Decimal.toFloat) (List.map_congr_left hpoint)

theorem Operator.ofText?_respell (t : Text) : ofText? (respell t) = ofText? t := by
  match t with
  | [] => rfl
  | [c] => exact ofChar?_respellChar c
  | _ :: _ :: _ => rfl

theorem Trig.ofText?_respell (t : Text) : ofText? (respell t) = ofText? t := by
  have halpha : ∀ c : Char, (respellChar c).isAlpha = c.isAlpha := apply_respellChar (by decide)
  by_cases ht : ∀ c ∈ t, c.isAlpha = true
  · rw [respell_of_mem (by decide) ht]
  · have hnone : ofText? t = none := by
      by_contra hsome
      obtain ⟨f, hf⟩ := Option.ne_none_iff_exists'.mp hsome
      exact ht (isAlpha_of_ofText? hf).2
    rw [hnone]
    by_contra hsome
    obtain ⟨f, hf⟩ := Option.ne_none_iff_exists'.mp hsome
    refine ht fun c hc => ?_
    rw [← halpha c]
    exact (isAlpha_of_ofText? hf).2 _ (List.mem_map_of_mem hc)

/-! ## Lexemes -/

theorem numberLexeme_respell (t : Text) :
    numberLexeme (respell t) = respell (numberLexeme t) := by
  unfold numberLexeme
  rw [dropWhile_respell isDigit_respellChar, takeWhile_respell isDigit_respellChar]
  cases t.dropWhile isDigit with
  | nil => rfl
  | cons s r =>
    show (if isSeparator (respellChar s) then _ else _) = _
    rw [isSeparator_respellChar]
    show (if isSeparator s then
        respell (t.takeWhile isDigit) ++ respellChar s :: (respell r).takeWhile isDigit else _) =
      respell (if isSeparator s then _ else _)
    rw [takeWhile_respell isDigit_respellChar]
    split
    · rw [respell, respell, respell, List.map_append, List.map_cons]
    · rfl

def Lexeme.respell (l : Lexeme) : Lexeme := { l with text := PocketCalc.respell l.text }

def Token.respell (t : Token) : Token := { t with text := PocketCalc.respell t.text }

namespace Lexeme

/-- a text in the usual spelling is cut at the same characters -/
theorem front?_respell (c : Char) (r : Text) :
    front? (respellChar c) (PocketCalc.respell r) = (front? c r).map respell := by
  have hnumber := numberLexeme_respell (c :: r)
  have hword := takeWhile_respell isLetter_respellChar r
  have hspace := takeWhile_respell isSpace_respellChar r
  have hopening : respellChar c = '(' ↔ c = '(' := respellChar_eq_iff (by decide) c
  have hclosing : respellChar c = ')' ↔ c = ')' := respellChar_eq_iff (by decide) c
  unfold front?
  simp only [isDigit_respellChar, isSeparator_respellChar, isSign_respellChar, isLetter_respellChar,
    isSpace_respellChar, hopening, hclosing, hword, hspace]
  split
  · exact congrArg (fun t => some (Lexeme.mk .number t)) hnumber
  repeat' split
  all_goals rfl

/-- what the lexemes of numbers and words are written with -/
theorem class_of_mem_front? {c d : Char} {r : Text} {l : Lexeme} (h : front? c r = some l)
    (hd : d ∈ l.text) : (l.cls = .number → (isDigit d || isSeparator d) = true) ∧
      (l.cls = .word → isLetter d = true) := by
  rcases front?_cases h with ⟨-, rfl⟩ | ⟨-, -, hletter, rfl⟩ | ⟨-, rfl⟩ | ⟨hcls, -⟩
  · exact ⟨fun _ => mem_numberLexeme hd, nofun⟩
  · refine ⟨nofun, fun _ => ?_⟩
    rcases List.mem_cons.mp hd with rfl | hd
    · exact hletter
    · exact List.mem_takeWhile_imp hd
  · exact ⟨nofun, nofun⟩
  · rcases hcls with hcls | hcls | hcls <;> rw [hcls] <;> exact ⟨nofun, nofun⟩

end Lexeme

/-! ## Computations that end alike -/

/-- two computations that both have a value, that of the second one by `φ` from that of the first,
or both an error, and the errors are related by `r` -/
inductive Follows {ε α β : Type} (r : ε → ε → Prop) (φ : α → β) : Except ε α → Except ε β → Prop
  | ok (a : α) : Follows r φ (.ok a) (.ok (φ a))
  | error {e e' : ε} (h : r e e') : Follows r φ (.error e) (.error e')

namespace Follows
variable {ε α β γ : Type} {r : ε → ε → Prop} {φ : α → β}

theorem of_eq {a : α} {b : β} (h : φ a = b) : Follows r φ (.ok a) (.ok b) := by
  rw [← h]
  exact .ok a

theorem foldlM {p : α → γ → Except ε α} {q : β → γ → Except ε β} {ψ : γ → γ}
    (h : ∀ a t, Follows r φ (p a t) (q (φ a) (ψ t))) (ts : List γ) : ∀ a,
    Follows r φ (ts.foldlM p a) ((ts.map ψ).foldlM q (φ a)) := by
  induction ts with
  | nil => exact fun a => .ok a
  | cons t ts ih =>
    intro a
    rw [List.map_cons, List.foldlM_cons, List.foldlM_cons]
    have hstep := h a t
    generalize p a t = x at hstep ⊢
    generalize q (φ a) (ψ t) = y at hstep ⊢
    cases hstep with
    | ok b => exact ih b
    | error he => exact .error he

end Follows

/-- faults of the same kind -/
def Fault.Similar (f g : Fault) : Prop := f.kind = g.kind

/-- the same error but for the detail of a fault -/
inductive RunError.Similar : RunError → RunError → Prop
  | fault {f g : Fault} (h : f.Similar g) : RunError.Similar (.fault f) (.fault g)
  | refl (e : RunError) : RunError.Similar e e

/-! ## Tokens -/

/-- a lexeme in the usual spelling has a token of the same kind and value -/
theorem Lexeme.follows_token {c : Char} {r : Text} {l : Lexeme} (h : front? c r = some l) :
    Follows Fault.Similar (Option.map Token.respell) l.token l.respell.token := by
  have hkept : l.cls = .word → PocketCalc.respell l.text = l.text := fun hcls =>
    respell_of_mem (by decide +kernel) fun d hd => (class_of_mem_front? h hd).2 hcls
  have hread : l.cls = .number → readNumber? (PocketCalc.respell l.text) = readNumber? l.text :=
    fun hcls => readNumber?_respell fun d hd => (class_of_mem_front? h hd).1 hcls
  obtain ⟨cls, text⟩ := l
  cases cls with
  | number =>
    have hread : readNumber? (respell ⟨.number, text⟩).text = readNumber? text := hread rfl
    unfold token
    simp only [hread]
    cases readNumber? text with
    | some x => exact .of_eq rfl
    | none => exact .error rfl
  | sign | opening | closing | space => exact .of_eq rfl
  | word =>
    have hsame : respell ⟨.word, text⟩ = ⟨.word, text⟩ := congrArg (Lexeme.mk .word) (hkept rfl)
    rw [hsame]
    cases ht : token ⟨.word, text⟩ with
    | error f => exact .error rfl
    | ok o =>
      have ho : o.map Token.respell = o := by
        cases o with
        | none => rfl
        | some t =>
          have htext : t.text = text := text_of_token ht
          rw [Option.map_some, Token.respell, htext, hkept rfl, ← htext]
      have hfollows := Follows.ok (r := Fault.Similar) (φ := Option.map Token.respell) o
      rw [ho] at hfollows
      exact hfollows

namespace Token

theorem scan_of_front?_eq_none {c : Char} {r : Text} (h : Lexeme.front? c r = none) :
    scan (c :: r) = ([], some (.invalidCharacter c)) := by
  rw [scan]
  split
  · rfl
  · rename_i l hl
    rw [h] at hl
    cases hl

/-- a text in the usual spelling has the tokens of the text, and its first fault is of the same
kind -/
theorem scan_respell (t : Text) :
    (scan (PocketCalc.respell t)).1 = (scan t).1.map respell ∧
      (scan (PocketCalc.respell t)).2.map Fault.kind = (scan t).2.map Fault.kind := by
  have hcut : ∀ {c : Char} {r : Text} {l : Lexeme},
      (respellChar c :: PocketCalc.respell r).drop l.respell.text.length =
        PocketCalc.respell ((c :: r).drop l.text.length) := by
    intro c r l
    show ((c :: r).map respellChar).drop (l.text.map respellChar).length = _
    rw [List.length_map, ← List.map_drop]
    rfl
  have hfront : ∀ {c : Char} {r : Text} {l : Lexeme}, Lexeme.front? c r = some l →
      Lexeme.front? (respellChar c) (PocketCalc.respell r) = some l.respell := by
    intro c r l hl
    rw [Lexeme.front?_respell, hl]
    rfl
  fun_induction scan t with
  | case1 =>
    rw [show PocketCalc.respell [] = [] from rfl, scan]
    exact ⟨rfl, rfl⟩
  | case2 c r hl =>
    have hnone : Lexeme.front? (respellChar c) (PocketCalc.respell r) = none := by
      rw [Lexeme.front?_respell, hl]
      rfl
    rw [respell_cons, scan_of_front?_eq_none hnone]
    exact ⟨rfl, rfl⟩
  | case3 c r l hl f hf =>
    have htoken := Lexeme.follows_token hl
    rw [hf] at htoken
    rw [respell_cons, scan_cons (hfront hl)]
    generalize l.respell.token = y at htoken ⊢
    cases htoken with
    | error hkind => exact ⟨rfl, congrArg some hkind.symm⟩
  | case4 c r l hl ht ih =>
    have htoken := Lexeme.follows_token hl
    rw [ht] at htoken
    rw [respell_cons, scan_cons (hfront hl), hcut]
    generalize l.respell.token = y at htoken ⊢
    cases htoken with
    | ok => exact ih
  | case5 c r l hl t ht rest ih =>
    have htoken := Lexeme.follows_token hl
    rw [ht] at htoken
    rw [respell_cons, scan_cons (hfront hl), hcut]
    generalize l.respell.token = y at htoken ⊢
    cases htoken with
    | ok => exact ⟨congrArg (respell t :: ·) ih.1, ih.2⟩

theorem follows_ofText (t : Text) :
    Follows Fault.Similar (List.map respell) (ofText t) (ofText (PocketCalc.respell t)) := by
  obtain ⟨htokens, hfault⟩ := scan_respell t
  unfold ofText
  generalize scan t = x at htokens hfault ⊢
  generalize scan (PocketCalc.respell t) = y at htokens hfault ⊢
  obtain ⟨ts, f⟩ := x
  obtain ⟨us, g⟩ := y
  cases f with
  | none =>
    cases g with
    | none =>
      cases htokens
      exact .ok ts
    | some g => cases hfault
  | some f =>
    cases g with
    | none => cases hfault
    | some g => exact .error (Option.some.inj hfault).symm

end Token

/-! ## Conversion -/

namespace Yard

def respell (y : Yard) : Yard := ⟨y.output.map Token.respell, y.held.map Token.respell⟩

theorem bindsAtLeast_respell (p : Nat) (t : Token) :
    bindsAtLeast p t.respell = bindsAtLeast p t := by
  show (decide (t.kind = .operator) && _) = _
  rw [Token.respell, Operator.ofText?_respell]
  rfl

theorem release_respell {p : Token → Bool} (h : ∀ t : Token, p t.respell = p t) (y : Yard) :
    y.respell.release p = (y.release p).respell := by
  have hp : p ∘ Token.respell = p := funext h
  simp only [release, respell, List.takeWhile_map, List.dropWhile_map, hp, List.map_append,
    List.map_reverse]

theorem follows_step (y : Yard) (t : Token) :
    Follows Fault.Similar respell (y.step t) (y.respell.step t.respell) := by
  obtain ⟨kind, text, value⟩ := t
  cases kind with
  | number | constant | function | openParen => exact .of_eq rfl
  | operator =>
    simp only [step, Token.respell, Operator.find, Operator.ofText?_respell]
    cases Operator.ofText? text with
    | none => exact .error rfl
    | some op =>
      simp only [release_respell (bindsAtLeast_respell op.precedence)]
      exact .of_eq rfl
  | closeParen =>
    have hinner : ∀ t : Token, isInner t.respell = isInner t := fun _ => rfl
    simp only [step, Token.respell, release_respell hinner]
    generalize y.release isInner = y
    obtain ⟨output, held⟩ := y
    cases held with
    | nil => exact .error rfl
    | cons _ held =>
      cases held with
      | nil => exact .of_eq rfl
      | cons f held =>
        by_cases hf : f.kind = .function
        · have hf' : f.respell.kind = .function := hf
          simp only [respell, List.map_cons, if_pos hf, if_pos hf']
          exact .of_eq rfl
        · have hf' : ¬ f.respell.kind = .function := hf
          simp only [respell, List.map_cons, if_neg hf, if_neg hf']
          exact .of_eq rfl

theorem follows_finish (y : Yard) :
    Follows Fault.Similar (List.map Token.respell) y.finish y.respell.finish := by
  have hinner : isInner ∘ Token.respell = isInner := rfl
  have hall : y.respell.held.all isInner = y.held.all isInner := by
    rw [respell, List.all_map, hinner]
  rw [finish, finish, hall, release_respell fun _ => rfl]
  split
  · have hreverse : (y.release fun _ => true).respell.output.reverse =
        (y.release fun _ => true).output.reverse.map Token.respell := by
      rw [respell, List.map_reverse]
    rw [hreverse]
    exact .ok _
  · exact .error rfl

end Yard

namespace Rpn

theorem follows_ofInfix (ts : List Token) : Follows Fault.Similar (List.map Token.respell)
    (ofInfix ts) (ofInfix (ts.map Token.respell)) := by
  have hfold := Follows.foldlM (ψ := Token.respell) Yard.follows_step ts {}
  unfold ofInfix
  generalize ts.foldlM Yard.step {} = x at hfold ⊢
  rw [show ({} : Yard).respell = {} from rfl] at hfold
  generalize (ts.map Token.respell).foldlM Yard.step {} = y at hfold ⊢
  cases hfold with
  | ok y => exact y.follows_finish
  | error hkind => exact .error hkind

/-! ## Evaluation -/

/-- a fault of a computation is one of the run -/
theorem follows_mapError {x y : Except Fault Float} (h : Alike x y)
    (f : Float → List (Option Float)) :
    Follows RunError.Similar id ((x.mapError RunError.fault).map f)
      ((y.mapError RunError.fault).map f) := by
  cases h with
  | ok x => exact .ok _
  | error hkind => exact .error (.fault hkind)

theorem follows_runOperator (t : Token) (a b : Option Float) (f : Float → List (Option Float)) :
    Follows RunError.Similar id ((runOperator t a b).map f)
      ((runOperator t.respell a b).map f) := by
  have hop : Operator.ofText? t.respell.text = Operator.ofText? t.text :=
    Operator.ofText?_respell t.text
  unfold runOperator
  rw [hop]
  cases Operator.ofText? t.text with
  | none => exact .error (.refl _)
  | some op =>
    match a, b with
    | some a, some b => exact follows_mapError (op.alike_compute _ _ a b) f
    | none, some b =>
      show Follows _ _ (Except.map f (if _ then _ else _)) (Except.map f (if _ then _ else _))
      split
      · exact .error (.refl _)
      · exact .error (.refl _)
    | some a, none => exact .error (.refl _)
    | none, none => exact .error (.refl _)

theorem follows_runFunction (lib : TrigLibrary) (t : Token) (x : Option Float)
    (f : Float → List (Option Float)) :
    Follows RunError.Similar id ((runFunction lib t x).map f)
      ((runFunction lib t.respell x).map f) := by
  have hf : Trig.ofText? t.respell.text = Trig.ofText? t.text := Trig.ofText?_respell t.text
  unfold runFunction
  rw [hf]
  match Trig.ofText? t.text, x with
  | none, _ => exact .error (.refl _)
  | some _, none => exact .error (.refl _)
  | some g, some x => exact follows_mapError (alike_check _ _ _ _ _) f

theorem follows_step (lib : TrigLibrary) (stack : List (Option Float)) (t : Token) :
    Follows RunError.Similar id (step lib stack t) (step lib stack t.respell) := by
  have hkind : t.respell.kind = t.kind := rfl
  unfold step
  rw [hkind]
  match t.kind, stack with
  | .number, _ | .constant, _ => exact .of_eq rfl
  | .operator, b :: a :: stack => exact follows_runOperator t a b _
  | .operator, [_] | .operator, [] => exact .error (.fault rfl)
  | .function, x :: stack => exact follows_runFunction lib t x _
  | .function, [] => exact .error (.fault rfl)
  | .openParen, _ | .closeParen, _ => exact .error (.fault rfl)

theorem follows_run (lib : TrigLibrary) (ts : List Token) :
    Follows RunError.Similar id (run lib ts) (run lib (ts.map Token.respell)) := by
  have hfold := Follows.foldlM (ψ := Token.respell) (follows_step lib) ts []
  unfold run
  generalize ts.foldlM (step lib) [] = x at hfold ⊢
  rw [id] at hfold
  generalize (ts.map Token.respell).foldlM (step lib) [] = y at hfold ⊢
  cases hfold with
  | error h => exact .error h
  | ok stack =>
    match stack with
    | [x] => exact .ok x
    | [] | _ :: _ :: _ => exact .error (.fault rfl)

end Rpn

/-! ## Main result -/

namespace Expression

theorem follows_rpn (t : Text) :
    Follows Fault.Similar (List.map Token.respell) (rpn t) (rpn (respell t)) := by
  have htokens := Token.follows_ofText t
  unfold rpn
  rw [isBlankText_respell]
  split
  · exact .error rfl
  · generalize Token.ofText t = x at htokens ⊢
    generalize Token.ofText (respell t) = y at htokens ⊢
    cases htokens with
    | ok ts => exact Rpn.follows_ofInfix ts
    | error hkind => exact .error hkind

theorem follows_evaluate (lib : TrigLibrary) (t : Text) :
    Follows RunError.Similar id (evaluate lib t) (evaluate lib (respell t)) := by
  have hrpn := follows_rpn t
  unfold evaluate
  generalize rpn t = x at hrpn ⊢
  generalize rpn (respell t) = y at hrpn ⊢
  cases hrpn with
  | ok ts => exact Rpn.follows_run lib ts
  | error hkind => exact .error (.fault hkind)

theorem validate_respell (t : Text) : validate (respell t) = validate t := by
  have htokens := Token.follows_ofText t
  unfold validate
  rw [isBlankText_respell]
  split
  · rfl
  · generalize Token.ofText t = x at htokens ⊢
    generalize Token.ofText (respell t) = y at htokens ⊢
    cases htokens with
    | ok ts =>
      show isBalanced (ts.map Token.respell) = isBalanced ts
      rw [isBalanced, List.foldlM_map]
      rfl
    | error hkind => rfl

/-- **Spelling does not matter**: a text and the same text in the usual spelling have the same
value, or both have none, for faults of the same kind; and either both are valid or neither is. -/
theorem evaluate_respell (lib : TrigLibrary) (t : Text) :
    ((∃ x, evaluate lib t = .ok (some x) ∧ evaluate lib (respell t) = .ok (some x)) ∨
      ∃ f g, evaluate lib t = .error (.fault f) ∧ evaluate lib (respell t) = .error (.fault g) ∧
        f.kind = g.kind) ∧
    validate (respell t) = validate t := by
  refine ⟨?_, validate_respell t⟩
  have hfollows := follows_evaluate lib t
  rcases value_or_fault lib t with ⟨x, hx⟩ | ⟨f, hf⟩
  · rw [hx] at hfollows ⊢
    generalize evaluate lib (respell t) = y at hfollows ⊢
    cases hfollows
    exact .inl ⟨x, rfl, rfl⟩
  · rw [hf] at hfollows ⊢
    generalize evaluate lib (respell t) = y at hfollows ⊢
    cases hfollows with
    | error h =>
      cases h with
      | fault hkind => exact .inr ⟨_, _, rfl, rfl, hkind⟩
      | refl => exact .inr ⟨_, _, rfl, rfl, rfl⟩

end Expression
end PocketCalc
