import PocketCalc.Proofs.Grammar

/-!
# What can be converted, and what becomes of it

The conversion to reverse Polish order finds a parenthesis without its partner on a stack that holds
operators and functions as well; a check that only counts finds it in the depth.  The two agree
step by step, since the depth is the number of parentheses on the stack.  What does convert comes
out as it went in, but for the parentheses and the order.

* `Yard.exists_step`            a token that the count lets through is taken up;
* `Rpn.exists_ofInfix_iff`      the token lists that can be converted;
* `validate_iff_exists_rpn`     the check of a text tells whether it can be converted;
* `Yard.Filed`                  what stands among the tokens put out and those held back;
* `Rpn.perm_of_ofInfix`         the converted tokens are those converted.
-/

namespace PocketCalc
open Infix Expression

/-! ## The count and the stack -/

namespace Yard
open Rpn

/-- the stack is searched for the parenthesis that the count knows of -/
theorem exists_step_closing {y : Yard} {t : Token} (ht : t.kind = .closeParen)
    (hopen : opens y.held ≠ 0) : ∃ y', y.step t = .ok y' := by
  obtain ⟨ops, held, hheld, hops, -, hrelease⟩ := release_cases isInner y
  simp only [step, ht, hrelease]
  rcases held with _ | ⟨u, _ | ⟨f, held⟩⟩
  · rw [List.append_nil] at hheld
    exact absurd (opens_of_inner (hheld ▸ hops)) hopen
  · exact ⟨_, rfl⟩
  · simp only
    split
    · exact ⟨_, rfl⟩
    · exact ⟨_, rfl⟩

/-- a token that the count lets through is taken up, if its operator can be read -/
theorem exists_step {y : Yard} {t : Token} {d : Nat} (ht : t.Legible)
    (hd : depthAfter (opens y.held) t = some d) : ∃ y', y.step t = .ok y' := by
  cases hk : t.kind with
  | number | constant | function | openParen => simp [step, hk]
  | operator =>
    obtain ⟨op, hop⟩ := Option.isSome_iff_exists.mp (ht.operator hk)
    simp [step, hk, Operator.find, hop]
  | closeParen =>
    apply exists_step_closing hk
    intro hzero
    simp [hzero, depthAfter, hk] at hd

/-- the run follows the count as far as that goes -/
theorem exists_foldlM {ts : List Token} : ∀ {y : Yard} {d : Nat}, (∀ t ∈ ts, t.Legible) →
    ts.foldlM depthAfter (opens y.held) = some d → ∃ y', ts.foldlM step y = .ok y' := by
  induction ts with
  | nil => exact fun _ _ => ⟨_, rfl⟩
  | cons t ts ih =>
    intro y d hts hd
    rw [List.foldlM_cons] at hd
    cases hdepth : depthAfter (opens y.held) t with
    | none =>
      rw [hdepth] at hd
      cases hd
    | some d₁ =>
      rw [hdepth] at hd
      obtain ⟨y₁, hy₁⟩ := exists_step (hts t List.mem_cons_self) hdepth
      rw [depthAfter_step hy₁] at hdepth
      cases hdepth
      obtain ⟨y', hy'⟩ := ih (fun u hu => hts u (List.mem_cons_of_mem t hu)) hd
      exact ⟨y', by rw [List.foldlM_cons, hy₁]; exact hy'⟩

end Yard

namespace Rpn

/-- nothing is left open where the count ends at zero, so the last tokens can be put out -/
theorem inner_of_opens_eq_zero {ts : List Token} (h : opens ts = 0) :
    ts.all Yard.isInner = true := by
  rw [opens, List.countP_eq_zero] at h
  rw [List.all_eq_true]
  intro t ht
  simpa using h t ht

/-- tokens that can be read are converted exactly if their parentheses match -/
theorem exists_ofInfix_iff {ts : List Token} (hts : ∀ t ∈ ts, t.Legible) :
    (∃ us, ofInfix ts = .ok us) ↔ isBalanced ts = true := by
  constructor
  · rintro ⟨us, hus⟩
    exact (kept_of_ofInfix hus).1
  · intro h
    rw [isBalanced, beq_iff_eq] at h
    have hopens : opens ({} : Yard).held = 0 := rfl
    obtain ⟨y, hy⟩ := Yard.exists_foldlM hts (hopens.symm ▸ h)
    have hfresh : Kept [] {} := ⟨rfl, rfl, rfl, .refl _⟩
    have hdepth : ts.foldlM depthAfter 0 = some (opens y.held) := (hfresh.foldlM hy).depth
    rw [h, Option.some.injEq] at hdepth
    simp [ofInfix, hy, Yard.finish, inner_of_opens_eq_zero hdepth.symm]

end Rpn

/-- **The check tells whether a text can be converted**: it passes exactly the texts that have a
reverse Polish order. -/
theorem Expression.validate_iff_exists_rpn (t : Text) :
    validate t = true ↔ ∃ us, rpn t = .ok us := by
  unfold validate rpn
  cases t.isBlankText with
  | true => exact ⟨nofun, nofun⟩
  | false =>
    cases hts : Token.ofText t with
    | error f => exact ⟨nofun, nofun⟩
    | ok ts => exact (Rpn.exists_ofInfix_iff (Token.legible_of_ofText hts)).symm

/-! ## What is put out -/

namespace Yard

/-- neither an opening nor a closing parenthesis -/
def NoParen (t : Token) : Prop := t.kind ≠ .openParen ∧ t.kind ≠ .closeParen

/-- no parenthesis is put out, and no closing one is held back -/
structure Filed (y : Yard) : Prop where
  output : ∀ t ∈ y.output, NoParen t
  held : ∀ t ∈ y.held, t.kind ≠ .closeParen

theorem noParen_of_isInner {t : Token} (h : isInner t = true) (hc : t.kind ≠ .closeParen) :
    NoParen t :=
  ⟨by simpa [isInner] using h, hc⟩

theorem Filed.step {y y' : Yard} {t : Token} (h : y.Filed) (hstep : y.step t = .ok y') :
    y'.Filed := by
  have hheld := h.held
  have hreleased : ∀ {ops : List Token}, ops ⊆ y.held → (∀ u ∈ ops, isInner u = true) →
      ∀ u ∈ ops.reverse ++ y.output, NoParen u := by
    intro ops hsub hops u hu
    rcases List.mem_append.mp hu with hu | hu
    · have hu := List.mem_reverse.mp hu
      exact noParen_of_isInner (hops u hu) (hheld u (hsub hu))
    · exact h.output u hu
  rcases step_cases hstep with ⟨ht, rfl⟩ | ⟨-, hc, ops, held, heq, hops, rfl⟩ |
    ⟨-, ops, opening, fs, held, heq, -, hops, rfl⟩
  · refine ⟨?_, hheld⟩
    intro u hu
    rcases List.mem_cons.mp hu with rfl | hu
    · constructor <;> intro hk <;> rw [hk] at ht <;> cases ht
    · exact h.output u hu
  · refine ⟨hreleased (heq ▸ List.subset_append_left ops held) hops, ?_⟩
    intro u hu
    rcases List.mem_cons.mp hu with rfl | hu
    · exact hc
    · exact hheld u (heq ▸ List.mem_append_right ops hu)
  · have hsub : ops ++ fs ⊆ y.held := by
      rw [heq]
      intro u hu
      rcases List.mem_append.mp hu with hu | hu
      · exact List.mem_append_left _ hu
      · exact List.mem_append_right _ (List.mem_cons_of_mem _ (List.mem_append_left _ hu))
    refine ⟨hreleased hsub hops, ?_⟩
    intro u hu
    rw [heq] at hheld
    exact hheld u (List.mem_append_right _ (List.mem_cons_of_mem _ (List.mem_append_right _ hu)))

theorem Filed.foldlM {ts : List Token} : ∀ {y y' : Yard}, y.Filed →
    ts.foldlM Yard.step y = .ok y' → y'.Filed := by
  induction ts with
  | nil =>
    intro y y' h hts
    cases hts
    exact h
  | cons t ts ih =>
    intro y y' h hts
    rw [List.foldlM_cons] at hts
    cases hstep : y.step t with
    | error f =>
      rw [hstep] at hts
      cases hts
    | ok y₁ =>
      rw [hstep] at hts
      exact ih (h.step hstep) hts

end Yard

namespace Rpn

/-- no parenthesis comes out of a conversion -/
theorem noParen_of_ofInfix {ts us : List Token} (h : ofInfix ts = .ok us) :
    ∀ t ∈ us, Yard.NoParen t := by
  unfold ofInfix at h
  split at h
  case h_2 => cases h
  rename_i y hy
  have hfresh : Yard.Filed {} := ⟨nofun, nofun⟩
  obtain ⟨houtput, hheld⟩ := hfresh.foldlM hy
  unfold Yard.finish at h
  split at h
  case isFalse => cases h
  rename_i hinner
  rw [List.all_eq_true] at hinner
  cases h
  intro t ht
  rw [List.mem_reverse, Yard.release, List.mem_append, List.mem_reverse] at ht
  rcases ht with ht | ht
  · have ht := (List.takeWhile_prefix _).subset ht
    exact Yard.noParen_of_isInner (hinner t ht) (hheld t ht)
  · exact houtput t ht

/-- **The conversion neither loses nor invents a token**: what comes out is what went in without its
parentheses in another order, and its numbers and constants are in the order they went in. -/
theorem perm_of_ofInfix {ts us : List Token} (h : ofInfix ts = .ok us) :
    us.Perm (withoutParens ts) ∧ values us = values ts := by
  obtain ⟨-, hvalues, htokens⟩ := kept_of_ofInfix h
  have hself : withoutParens us = us := by
    rw [withoutParens, List.filter_eq_self]
    intro t ht
    simpa [Yard.NoParen] using noParen_of_ofInfix h t ht
  rw [hself] at htokens
  exact ⟨htokens, hvalues⟩

/-- `× 1 ( sin + 2 ) 3` is no expression, and is converted all the same: the function is not behind
the parenthesis, so the closing one puts it out with the sign. -/
theorem perm_of_ofInfix_scrambled :
    let ts : List Token :=
      [⟨.operator, ['×'], none⟩, ⟨.number, ['1'], some 1⟩, opening,
        ⟨.function, ['s', 'i', 'n'], none⟩, ⟨.operator, ['+'], none⟩, ⟨.number, ['2'], some 2⟩,
        closing, ⟨.number, ['3'], some 3⟩]
    let us : List Token :=
      [⟨.number, ['1'], some 1⟩, ⟨.number, ['2'], some 2⟩, ⟨.operator, ['+'], none⟩,
        ⟨.function, ['s', 'i', 'n'], none⟩, ⟨.number, ['3'], some 3⟩, ⟨.operator, ['×'], none⟩]
    ofInfix ts = .ok us ∧ us.Perm (withoutParens ts) ∧ values us = values ts := by
  intro ts us
  have h : ofInfix ts = .ok us := eq_ok_of_toOption (by decide +kernel)
  exact ⟨h, perm_of_ofInfix h⟩

end Rpn
end PocketCalc
