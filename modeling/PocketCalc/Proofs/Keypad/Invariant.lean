import PocketCalc.Proofs.Keypad.Refusal

/-!
# What a state shows on every run

What the keys keep, said of the fields themselves and of any events, step by step: also of those
that break off and leave the keypad as their steps have left it.

* `violations_after`    the documented invariants, as they are checked and as they are meant;
* `scopeShape_after`    the entry and the scope hold the same text.
-/

namespace PocketCalc.Keypad
open Text

/-- **The documented invariants hold on every run**: nothing is found wrong with the state, for an
operator that is set is known, so is the function of a scope that is set, and no scope is both open
and closed. -/
theorem violations_after (s : Settings) (history : History) (errors : ErrorLog)
    (es : List Signal) :
    let st := (es.foldl (Program.after s) (.fresh history errors)).state
    st.violations = [] ∧
      (st.operatorSet = true → ∃ op, st.operator = some op) ∧
      (st.scope.isSet = true → ∃ f, st.scope.function = some f) ∧
      ¬ (st.scope.isOpen = true ∧ st.scope.isClosed = true) := by
  intro st
  have hsound : st.Sound := (Program.reached_foldl_after es (.fresh history errors)).sound
  have hnone : st.violations = [] := hsound.violations_eq_nil
  obtain ⟨hoperator, hfunction, hboth⟩ := (State.violations_eq_nil_iff st).mp hnone
  exact ⟨hnone, fun h => Option.isSome_iff_exists.mp (hoperator h),
    fun h => Option.isSome_iff_exists.mp (hfunction h), hboth⟩

/-- **The entry and the scope never drift apart**: on every run, while no error is shown, the entry
ends in the open scope as the scope's own fields have it, a closed scope has its parenthesis behind
it, and without a scope there is no parenthesis in the entry. -/
theorem scopeShape_after (s : Settings) (history : History) (errors : ErrorLog)
    (es : List Signal) :
    let st := (es.foldl (Program.after s) (.fresh history errors)).state
    st.failed = false →
      (st.scope.isOpen = true → ∃ p f, st.scope.function = some f ∧ st.scope.isSet = true ∧
        Plain p ∧ st.buffer = p ++ f.name ++ '(' :: st.scope.text) ∧
      (st.scope.isClosed = true → ∃ p f, st.scope.function = some f ∧ Plain p ∧
        st.buffer = p ++ f.name ++ '(' :: st.scope.text ++ [')']) ∧
      (st.scope.isOpen = false → st.scope.isClosed = false → Plain st.buffer) := by
  intro st hf
  have hsound : st.Sound := (Program.reached_foldl_after es (.fresh history errors)).sound
  have hshape := (hsound.active hf).scope
  refine ⟨?_, ?_, ?_⟩
  · intro ho
    obtain ⟨p, f, -, hset, hfn, hp, -, hb⟩ := hshape.of_isOpen ho
    exact ⟨p, f, hfn, hset, hp, hb⟩
  · intro hc
    obtain ⟨p, f, -, -, hfn, hp, -, hb⟩ := hshape.of_isClosed hc
    exact ⟨p, f, hfn, hp, hb⟩
  · intro ho hc
    exact (hshape.plain ho hc).1

/-- `2 sin 30`, changed in sign: the scope holds `-30` and the entry `2sin(-30` -/
theorem scopeShape_after_sine :
    let s : Settings := { lib := ⟨id, id, id, id, id, id⟩ }
    let es : List Signal :=
      [⟨"digit", some (.number 2)⟩, ⟨"function", some (.text "sin".toList)⟩,
        ⟨"digit", some (.text ['3'])⟩, ⟨"digit", some (.text ['0'])⟩, ⟨"sign_toggle", none⟩]
    let st := (es.foldl (Program.after s) (.fresh .initial .initial)).state
    st.failed = false ∧ st.scope.isOpen = true ∧ st.scope.text = "-30".toList ∧
      ∃ p f, st.scope.function = some f ∧ st.scope.isSet = true ∧ Plain p ∧
        st.buffer = p ++ f.name ++ '(' :: st.scope.text := by
  intro s es st
  have hf : st.failed = false := by decide +kernel
  have ho : st.scope.isOpen = true := by decide +kernel
  exact ⟨hf, ho, by decide +kernel, (scopeShape_after s .initial .initial es hf).1 ho⟩

end PocketCalc.Keypad
