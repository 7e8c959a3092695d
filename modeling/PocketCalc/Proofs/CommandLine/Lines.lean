import Mathlib
import PocketCalc.CommandLine.Session
import PocketCalc.Proofs.Retention

/-!
# Lines of a session

What a session does with the lines it is given, one after the other, and what it writes.

* `Report.append_assoc`, ...   output is put together in order;
* `Session.start_of_size`      a session starts with empty logs;
* `Session.lines_append`       lines that follow other lines;
* `Options.Reads`              the lines that a session is given, with no interruption among them;
* `run_of_reads`               what the session comes to then.
-/

namespace PocketCalc.CommandLine
open Text Keypad

/-! ## Output -/

namespace Report

@[simp]
theorem append_empty (r : Report) : r ++ {} = r := by
  show Report.mk (r.out ++ []) (r.err ++ []) = r
  rw [List.append_nil, List.append_nil]

@[simp]
theorem empty_append (r : Report) : {} ++ r = r := rfl

theorem append_assoc (a b c : Report) : a ++ b ++ c = a ++ (b ++ c) := by
  show Report.mk (a.out ++ b.out ++ c.out) (a.err ++ b.err ++ c.err) =
    ⟨a.out ++ (b.out ++ c.out), a.err ++ (b.err ++ c.err)⟩
  rw [List.append_assoc, List.append_assoc]

end Report

/-! ## Blank lines -/

theorem trim_of_isBlankText {t : Text} (h : isBlankText t = true) : trim t = [] := by
  have hdrop : t.dropWhile isBlank = [] :=
    List.dropWhile_eq_nil_iff.mpr (List.all_eq_true.mp h)
  rw [trim, hdrop]
  rfl

namespace Session

theorem step_of_isBlankText (u : Setup) (m : Mode) (k : Keypad) {l : Text}
    (h : isBlankText l = true) : step u m k l = (k, {}) := by
  rw [step, if_pos h]

theorem step_of_not_isBlankText (u : Setup) (m : Mode) (k : Keypad) {l : Text}
    (h : isBlankText l = false) : step u m k l = handleLine u m k (trim l) := by
  rw [step, h, if_neg Bool.false_ne_true]

/-! ## One line behind the other -/

variable (u : Setup) (m : Mode) (k : Keypad)

theorem lines_nil : lines u m k [] = (k, {}) := rfl

/-- what is written in front of some lines stays in front -/
theorem foldl_lines (ls : List Text) : ∀ (k : Keypad) (r : Report),
    ls.foldl (fun (k, r) l => let (k, r') := step u m k l; (k, r ++ r')) (k, r) =
      ((lines u m k ls).1, r ++ (lines u m k ls).2) := by
  induction ls with
  | nil =>
    intro k r
    rw [lines_nil, Report.append_empty]
    rfl
  | cons l ls ih =>
    intro k r
    rw [lines, List.foldl_cons, List.foldl_cons, ih, ih, Report.empty_append, Report.append_assoc]

theorem lines_cons (l : Text) (ls : List Text) :
    lines u m k (l :: ls) =
      ((lines u m (step u m k l).1 ls).1,
        (step u m k l).2 ++ (lines u m (step u m k l).1 ls).2) := by
  rw [lines, List.foldl_cons, foldl_lines, Report.empty_append]

/-- the lines behind go on with the keypad that the lines in front have left -/
theorem lines_append (as bs : List Text) :
    lines u m k (as ++ bs) =
      ((lines u m (lines u m k as).1 bs).1,
        (lines u m k as).2 ++ (lines u m (lines u m k as).1 bs).2) := by
  rw [lines, List.foldl_append, foldl_lines, foldl_lines, Report.empty_append]

theorem lines_singleton (l : Text) : lines u m k [l] = step u m k l := by
  rw [lines_cons, lines_nil, Report.append_empty]

end Session

/-! ## Sessions -/

/-- a session has an empty history of the size that was asked for -/
theorem Session.start_of_size {o : Options} {n : Nat} (hsize : o.historySize = some (n : Int))
    (hpos : 0 < n) (hmax : n ≤ Log.maxCapacity) :
    start o = .ok { history := Log.empty n hpos } := by
  rw [start, hsize]
  simp only [Log.ofCapacity_of_pos hpos hmax]

/-- the lines that a session is given, those among its arguments or else its input; at a prompt none
of them is an interruption -/
def Options.Reads (o : Options) (input ls : List Text) : Prop :=
  o.expressions.getD input = ls ∧ (o.prompts = true → interrupt ∉ ls)

/-- a session without an interruption: what comes first, the lines, and perhaps a listing -/
theorem run_of_reads {o : Options} {s : Settings} {input ls : List Text} {k : Keypad}
    (hstart : Session.start o = .ok k) (hreads : o.Reads input ls) :
    run o s input =
      let (k, r) := Session.lines ⟨s, o.verbose⟩ o.mode k ls
      let r := Session.opening o.mode ++ r
      .ok ⟨if o.showHistory then r ++ Session.closing o.verbose k else r, 0⟩ := by
  obtain ⟨hls, hinterrupt⟩ := hreads
  unfold run
  rw [hstart, hls]
  cases hprompts : o.prompts with
  | false => rfl
  | true =>
    have hnot := hinterrupt hprompts
    have hcontains : ls.contains interrupt = false := by
      rw [← Bool.not_eq_true, List.contains_iff_mem]
      exact hnot
    have hall : ls.takeWhile (· ≠ interrupt) = ls := by
      rw [List.takeWhile_eq_self_iff]
      intro l hl
      exact decide_eq_true fun heq => hnot (heq ▸ hl)
    simp only [hcontains, hall, Bool.and_false, Bool.false_and, if_true]
    rfl

end PocketCalc.CommandLine
