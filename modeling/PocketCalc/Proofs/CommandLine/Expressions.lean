import PocketCalc.Proofs.CommandLine.Lines
import PocketCalc.Proofs.Grammar

/-!
# Lines as expressions

Each line is an expression by itself.  What is written of it does not depend on the lines in front
of it; they share the two logs alone, and a line without a value leaves no calculation behind.

* `calculation?`       the calculation of a line that has a value;
* `reportOf`           what is written of some lines;
* `report_lines`       it is written whatever was evaluated before;
* `history_lines`      the history is that of the calculations, one pushed behind the other;
* `run_expressions`    a whole session, with the listing at its end.
-/

namespace PocketCalc.CommandLine
open Text Keypad

/-- the calculation of a line that has a value -/
def calculation? (s : Settings) (l : Text) : Option Operation :=
  match Expression.evaluate s.lib (trim l) with
  | .ok (some x) => some ⟨trim l, x, s.now⟩
  | _ => none

/-- what is written of some lines in a session that begins with them -/
def reportOf (s : Settings) (ls : List Text) : Report :=
  (Session.lines ⟨s, false⟩ .evaluate {} ls).2

namespace Session

/-! ## One line -/

theorem report_step (s : Settings) (k : Keypad) (l : Text) :
    (step ⟨s, false⟩ .evaluate k l).2 = reportOf s [l] := by
  rw [reportOf, lines_singleton]
  unfold step
  split
  · rfl
  · simp only [handleLine, evaluateLine]
    split <;> rfl

theorem history_step (s : Settings) (k : Keypad) (l : Text) :
    (step ⟨s, false⟩ .evaluate k l).1.history =
      match calculation? s l with
      | some o => k.history.push o
      | none => k.history := by
  cases hblank : isBlankText l with
  | true =>
    rw [step_of_isBlankText _ _ k hblank, calculation?, trim_of_isBlankText hblank]
    rfl
  | false =>
    rw [step_of_not_isBlankText _ _ k hblank]
    simp only [handleLine, evaluateLine, calculation?]
    rcases Expression.value_or_fault s.lib (trim l) with ⟨x, hx⟩ | ⟨f, hf⟩
    · rw [hx]
      rfl
    · rw [hf]
      rfl

/-! ## All lines -/

theorem report_lines (s : Settings) (ls : List Text) : ∀ k : Keypad,
    (lines ⟨s, false⟩ .evaluate k ls).2 = reportOf s ls := by
  induction ls with
  | nil => exact fun _ => rfl
  | cons l ls ih =>
    intro k
    rw [reportOf, lines_cons, lines_cons, ih, ih, report_step, report_step]

theorem history_lines (s : Settings) (ls : List Text) : ∀ k : Keypad,
    (lines ⟨s, false⟩ .evaluate k ls).1.history =
      ((ls.filterMap (calculation? s)).map .add).foldl Log.change k.history := by
  induction ls with
  | nil => exact fun _ => rfl
  | cons l ls ih =>
    intro k
    rw [lines_cons, ih, history_step, List.filterMap_cons]
    cases calculation? s l with
    | none => rfl
    | some o => rfl

end Session

theorem reportOf_append (s : Settings) (as bs : List Text) :
    reportOf s (as ++ bs) = reportOf s as ++ reportOf s bs := by
  rw [reportOf, Session.lines_append, Session.report_lines, Session.report_lines]

theorem reportOf_of_isBlankText (s : Settings) {l : Text} (h : isBlankText l = true) :
    reportOf s [l] = {} := by
  rw [reportOf, Session.lines_singleton, Session.step_of_isBlankText _ _ _ h]

/-- a line that is not blank is answered in one line, by its value or by what is wrong with it -/
theorem reportOf_cases (s : Settings) {l : Text} (h : isBlankText l = false) :
    (∃ x, Expression.evaluate s.lib (trim l) = .ok (some x) ∧
      reportOf s [l] = ⟨[Format.result x], []⟩) ∨
    ∃ f, Expression.evaluate s.lib (trim l) = .error (.fault f) ∧
      reportOf s [l] = ⟨[], [f.message.toList]⟩ := by
  rw [reportOf, Session.lines_singleton, Session.step_of_not_isBlankText _ _ _ h]
  simp only [Session.handleLine, Session.evaluateLine]
  rcases Expression.value_or_fault s.lib (trim l) with ⟨x, hx⟩ | ⟨f, hf⟩
  · rw [hx]
    exact .inl ⟨x, rfl, rfl⟩
  · rw [hf]
    exact .inr ⟨f, rfl, rfl⟩

/-- the history behind some lines holds the newest of their calculations -/
theorem retains_lines (s : Settings) (ls : List Text) {n : Nat} (hn : 0 < n) :
    let h := (Session.lines ⟨s, false⟩ .evaluate { history := Log.empty n hn } ls).1.history
    h.Retains (ls.filterMap (calculation? s)) ∧ h.capacity = n := by
  simp only [Session.history_lines]
  refine ⟨?_, Log.capacity_changes _ _⟩
  have hretains := (Log.retains_empty n hn).changes ((ls.filterMap (calculation? s)).map .add)
  rw [Log.sinceClear_add, List.nil_append] at hretains
  exact hretains

/-! ## Main result -/

/-- **Lines are independent**: there is a report for every list of lines, that of two lists one
behind the other is both reports one behind the other, and a session, with a history of any size
there can be, writes the report of the lines it reads.  A blank line is not answered, any other is
answered in one line: by its value on the output, or by the message of its fault on the error
output.  At the end of a session that lists them stand the calculations of the lines that had a
value, the newest ones in their order, as many as the history has room for. -/
theorem run_expressions (s : Settings) :
    ∃ report : List Text → Report,
      (∀ as bs, report (as ++ bs) = report as ++ report bs) ∧
      (∀ l, isBlankText l = true → report [l] = {}) ∧
      (∀ l, isBlankText l = false →
        (∃ x, Expression.evaluate s.lib (trim l) = .ok (some x) ∧
          report [l] = ⟨[Format.result x], []⟩) ∨
        ∃ f, Expression.evaluate s.lib (trim l) = .error (.fault f) ∧
          report [l] = ⟨[], [f.message.toList]⟩) ∧
      ∀ (o : Options) (n : Nat) (input ls : List Text), o.mode = .evaluate → o.verbose = false →
        o.historySize = some (n : Int) → 0 < n → n ≤ Log.maxCapacity → o.Reads input ls →
        (o.showHistory = false → run o s input = .ok ⟨report ls, 0⟩) ∧
        (o.showHistory = true →
          ∃ listed, listed <:+ ls.filterMap (calculation? s) ∧
            listed.length = min n (ls.filterMap (calculation? s)).length ∧
            run o s input = .ok ⟨report ls ++ ⟨listed.map Operation.text, []⟩, 0⟩) := by
  refine ⟨reportOf s, reportOf_append s, fun l => reportOf_of_isBlankText s,
    fun l => reportOf_cases s, ?_⟩
  intro o n input ls hmode hverbose hsize hpos hmax hreads
  have hrun := run_of_reads (s := s) (Session.start_of_size hsize hpos hmax) hreads
  obtain ⟨hretains, hcapacity⟩ := retains_lines s ls hpos
  simp only [hmode, hverbose, Session.report_lines, Session.opening, Report.empty_append] at hrun
  constructor
  · intro hquiet
    rw [hrun, hquiet]
    rfl
  · intro hlisting
    refine ⟨_, hretains.suffix, ?_, ?_⟩
    · exact hretains.size_eq.trans (by rw [hcapacity])
    · rw [hrun, hlisting]
      rfl

/-- Four lines, one of them blank and one without a value, with a history of one: the listing holds
the last calculation alone. -/
theorem run_expressions_four :
    let s : Settings := { lib := ⟨id, id, id, id, id, id⟩ }
    let ls : List Text := ["2+3".toList, [' '], "1÷0".toList, " 4×2".toList]
    let o : Options := { showHistory := true, historySize := some 1, expressions := some ls }
    o.Reads [] ls ∧
      ls.filterMap (calculation? s) = [⟨"2+3".toList, 5, s.now⟩, ⟨"4×2".toList, 8, s.now⟩] ∧
      ∃ report : List Text → Report,
        report [[' ']] = {} ∧
        report ["1÷0".toList] = ⟨[], ["Cannot divide by zero".toList]⟩ ∧
        run o s [] = .ok ⟨report ls ++ ⟨["4×2 = 8 (00:00:00)".toList], []⟩, 0⟩ := by
  intro s ls o
  have hreads : o.Reads [] ls := ⟨rfl, nofun⟩
  have hcalculations : ls.filterMap (calculation? s) =
      [⟨"2+3".toList, 5, s.now⟩, ⟨"4×2".toList, 8, s.now⟩] := by decide +kernel
  obtain ⟨report, -, hblank, hline, hrun⟩ := run_expressions s
  obtain ⟨listed, hsuffix, hlength, hlisting⟩ :=
    (hrun o 1 [] ls rfl rfl rfl Nat.one_pos (by decide) hreads).2 rfl
  rw [hcalculations] at hsuffix hlength
  have hlisted : listed = [⟨"4×2".toList, 8, s.now⟩] := by
    rw [List.suffix_iff_eq_drop.mp hsuffix, hlength]
    rfl
  have htext : listed.map Operation.text = ["4×2 = 8 (00:00:00)".toList] := by
    rw [hlisted]
    decide +kernel
  refine ⟨hreads, hcalculations, report, hblank _ (by decide +kernel), ?_, ?_⟩
  · have hmessage : (match Expression.evaluate s.lib (trim "1÷0".toList) with
        | .error (.fault f) => some f.message
        | _ => none) = some "Cannot divide by zero" := by decide +kernel
    rcases hline "1÷0".toList (by decide +kernel) with ⟨x, hx, -⟩ | ⟨f, hf, hreport⟩
    · rw [hx] at hmessage
      cases hmessage
    · rw [hf] at hmessage
      rw [hreport, Option.some.inj hmessage]
  · rw [hlisting, htext]

example :
    (run { expressions := some ["2+3".toList, [' '], "1÷0".toList, " 4×2".toList] }
      { lib := ⟨id, id, id, id, id, id⟩ } []).toOption =
      some ⟨⟨[['5'], ['8']], ["Cannot divide by zero".toList]⟩, 0⟩ := by
  decide +kernel

end PocketCalc.CommandLine
