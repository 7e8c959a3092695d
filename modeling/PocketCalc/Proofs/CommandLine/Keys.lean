import PocketCalc.Proofs.CommandLine.Lines
import PocketCalc.Proofs.Keypad.Refusal
import PocketCalc.Proofs.Keypad.Unread

/-!
# Lines as keys

All lines go to one keypad, word by word, and a line ends in front of its first word that is no
command.  What the session reports of such words goes into the error log, which no key reads, so the
keypad does what it would do by itself with the same words.

* `words_trim`          blanks around a line hold no words;
* `commandsOf`          the words of a line in front of the first that is no command;
* `feedWords_eq`        the keys that they press, and the fault of that word;
* `relogged_lines`      the keypad behind some lines, beside one that is fed their commands;
* `report_lines_keys`   what is written of some lines;
* `run_keys`            a whole session.
-/

namespace PocketCalc

/-! ## Words -/

namespace Text

theorem words_of_isBlank {t : Text} (h : ∀ c ∈ t, isBlank c = true) : words t = [] := by
  rw [words]
  induction t with
  | nil => rfl
  | cons c t ih =>
    rw [wordsFrom, if_pos (h c List.mem_cons_self)]
    exact ih fun d hd => h d (List.mem_cons_of_mem c hd)

/-- blanks at the end of a text end its last word -/
theorem wordsFrom_append_blanks {u : Text} (hu : ∀ c ∈ u, isBlank c = true) (t : Text) :
    ∀ w : Text, wordsFrom w (t ++ u) = wordsFrom w t := by
  induction t with
  | nil =>
    intro w
    cases u with
    | nil => rfl
    | cons c u =>
      have hrest : wordsFrom [] u = [] :=
        words_of_isBlank fun d hd => hu d (List.mem_cons_of_mem c hd)
      simp only [List.nil_append, wordsFrom, hu c List.mem_cons_self, if_true, hrest]
  | cons c t ih =>
    intro w
    rw [List.cons_append, wordsFrom, wordsFrom, ih, ih]

theorem words_dropWhile_isBlank (t : Text) : words (t.dropWhile isBlank) = words t := by
  induction t with
  | nil => rfl
  | cons c t ih =>
    by_cases hc : isBlank c = true
    · rw [List.dropWhile_cons_of_pos hc, ih, words, words, wordsFrom, if_pos hc]
      rfl
    · rw [List.dropWhile_cons_of_neg hc]

theorem words_trim (t : Text) : words (trim t) = words t := by
  have hblank : ∀ c ∈ endingWhile isBlank (t.dropWhile isBlank), isBlank c = true := by
    intro c hc
    rw [endingWhile, List.mem_reverse] at hc
    exact List.mem_takeWhile_imp hc
  rw [← words_dropWhile_isBlank t, words, words, trim,
    ← wordsFrom_append_blanks hblank, trimEndWhile_append_endingWhile]

end Text

/-! ## Commands -/

namespace Keypad
open Text

/-- whether a word is a text command -/
def isCommand (w : Text) : Bool := (Command.events w).isOk

/-- the keys that a text command presses -/
def keysOf (w : Text) : List Key :=
  match Command.events w with
  | .ok es => es.filterMap fun e => e.key.toOption
  | .error _ => []

variable {s : Settings} {k : Keypad}

theorem foldlM_apply (s : Settings) {es : List Event} (hes : ∀ e ∈ es, ∃ key, e.key = .ok key) :
    ∀ k : Keypad, es.foldlM (apply s) k =
      .ok ((es.filterMap fun e => e.key.toOption).foldl (press s) k) := by
  induction es with
  | nil => exact fun _ => rfl
  | cons e es ih =>
    intro k
    obtain ⟨key, hkey⟩ := hes e List.mem_cons_self
    have htail := ih (fun e he => hes e (List.mem_cons_of_mem _ he)) (k.press s key)
    rw [List.foldlM_cons, apply_of_key s k hkey, List.filterMap_cons, hkey]
    exact htail

/-- a text command presses its keys -/
theorem feed_of_isCommand {w : Text} (h : isCommand w = true) (s : Settings) (k : Keypad) :
    k.feed s w = .ok ((keysOf w).foldl (press s) k) := by
  rw [feed, keysOf]
  cases hes : Command.events w with
  | error f =>
    rw [isCommand, hes] at h
    cases h
  | ok es => exact foldlM_apply s (Program.exists_key_of_events hes) k

theorem feed_of_not_isCommand {w : Text} (h : isCommand w = false) (s : Settings) (k : Keypad) :
    k.feed s w = .error (.unknownCommand w) := by
  rw [feed]
  cases hes : Command.events w with
  | error f => rw [Program.events_eq_error hes]
  | ok es =>
    rw [isCommand, hes] at h
    cases h

theorem foldlM_feed (s : Settings) {ws : List Text} (h : ∀ w ∈ ws, isCommand w = true) :
    ∀ k : Keypad, ws.foldlM (feed s) k = .ok ((ws.flatMap keysOf).foldl (press s) k) := by
  induction ws with
  | nil => exact fun _ => rfl
  | cons w ws ih =>
    intro k
    rw [List.foldlM_cons, feed_of_isCommand (h w List.mem_cons_self), List.flatMap_cons,
      List.foldl_append]
    exact ih (fun w hw => h w (List.mem_cons_of_mem _ hw)) _

/-- step by step a text command comes to the same, and none of its steps breaks off -/
theorem run_feed_of_isCommand (hk : Reached s k) {w : Text} (h : isCommand w = true) :
    (Program.feed s w).run k = .ok () ((keysOf w).foldl (press s) k) := by
  rw [Program.feed, keysOf]
  cases hes : Command.events w with
  | error f =>
    rw [isCommand, hes] at h
    cases h
  | ok es =>
    have hkeys := Program.exists_key_of_events hes
    obtain ⟨k', hrun, hfold⟩ := Program.run_forM_receive hkeys hk
    rw [foldlM_apply s hkeys] at hfold
    cases hfold
    exact hrun

theorem run_forM_feed {ws : List Text} (h : ∀ w ∈ ws, isCommand w = true) :
    ∀ {k : Keypad}, Reached s k →
      (ws.forM (Program.feed s)).run k = .ok () ((ws.flatMap keysOf).foldl (press s) k) := by
  induction ws with
  | nil => exact fun _ => rfl
  | cons w ws ih =>
    intro k hk
    have htail := ih (fun w hw => h w (List.mem_cons_of_mem _ hw)) (hk.foldl (keysOf w))
    show ((Program.feed s w) >>= fun _ => ws.forM (Program.feed s)).run k = _
    rw [EStateM.run_bind, run_feed_of_isCommand hk (h w List.mem_cons_self), List.flatMap_cons,
      List.foldl_append]
    exact htail

end Keypad

namespace CommandLine
open Text Keypad

/-- the words of a line in front of the first one that is no command -/
def commandsOf (l : Text) : List Text := (words l).takeWhile isCommand

/-- whether a word of a line is no command -/
def hasStray (l : Text) : Bool := (words l).any fun w => !isCommand w

/-- whether some lines end in one that is not blank -/
def endsAnswered (ls : List Text) : Bool := ls.getLast?.any fun l => !isBlankText l

theorem isCommand_of_mem_commandsOf {l w : Text} (h : w ∈ commandsOf l) : isCommand w = true :=
  List.mem_takeWhile_imp h

namespace Session

/-! ## One line -/

/-- the words in front of the first that is no command press their keys, and that one is a fault -/
theorem feedWords_eq (s : Settings) (ws : List Text) : ∀ k : Keypad,
    feedWords s k ws =
      (((ws.takeWhile isCommand).flatMap keysOf).foldl (press s) k,
        (ws.find? fun w => !isCommand w).map .unknownCommand) := by
  induction ws with
  | nil => exact fun _ => rfl
  | cons w ws ih =>
    intro k
    rw [feedWords]
    cases h : isCommand w with
    | false =>
      rw [feed_of_not_isCommand h, List.takeWhile_cons_of_neg (by simp [h]),
        List.find?_cons_of_pos (by simp [h])]
      rfl
    | true =>
      rw [feed_of_isCommand h, List.takeWhile_cons_of_pos h, List.find?_cons_of_neg (by simp [h]),
        List.flatMap_cons, List.foldl_append]
      exact ih _

/-- the keypad behind a line, beside the keys of the line: a stray word goes into the error log -/
theorem exists_errors_step (s : Settings) (k : Keypad) (l : Text) :
    ∃ e, (step ⟨s, false⟩ .keys k l).1 =
      { ((commandsOf l).flatMap keysOf).foldl (press s) k with errors := e } := by
  cases hblank : isBlankText l with
  | true =>
    rw [step_of_isBlankText _ _ k hblank, commandsOf, words_of_isBlank (List.all_eq_true.mp hblank)]
    exact ⟨k.errors, rfl⟩
  | false =>
    rw [step_of_not_isBlankText _ _ k hblank, handleLine, keysLine, words_trim, feedWords_eq,
      commandsOf]
    cases (words l).find? fun w => !isCommand w with
    | none => exact ⟨_, rfl⟩
    | some w => exact ⟨_, rfl⟩

/-- a line that is not blank is answered by the display, and a stray word in it by a message -/
theorem report_step_keys (s : Settings) (k : Keypad) (l : Text) :
    (step ⟨s, false⟩ .keys k l).2 =
      ⟨if isBlankText l then [] else [tabbed (step ⟨s, false⟩ .keys k l).1.display.lines],
        if hasStray l then ["Invalid operation".toList] else []⟩ := by
  cases hblank : isBlankText l with
  | true =>
    rw [step_of_isBlankText _ _ k hblank, hasStray, words_of_isBlank (List.all_eq_true.mp hblank)]
    rfl
  | false =>
    rw [step_of_not_isBlankText _ _ k hblank, handleLine, keysLine, words_trim, feedWords_eq,
      hasStray, ← List.isSome_find?]
    cases (words l).find? fun w => !isCommand w with
    | none => rfl
    | some w => rfl

/-! ## All lines -/

/-- a keypad that is fed the commands of some lines differs from that of the session in its logs
alone -/
theorem relogged_lines (s : Settings) {p : Prop} (ls : List Text) : ∀ {m k : Keypad},
    Relogged p m k →
    Relogged p (((ls.flatMap commandsOf).flatMap keysOf).foldl (press s) m)
      (lines ⟨s, false⟩ .keys k ls).1 := by
  induction ls with
  | nil => exact fun h => h
  | cons l ls ih =>
    intro m k h
    have hkeys := relogged_keys s ((commandsOf l).flatMap keysOf) h
    obtain ⟨e, he⟩ := exists_errors_step s k l
    rw [lines_cons, List.flatMap_cons, List.flatMap_append, List.foldl_append, he]
    generalize ((commandsOf l).flatMap keysOf).foldl (press s) m = m at hkeys ⊢
    generalize ((commandsOf l).flatMap keysOf).foldl (press s) k = k at hkeys ⊢
    obtain ⟨h, _, same⟩ := hkeys
    exact ih (.mk h e same)

/-- the display behind each line that is not blank, and a message for each line with a stray word -/
theorem report_lines_keys (s : Settings) (k : Keypad) (ls : List Text) :
    (lines ⟨s, false⟩ .keys k ls).2 =
      ⟨(ls.inits.filter endsAnswered).map fun read =>
          tabbed (lines ⟨s, false⟩ .keys k read).1.display.lines,
        List.replicate (ls.countP hasStray) "Invalid operation".toList⟩ := by
  induction ls using List.reverseRecOn with
  | nil => rfl
  | append_singleton ls l ih =>
    have hlast : endsAnswered (ls ++ [l]) = !isBlankText l := by
      rw [endsAnswered, List.getLast?_concat]
      rfl
    have hinits : (ls ++ [l]).inits = ls.inits ++ [ls ++ [l]] := by
      rw [List.inits_append]
      rfl
    have hbehind : (lines ⟨s, false⟩ .keys k (ls ++ [l])).1 =
        (step ⟨s, false⟩ .keys (lines ⟨s, false⟩ .keys k ls).1 l).1 := by
      rw [lines_append, lines_singleton]
    rw [lines_append, lines_singleton, ih, report_step_keys, hinits, List.filter_append,
      List.map_append, List.countP_append, List.replicate_add]
    refine congrArg₂ Report.mk (congrArg _ ?_) (congrArg _ ?_)
    · rw [List.filter_singleton, hlast]
      cases isBlankText l with
      | true => rfl
      | false =>
        show [_] = [tabbed (lines ⟨s, false⟩ .keys k (ls ++ [l])).1.display.lines]
        rw [hbehind]
    · rw [List.countP_singleton]
      cases hasStray l <;> rfl

end Session

/-! ## Main result -/

/-- **One keypad serves all lines** of a session, with a history of any size there can be: behind
any lines, state and display are those of a fresh keypad, whatever its logs hold, that is fed all
the words so far, those of each line up to the first that is no command, and no step of it breaks
off.  The history is the same too where the fresh keypad has one as empty and of the same size.
Entry, preview and trail are written behind every line that is not blank, in order, and a message
for every line with a word that is no command; nothing else is written, also where an error is on
display. -/
theorem run_keys (s : Settings) {o : Options} {n : Nat} {input ls : List Text}
    (hmode : o.mode = .keys) (hverbose : o.verbose = false) (hquiet : o.showHistory = false)
    (hsize : o.historySize = some (n : Int)) (hpos : 0 < n) (hmax : n ≤ Log.maxCapacity)
    (hreads : o.Reads input ls) (history : History) (errors : ErrorLog) :
    let start : Keypad := { history := Log.empty n hpos }
    ∃ machine : List Text → Keypad,
      (∀ read : List Text,
        let k := (Session.lines ⟨s, false⟩ .keys start read).1
        (read.flatMap commandsOf).foldlM (Keypad.feed s) (fresh history errors) =
          .ok (machine read) ∧
        ((read.flatMap commandsOf).forM (Program.feed s)).run (fresh history errors) =
          .ok () (machine read) ∧
        k.state = (machine read).state ∧ k.display = (machine read).display ∧
        (history = start.history → k.history = (machine read).history)) ∧
      run o s input =
        .ok ⟨⟨(ls.inits.filter endsAnswered).map fun read =>
            tabbed [(machine read).display.entry, (machine read).display.preview,
              (machine read).display.trail],
          List.replicate (ls.countP hasStray) "Invalid operation".toList⟩, 0⟩ := by
  intro start
  have hcommands : ∀ read : List Text, ∀ w ∈ read.flatMap commandsOf, isCommand w = true := by
    intro read w hw
    obtain ⟨l, -, hw⟩ := List.mem_flatMap.mp hw
    exact isCommand_of_mem_commandsOf hw
  have hbeside : ∀ read : List Text, Relogged (history = start.history)
      (((read.flatMap commandsOf).flatMap keysOf).foldl (press s) (fresh history errors))
      (Session.lines ⟨s, false⟩ .keys start read).1 :=
    fun read => Session.relogged_lines s read (.mk _ _ fun h => h.symm)
  refine ⟨fun read => ((read.flatMap commandsOf).flatMap keysOf).foldl (press s)
    (fresh history errors), fun read => ⟨?_, ?_, ?_, ?_, ?_⟩, ?_⟩
  · exact foldlM_feed s (hcommands read) _
  · exact run_forM_feed (hcommands read) (.fresh history errors)
  · exact (hbeside read).state
  · exact (hbeside read).display
  · exact (hbeside read).history
  · rw [run_of_reads (Session.start_of_size hsize hpos hmax) hreads, hmode, hverbose, hquiet]
    have hdisplay : ∀ read : List Text,
        (Session.lines ⟨s, false⟩ .keys { history := Log.empty n hpos } read).1.display = _ :=
      fun read => (hbeside read).display
    simp only [Session.report_lines_keys, Session.opening, Report.empty_append, hdisplay,
      Display.lines, Bool.false_eq_true, if_false]

/-- Three lines, one with a word that is no command and a blank one: the last one divides by zero,
which is on display and on no error output. -/
theorem run_keys_three :
    let s : Settings := { lib := ⟨id, id, id, id, id, id⟩ }
    let ls : List Text := ["2 sqrt 3".toList, [' '], "÷ 0 =".toList]
    let o : Options := { mode := .keys, expressions := some ls }
    o.Reads [] ls ∧ ∃ machine : List Text → Keypad,
      (machine (ls.take 1)).state.failed = false ∧ (machine ls).state.failed = true ∧
      (machine ls).display = ⟨['0'], "Cannot divide by zero".toList, "2÷".toList, true, some 15⟩ ∧
      run o s [] = .ok ⟨⟨["2\t2\t".toList, "0\tCannot divide by zero\t2÷".toList],
        ["Invalid operation".toList]⟩, 0⟩ := by
  intro s ls o
  have hreads : o.Reads [] ls := ⟨rfl, nofun⟩
  obtain ⟨machine, hmachine, hrun⟩ := run_keys s (o := o) (n := 100) rfl rfl rfl rfl (by decide)
    (by decide) hreads .initial .initial
  -- what the words of the lines lead to is evaluated; `machine` is only known to be that
  have hfirst : ((((ls.take 1).flatMap commandsOf).foldlM (Keypad.feed s)
      (fresh .initial .initial)).toOption.map fun k => (k.state.failed, k.display)) =
        some (false, ⟨['2'], ['2'], [], false, none⟩) := by decide +kernel
  have hall : (((ls.flatMap commandsOf).foldlM (Keypad.feed s)
      (fresh .initial .initial)).toOption.map fun k => (k.state.failed, k.display)) =
        some (true, ⟨['0'], "Cannot divide by zero".toList, "2÷".toList, true, some 15⟩) := by
    decide +kernel
  rw [(hmachine (ls.take 1)).1] at hfirst
  rw [(hmachine ls).1] at hall
  obtain ⟨hquiet, hdisplay⟩ := Prod.mk.inj (Option.some.inj hfirst)
  obtain ⟨hfailed, hdisplay'⟩ := Prod.mk.inj (Option.some.inj hall)
  have hanswered : ls.inits.filter endsAnswered = [ls.take 1, ls] := by decide +kernel
  have hstray : ls.countP hasStray = 1 := by decide +kernel
  refine ⟨hreads, machine, hquiet, hfailed, hdisplay', ?_⟩
  rw [hrun, hanswered, hstray, List.map_cons, List.map_singleton, hdisplay, hdisplay']
  rfl

end CommandLine
end PocketCalc
