import PocketCalc.CommandLine.Options
import PocketCalc.Expression.Evaluate
import PocketCalc.Keypad.Press

/-!
# A session at the command line

* `Report`                     lines for the two outputs;
* `Session.evaluateLine`       a line as an expression;
* `Session.keysLine`           a line as words for the keypad;
* `Session.dumpLine`           a line as tokens;
* `Session.closing`            the listing at the end;
* `run`                        a whole session.

One keypad serves all the lines of a session.  Where lines are expressions only its two logs are
used.
-/

namespace PocketCalc.CommandLine

open Text Keypad

/-! ## Output -/

/-- lines written to the output and to the error output -/
structure Report where
  out : List Text := []
  err : List Text := []
deriving DecidableEq, Repr

namespace Report

protected def append (a b : Report) : Report := ⟨a.out ++ b.out, a.err ++ b.err⟩

instance : Append Report := ⟨Report.append⟩

def line (t : Text) : Report := ⟨[t], []⟩

end Report

def tabbed (ts : List Text) : Text := ['\t'].intercalate ts

/-! ## Lines that describe the program -/

/-- the characters that stand for themselves only behind a backslash in a pattern -/
def isPatternSign (c : Char) : Bool := ['+', '-', '*'].contains c

/-- the pattern of a sign -/
def signPattern (c : Char) : Text := if isPatternSign c then ['\\', c] else [c]

def operatorPattern : Text :=
  let signs := Operator.all.map Operator.symbol ++ Operator.synonyms.map Prod.fst
  "(?:".toList ++ ['|'].intercalate (signs.map signPattern) ++ [')']

def numberPattern : List String :=
  ["(?:",
   "    # 1, 12, 1.5, 1,5, 1. (notice trailing dot)",
   "    \\d+",
   "    (?:",
   "        [.,]",
   "        \\d*",
   "    )?",
   ")|(?:",
   "    # .5, or just .",
   "    [.,]",
   "    \\d*",
   ")"]

def grammarLines : List Text :=
  let indent : Text := List.replicate 14 ' '
  "(?<number>".toList :: numberPattern.map (fun l => indent ++ l.toList) ++
    [indent ++ ")|(?<operator>".toList ++ operatorPattern ++ ")|(?<word>\\p\x7bL\x7d+)".toList ++
      "|(?<open>\\()|(?<close>\\))|(?<space>\\s+)".toList]

def functionLines : List Text :=
  Trig.all.map fun f =>
    tabbed ([f.info.name, f.info.category, f.info.domain, f.info.range, f.info.description].map
      String.toList)

/-! ## Lines of a session -/

/-- why a session cannot start -/
inductive StartError
  /-- the size of the history was left open -/
  | noSize
  /-- there is no history of that size -/
  | capacity (e : CapacityError)
deriving DecidableEq, Repr

def StartError.message : StartError → String
  | noSize => "no history size"
  | capacity e => e.message

/-- what a session goes by -/
structure Setup where
  settings : Settings := {}
  verbose : Bool := false

/-- the line that stands for where an error arose -/
def traceLine : Text := "<traceback>".toList

def faultReport (u : Setup) (f : Fault) : Report :=
  ⟨[], f.message.toList :: if u.verbose then [traceLine] else []⟩

def logFault (k : Keypad) (f : Fault) : Keypad :=
  { k with errors := k.errors.reportFailure (.known f.kind f.detail) }

namespace Session

/-- a line as an expression: its value, kept in the history, or what is wrong with it -/
def evaluateLine (u : Setup) (k : Keypad) (line : Text) : Keypad × Report :=
  match Expression.evaluate u.settings.lib line with
  | .ok (some x) =>
    ({ k with history := k.history.record line x u.settings.now }, .line (Format.result x))
  | .error (.fault f) => (logFault k f, faultReport u f)
  | .ok none | .error .unreadable | .error .noValue => (k, {})

/-- words for the keypad, up to the first one that is none -/
def feedWords (s : Settings) (k : Keypad) : List Text → Keypad × Option Fault
  | [] => (k, none)
  | w :: ws =>
    match k.feed s w with
    | .ok k => feedWords s k ws
    | .error f => (k, some f)

/-- a line as words for the keypad, and what the keypad shows then -/
def keysLine (u : Setup) (k : Keypad) (line : Text) : Keypad × Report :=
  match feedWords u.settings k (words line) with
  | (k, none) => (k, .line (tabbed k.display.lines))
  | (k, some f) => (logFault k f, faultReport u f ++ .line (tabbed k.display.lines))

def tokenLine (t : Token) : Text :=
  tabbed [t.kind.label.toList, quoted t.text, valueText t.value]

def dumpHeader : Text := tabbed ["<kind>".toList, "<repr(text)>".toList, "<value>".toList]

/-- a line as tokens, and the same in reverse Polish order -/
def dumpLine (u : Setup) (k : Keypad) (line : Text) : Keypad × Report :=
  match Token.scan line with
  | (ts, some f) => (logFault k f, ⟨ts.map tokenLine, []⟩ ++ faultReport u f)
  | (ts, none) =>
    match Expression.rpn line with
    | .ok rs =>
      let rpnLine := tabbed ["RPN".toList, [' '].intercalate (rs.map Token.text)]
      (k, ⟨ts.map tokenLine ++ [rpnLine], []⟩)
    | .error f => (logFault k f, ⟨ts.map tokenLine, []⟩ ++ faultReport u f)

/-- what a mode does with a line; nothing where it reads none -/
def handleLine (u : Setup) (m : Mode) (k : Keypad) (line : Text) : Keypad × Report :=
  match m with
  | .evaluate => evaluateLine u k line
  | .keys => keysLine u k line
  | .dump => dumpLine u k line
  | .grammar | .list => (k, {})

/-- a line without the blanks around it, or nothing at all -/
def step (u : Setup) (m : Mode) (k : Keypad) (line : Text) : Keypad × Report :=
  if isBlankText line then (k, {}) else handleLine u m k (trim line)

def opening : Mode → Report
  | .evaluate | .keys => {}
  | .dump => .line dumpHeader
  | .grammar => ⟨grammarLines, []⟩
  | .list => ⟨functionLines, []⟩

/-- the history and, if there were errors, how often each kind occurred -/
def closing (verbose : Bool) (k : Keypad) : Report :=
  ⟨k.history.entries.map Operation.text,
    if verbose then k.errors.statistics.map fun e => tabbed [e.1.message.toList, natText e.2]
    else []⟩

def start (o : Options) : Except StartError Keypad :=
  match o.historySize with
  | none => .error .noSize
  | some n =>
    match Log.ofCapacity n with
    | .ok h => .ok { history := h }
    | .error e => .error (.capacity e)

def lines (u : Setup) (m : Mode) (k : Keypad) (ls : List Text) : Keypad × Report :=
  ls.foldl
    (fun (k, r) l =>
      let (k, r') := step u m k l
      (k, r ++ r'))
    (k, {})

end Session

/-! ## The whole -/

/-- the end of a program: its output, and the exit code -/
structure Outcome where
  report : Report := {}
  code : Nat := 0
deriving DecidableEq, Repr

/-- the line that stands for an interruption at a prompt -/
def interrupt : Text := [Char.ofNat 3]

/-- whether lines are read at a prompt; an empty prompt is none -/
def Options.prompts (o : Options) : Bool := o.expressions.isNone && o.prompt.any (!·.isEmpty)

/-- A session on given lines of input.  At a prompt an interruption ends it, without the listing at
the end. -/
def run (o : Options) (s : Settings) (input : List Text) : Except StartError Outcome :=
  match Session.start o with
  | .error e => .error e
  | .ok k =>
    let u : Setup := ⟨s, o.verbose⟩
    let given := o.expressions.getD input
    let readsLines := o.mode ≠ .grammar ∧ o.mode ≠ .list
    let interrupted := o.prompts && given.contains interrupt && readsLines
    let given := if o.prompts then given.takeWhile (· ≠ interrupt) else given
    let (k, r) := Session.lines u o.mode k given
    let r := Session.opening o.mode ++ r
    if interrupted then .ok ⟨r, 1⟩
    else .ok ⟨if o.showHistory then r ++ Session.closing o.verbose k else r, 0⟩

/-- a text cut at its line ends; the part behind the last one is a line too -/
def splitLines : Text → List Text
  | [] => [[]]
  | c :: r =>
    if c = '\n' then [] :: splitLines r
    else
      match splitLines r with
      | l :: ls => (c :: l) :: ls
      | [] => [[c]]

/-- why there is no session -/
inductive Refusal
  /-- the arguments ask for none -/
  | ending (e : Ending)
  /-- the one they ask for cannot start -/
  | start (e : StartError)
deriving DecidableEq, Repr

/-- a program run: its arguments and its whole input -/
def runArguments (s : Settings) (args : List Text) (input : Text) : Except Refusal Outcome :=
  match Options.parse args with
  | .error e => .error (.ending e)
  | .ok o => (run o s (splitLines input)).mapError .start

end PocketCalc.CommandLine
