import PocketCalc.CommandLine.Session
import Std.Time.Zoned

/-!
# The program

Reads arguments and lines, and writes what the session answers to each of them.

* `clock`      the time of day;
* `write`      a report on the two outputs;
* `readLines`  the session on lines as they are typed;
* `main`       the program.
-/

namespace PocketCalc.Program

open CommandLine

/-- what is written when the arguments make no sense, or help is asked for -/
def usage : String :=
  "usage: pocketcalc [-h] [-v] [-H] [--history-size N] [-e ... | -p [PROMPT]] [-G | -D | -k | -l]"

/-- the time of day -/
def clock : IO TimeOfDay := do
  let t ← Std.Time.PlainDateTime.now
  return ⟨t.hour.val.toNat, t.minute.val.toNat, t.second.val.toNat⟩

def setup (o : Options) : IO Setup := do
  return ⟨{ now := ← clock }, o.verbose⟩

/-- a report on the two outputs -/
def write (r : Report) : IO Unit := do
  for l in r.out do
    IO.println (String.ofList l)
  for l in r.err do
    IO.eprintln (String.ofList l)

def answer (o : Options) (k : Keypad) (line : Text) : IO Keypad := do
  let (k, r) := Session.step (← setup o) o.mode k line
  write r
  return k

/-- a session on lines as they are typed, behind a prompt if there is one -/
partial def readLines (o : Options) (prompt : Option Text) (k : Keypad) : IO Keypad := do
  if let some p := prompt then
    IO.print (String.ofList p)
    (← IO.getStdout).flush
  let line ← (← IO.getStdin).getLine
  if line.isEmpty then return k
  readLines o prompt (← answer o k line.toList)

/-- the prompt to be shown: the one asked for, or the usual one on a terminal -/
def shownPrompt (o : Options) : IO (Option Text) := do
  if o.prompts then return o.prompt
  let terminal := (← (← IO.getStdin).isTty) && (← (← IO.getStdout).isTty)
  return if terminal then some defaultPrompt else none

def session (o : Options) : IO UInt32 := do
  match Session.start o with
  | .error e =>
    IO.eprintln e.message
    return 1
  | .ok k =>
    write (Session.opening o.mode)
    let k ←
      match o.expressions, o.mode with
      | _, .grammar | _, .list => pure k
      | some ls, _ => ls.foldlM (answer o) k
      | none, _ => readLines o (← shownPrompt o) k
    if o.showHistory then write (Session.closing o.verbose k)
    return 0

end PocketCalc.Program

open PocketCalc PocketCalc.CommandLine in
/-- the program: what the arguments ask for, or how to write them -/
def main (args : List String) : IO UInt32 :=
  match Options.parse (args.map String.toList) with
  | .error .help => do
    IO.println Program.usage
    return 0
  | .error .usage => do
    IO.eprintln Program.usage
    return 2
  | .ok o => Program.session o
