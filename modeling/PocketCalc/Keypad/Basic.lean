import PocketCalc.Format
import PocketCalc.Keypad.Display
import PocketCalc.Keypad.State
import PocketCalc.Log.Errors
import PocketCalc.Log.History
import PocketCalc.Number.Numeral
import PocketCalc.Arithmetic.Outcome

/-!
# The keypad

A calculator driven one key at a time: what it remembers, what it shows, and the two logs it writes
to.

* `Settings`                         limits, functions and clock, which no key changes;
* `Keypad`                           state, display, history and errors;
* `Keypad.showEntry`, `.fail`, `.startOver`   the display of an entry, of an error, of nothing;
* `Keypad.extendTrail`               a number and an operator added to the trail.
-/

namespace PocketCalc

open Text Keypad

/-- what the keys go by -/
structure Settings where
  /-- most characters of an entry that one can go on typing -/
  maxEntry : Int := 13
  /-- an entry with a function opened behind it stays shorter than this -/
  maxScope : Int := 30
  /-- the functions on radians -/
  lib : TrigLibrary := .native
  /-- the time of day -/
  now : TimeOfDay := ⟨0, 0, 0⟩

/-- a calculator driven by keys -/
structure Keypad where
  state : State := {}
  display : Display := {}
  history : History := .initial
  errors : ErrorLog := .initial

namespace Keypad

/-! ## Showing -/

/-- an entry as it is shown; nothing and a lone sign are shown as zero -/
def entryLine (t : Text) : Text := if t = [] || t = ['-'] then blankLine else t

/-- the keypad with what is being typed on display -/
def showEntry (k : Keypad) : Keypad := { k with display.entry := entryLine k.state.buffer }

/-- the lines that an error can be shown on -/
inductive Pane
  | entry
  | preview
deriving DecidableEq, Repr

def Display.put (d : Display) (t : Text) : Pane → Display
  | .entry => { d with entry := t }
  | .preview => { d with preview := t }

/-- the keypad with an error on display, reported to the log; the operator is forgotten -/
def fail (k : Keypad) (f : Fault) (pane : Pane) : Keypad :=
  { k with
    state := { k.state with failed := true, operatorSet := false, operator := none }
    display :=
      { k.display.put f.message.toList pane with
        error := true, fontSize := some f.kind.fontSize }
    errors := k.errors.report f.kind (some f.message.toList) f.detail }

/-- the keypad as it was at first, but for its logs -/
def startOver (k : Keypad) : Keypad := { k with state := {}, display := {} }

/-- an error that is shown is dismissed -/
def acknowledge (k : Keypad) : Keypad := if k.state.failed then k.startOver else k

/-! ## The trail -/

def toggled : Text → Text
  | '-' :: r => r
  | t => '-' :: t

/-- a negative operand goes into the trail in parentheses -/
def grouped : Text → Text
  | '-' :: r => '(' :: '-' :: r ++ [')']
  | t => t

def isNumberChar (c : Char) : Bool := isDigit c || c = '.' || c = ','

/-- an operand with the number at its end written as the trail writes numbers -/
def rewriteNumber (t : Text) : Text :=
  match readNumber? (endingWhile isNumberChar t) with
  | some x => trimEndWhile isNumberChar t ++ Format.strict x
  | none => t

/-- an operand, and perhaps an operator behind it, as the trail shows them -/
def trailText (t : Text) : Text :=
  match t.getLast? with
  | some c => if Operator.isSign c then rewriteNumber t.dropLast ++ [c] else rewriteNumber t
  | none => []

/-- the keypad with an operand, and perhaps an operator, added to the trail -/
def extendTrail (k : Keypad) (t : Text) : Keypad :=
  { k with display.trail := k.display.trail ++ trailText t }

end Keypad
end PocketCalc
