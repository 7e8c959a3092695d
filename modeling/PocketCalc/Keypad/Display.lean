import PocketCalc.Text.Quoted

/-!
# What the keypad shows

* `Display`           three lines of text, and how an error is to be set off;
* `Display.summary`   all of it on one line.
-/

namespace PocketCalc.Keypad

def blankLine : Text := ['0']

/-- what the keypad shows -/
structure Display where
  /-- what is being typed -/
  entry : Text := blankLine
  /-- what `=` would give -/
  preview : Text := blankLine
  /-- the operations so far -/
  trail : Text := []
  /-- whether an error is shown -/
  error : Bool := false
  /-- the size in which an error is shown -/
  fontSize : Option Nat := none
deriving DecidableEq, Repr

namespace Display

def lines (d : Display) : List Text := [d.entry, d.preview, d.trail]

/-- the three lines, and whether there is an error -/
def summary (d : Display) : Text :=
  "<Display entry=".toList ++ Text.quoted d.entry ++ " preview=".toList ++ Text.quoted d.preview ++
    " trail=".toList ++ Text.quoted d.trail ++ (if d.error then " error".toList else []) ++ ['>']

end Display
end PocketCalc.Keypad
