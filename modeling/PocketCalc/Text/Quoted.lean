import PocketCalc.Text.Printable

/-!
# Quoted text

A text in quotation marks, on one line and without invisible characters: the backslash, the mark
itself and the line controls have short escapes, any other character that does not print is written
by its code point in two, four or eight hexadecimal digits.

* `hexDigits`   the last digits of a number in base sixteen;
* `escapeChar`  a character between the marks;
* `quoted`      the whole.
-/

namespace PocketCalc.Text

/-- the last `k` hexadecimal digits of `n`, most significant first -/
def hexDigits : Nat → Nat → Text
  | 0, _ => []
  | k + 1, n => hexDigits k (n / 16) ++ [Nat.digitChar (n % 16)]

/-- a character by its code point, in the least of the three widths that holds it -/
def escapeCode (n : Nat) : Text :=
  if n < 0x100 then ['\\', 'x'] ++ hexDigits 2 n
  else if n < 0x10000 then ['\\', 'u'] ++ hexDigits 4 n
  else ['\\', 'U'] ++ hexDigits 8 n

/-- a character as it stands between two marks `mark` -/
def escapeChar (mark c : Char) : Text :=
  if c = mark || c = '\\' then ['\\', c]
  else if c = '\n' then ['\\', 'n']
  else if c = '\r' then ['\\', 'r']
  else if c = '\t' then ['\\', 't']
  else if isPrintable c then [c]
  else escapeCode c.toNat

/-- single marks, or double ones for a text that holds single marks and no double ones -/
def quoteMark (t : Text) : Char := if t.contains '\'' && !t.contains '"' then '"' else '\''

/-- the text in quotation marks -/
def quoted (t : Text) : Text :=
  [quoteMark t] ++ t.flatMap (escapeChar (quoteMark t)) ++ [quoteMark t]

end PocketCalc.Text
