import PocketCalc.Number.Decimal
import PocketCalc.Text.Blank
import PocketCalc.Text.Digit
import PocketCalc.Text.Quoted

/-!
# Reading numerals

A numeral is an optional sign, digits with at most one point among or around them, and an optional
power of ten behind `e` or `E`.  Digits of any script count, a comma counts as a point, and blanks
around the numeral are ignored.  A numeral denotes a number if all its digits have values.

* `takeSign`, `takeDigits`   the parts of a numeral at the front of a text;
* `Decimal.ofNumeral?`       the decimal that a numeral with a point denotes;
* `readNumber?`              the double that a text denotes;
* `isNumeral`                whether a text has the shape of a numeral;
* `NumeralError`, `readNumber`  the same as `readNumber?` with the reason for a refusal;
* `readInteger?`             the integer that a text denotes.
-/

namespace PocketCalc

open Text

/-! ## The parts of a numeral -/

/-- whether a minus sign stands in front, and what follows the sign -/
def takeSign : Text → Bool × Text
  | '-' :: r => (true, r)
  | '+' :: r => (false, r)
  | r => (false, r)

/-- the values of the digits in front that have one, and what follows them -/
def takeDigits (t : Text) : List Nat × Text :=
  ((t.takeWhile isValuedDigit).filterMap digitValue?, t.dropWhile isValuedDigit)

/-- the number that a row of digits denotes -/
def ofDigits (ds : List Nat) : Nat := ds.foldl (fun n d => 10 * n + d) 0

/-- the digits behind a point in front, and what follows them -/
def takeFraction : Text → List Nat × Text
  | '.' :: r => takeDigits r
  | r => ([], r)

/-- The power of ten that makes up the whole text: nothing at all, or `e` with an optional sign and
digits. -/
def exponent? : Text → Option Int
  | [] => some 0
  | c :: r =>
    if c = 'e' || c = 'E' then
      match takeSign r with
      | (negative, r) =>
        match takeDigits r with
        | (d :: ds, []) =>
          let n : Int := ofDigits (d :: ds)
          some (if negative then -n else n)
        | _ => none
    else none

/-- the decimal denoted by a numeral, which has a digit before its point or behind it -/
def Decimal.ofNumeral? (t : Text) : Option Decimal :=
  match takeSign t with
  | (negative, t) =>
    match takeDigits t with
    | (whole, t) =>
      match takeFraction t with
      | (fraction, t) =>
        if whole.isEmpty && fraction.isEmpty then none
        else
          (exponent? t).map fun e =>
            ⟨negative, ofDigits (whole ++ fraction), e - fraction.length⟩

/-! ## Reading a text -/

/-- a comma is written for the point in some places -/
def pointForComma (c : Char) : Char := if c = ',' then '.' else c

/-- the double that a text denotes -/
def readNumber? (t : Text) : Option Float :=
  (Decimal.ofNumeral? ((trim t).map pointForComma)).map Decimal.toFloat

/-- why a text is no number -/
inductive NumeralError
  /-- nothing but blanks -/
  | empty
  /-- a text that is no numeral -/
  | malformed
  /-- a numeral with a digit in it that has no value -/
  | unvalued
deriving DecidableEq, Repr

def NumeralError.message (t : Text) : NumeralError → Text
  | empty => "empty number".toList
  | malformed => "not a number: ".toList ++ quoted t
  | unvalued => "digit without a value: ".toList ++ quoted t

/-- a zero in the place of a digit without a value -/
def zeroIfUnvalued (c : Char) : Char := if isUnvaluedDigit c then '0' else c

/-- A text has the shape of a numeral if it denotes a number once each digit without a value is
replaced by a zero. -/
def isNumeral (t : Text) : Bool := (readNumber? (t.map zeroIfUnvalued)).isSome

/-- the double that a text denotes, or why there is none -/
def readNumber (t : Text) : Except NumeralError Float :=
  if isBlankText t then .error .empty
  else
    match readNumber? t with
    | some x => .ok x
    | none => .error (if isNumeral t then .unvalued else .malformed)

/-! ## Integers -/

/-- the digits of an integer; single underscores may stand between them -/
def integerDigits? : Text → Option (List Nat)
  | [] => none
  | [c] => (digitValue? c).map fun d => [d]
  | c :: '_' :: r =>
    match digitValue? c, integerDigits? r with
    | some d, some ds => some (d :: ds)
    | _, _ => none
  | c :: r =>
    match digitValue? c, integerDigits? r with
    | some d, some ds => some (d :: ds)
    | _, _ => none

/-- most digits of an integer that is read -/
def mostIntegerDigits : Nat := 4300

/-- the integer that a text denotes, with an optional sign and blanks around it -/
def readInteger? (t : Text) : Option Int :=
  match takeSign (trim t) with
  | (negative, r) =>
    match integerDigits? r with
    | some ds =>
      if mostIntegerDigits < ds.length then none
      else some (if negative then -(ofDigits ds : Int) else ofDigits ds)
    | none => none

/-! ## Laws -/

theorem readNumber?_of_isBlankText {t : Text} (h : isBlankText t = true) :
    readNumber? t = none := by
  have h : t.dropWhile isBlank = [] := by
    induction t with
    | nil => rfl
    | cons c r ih => simp_all [isBlankText]
  simp only [readNumber?, trim, h]
  rfl

end PocketCalc
