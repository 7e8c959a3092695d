import PocketCalc.Text.Basic

/-!
# Decimal digits

A decimal digit of any script (general category Nd).  The digits of one script are ten consecutive
code points in increasing order of value, so the tables hold the zeros alone.

Not every digit can be read.  The digits are those of Unicode 17.0 and the values those of Unicode
14.0, so the scripts encoded in between have digits without a value here.  Such a digit is part of a
numeral, and the numeral denotes nothing.

* `digitZeros`       the code points of the zeros of digits with a value;
* `unvaluedZeros`    the code points of the zeros of digits without one;
* `digitValue?`      the value of a digit, `none` for any other character;
* `isValuedDigit`    whether a character is a digit with a value;
* `isUnvaluedDigit`  whether it is a digit without one;
* `isDigit`          whether it is a digit;
* `isAsciiDigit`     whether it is one of `0` to `9`.
-/

namespace PocketCalc.Text

/-! ## Tables -/

/-- code points of the zeros of digits with a value, those of Unicode 14.0, in increasing order -/
def digitZeros : List Nat :=
  [0x30, 0x660, 0x6F0, 0x7C0, 0x966, 0x9E6, 0xA66, 0xAE6, 0xB66, 0xBE6, 0xC66, 0xCE6, 0xD66, 0xDE6,
   0xE50, 0xED0, 0xF20, 0x1040, 0x1090, 0x17E0, 0x1810, 0x1946, 0x19D0, 0x1A80, 0x1A90, 0x1B50,
   0x1BB0, 0x1C40, 0x1C50, 0xA620, 0xA8D0, 0xA900, 0xA9D0, 0xA9F0, 0xAA50, 0xABF0, 0xFF10, 0x104A0,
   0x10D30, 0x11066, 0x110F0, 0x11136, 0x111D0, 0x112F0, 0x11450, 0x114D0, 0x11650, 0x116C0,
   0x11730, 0x118E0, 0x11950, 0x11C50, 0x11D50, 0x11DA0, 0x16A60, 0x16AC0, 0x16B50, 0x1D7CE,
   0x1D7D8, 0x1D7E2, 0x1D7EC, 0x1D7F6, 0x1E140, 0x1E2F0, 0x1E950, 0x1FBF0]

/-- code points of the zeros of digits without a value, those that Unicode 17.0 has besides, in
increasing order -/
def unvaluedZeros : List Nat :=
  [0x10D40, 0x116D0, 0x116DA, 0x11BF0, 0x11DE0, 0x11F50, 0x16130, 0x16D70, 0x1CCF0, 0x1E4F0,
   0x1E5F1]

def zeroOf? (zeros : List Nat) (c : Char) : Option Nat :=
  zeros.find? fun z => z ≤ c.toNat && c.toNat ≤ z + 9

/-! ## Digits -/

/-- the value of a decimal digit, if it has one -/
def digitValue? (c : Char) : Option Nat := (zeroOf? digitZeros c).map (c.toNat - ·)

/-- a decimal digit with a value -/
def isValuedDigit (c : Char) : Bool := (digitValue? c).isSome

/-- a decimal digit without a value -/
def isUnvaluedDigit (c : Char) : Bool := (zeroOf? unvaluedZeros c).isSome

/-- a decimal digit of any script -/
def isDigit (c : Char) : Bool := isValuedDigit c || isUnvaluedDigit c

/-- one of the digits `0` to `9`, the only ones a key can carry -/
def isAsciiDigit (c : Char) : Bool := '0' ≤ c && c ≤ '9'

end PocketCalc.Text
