import PocketCalc.Error
import PocketCalc.Number.Written

/-!
# Numbers on the display

A result is shown with at most six decimal places, or in scientific notation with three significant
digits when it is large or very small.  Two renderings share these rules: `Format.result` for the
lines that show a result, `Format.strict` for the trail, where a number stands next to operators.

* `Format.requiresScientific`   the magnitudes shown in scientific notation;
* `Format.clean`                a numeral without needless zeros and without a negative zero;
* `Format.fixed`, `Format.scientific`, `Format.truncate`   the three ways to write a number;
* `Format.result`, `Format.strict`                         the choice among them;
* `Format.digits`, `Format.tryResult`, ...                 the same, with digits asked for only of
                                                           numbers that have them.
-/

namespace PocketCalc.Format

open Text

/-! ## Limits -/

def resultLength : Int := 15

def strictLength : Int := 13

/-- decimal places of a result -/
def maxPlaces : Nat := 6

def mantissaPlaces : Nat := 2

/-- magnitudes from here on are scientific -/
def scientificHigh : Float := 1e6

/-- magnitudes below this one are scientific, zero apart -/
def scientificLow : Float := 1e-7

/-- large and very small magnitudes are shown in scientific notation -/
def requiresScientific (x : Float) : Bool :=
  scientificHigh ≤ x.abs || (0 < x.abs && x.abs < scientificLow)

/-- The number decides, and so does what it is rounded to: `999999.9999999` is shown as `1E+6`. -/
def isScientific (x : Float) : Bool :=
  requiresScientific x || requiresScientific (roundPlaces maxPlaces x)

/-! ## Numerals -/

/-- a decimal numeral without the zeros at its end, and without the point where no place is left -/
def trimPlaces (t : Text) : Text := trimEndWhile (· == '.') (trimEndWhile (· == '0') t)

/-- a numeral without needless zeros; nothing and negative zero are zero -/
def clean (t : Text) : Text :=
  let t := if t.contains '.' && !t.contains 'E' then trimPlaces t else t
  if t = [] || t = ['-', '0'] then ['0'] else t

/-- at most `places` decimal places -/
def fixed (places : Int) (x : Float) : Text := clean (writePlaces places.toNat x)

def signedText (n : Int) : Text := (if n < 0 then '-' else '+') :: natText n.natAbs

/-- three significant digits and a power of ten -/
def scientific (v : Exact) : Text :=
  let (digits, point) :=
    if v.significand = 0 then (['0'], 0)
    else
      let (d, e) := significantDigits (mantissaPlaces + 1) v.magnitude
      (natText d, e + mantissaPlaces)
  withSign v.negative
    (trimPlaces (digits.take 1 ++ '.' :: digits.drop 1) ++ 'E' :: signedText point)

def wholeText (v : Exact) : Text := intText v.wholePart

/-- A number in at most `limit` characters: first decimal places are given up, then positional
notation, and what is still too long is cut. -/
def truncate (limit : Int) (x : Float) (v : Exact) : Text :=
  let whole := wholeText v
  if limit ≤ whole.length then scientific v
  else (fixed (limit - whole.length - 1) x).take limit.toNat

/-! ## Results -/

/-- what is shown for an infinity -/
def invalidResult : Text := "Invalid result".toList

/-- what the trail shows for an infinity or NaN -/
def strictError : Text := "Error".toList

/-- a result on the display -/
def result (x : Float) (limit : Int := resultLength) : Text :=
  match Exact.ofFloat? x with
  | none => if x.isNaN then ErrorKind.math.message.toList else invalidResult
  | some v =>
    if isScientific x then scientific v
    else
      let t := fixed maxPlaces x
      if limit < t.length then truncate limit x v else t

/-- a number in the trail; scientific notation is put in parentheses to read as one operand -/
def strict (x : Float) (limit : Int := strictLength) : Text :=
  match Exact.ofFloat? x with
  | none => strictError
  | some v =>
    if isScientific x then '(' :: scientific v ++ [')']
    else
      let t := fixed maxPlaces x
      let whole := wholeText v
      if limit < t.length && whole.length < limit then fixed (limit - whole.length - 1) x else t

/-- why a number cannot be written in a form that calls for digits -/
inductive NoDigits
  | notANumber
  | infinite
deriving DecidableEq, Repr

def digits (x : Float) : Except NoDigits Exact :=
  match Exact.ofFloat? x with
  | some v => .ok v
  | none => .error (if x.isNaN then .notANumber else .infinite)

/-! ## Where digits are asked for -/

/-- a result on the display, as it is written: what has no digits is told apart first -/
def tryResult (x : Float) (limit : Int := resultLength) : Except NoDigits Text :=
  if x.isNaN then .ok ErrorKind.math.message.toList
  else if x.isInf then .ok invalidResult
  else
    (digits x).map fun v =>
      if isScientific x then scientific v
      else
        let t := fixed maxPlaces x
        if limit < t.length then truncate limit x v else t

/-- a number in the trail, as it is written -/
def tryStrict (x : Float) (limit : Int := strictLength) : Except NoDigits Text :=
  if !x.isFinite then .ok strictError
  else
    (digits x).map fun v =>
      if isScientific x then '(' :: scientific v ++ [')']
      else
        let t := fixed maxPlaces x
        let whole := wholeText v
        if limit < t.length && whole.length < limit then fixed (limit - whole.length - 1) x else t

/-- a number in the entry line, as it is written -/
def tryEntry (x : Float) : Except NoDigits Text :=
  if !x.isFinite then .ok (writeShortest x)
  else
    (digits x).map fun v =>
      if v.magnitude.den = 1 && v.magnitude < 1000000000000000 then intText v.wholePart
      else writeShortest x

theorem isFinite_eq (x : Float) : x.isFinite = (Exact.ofFloat? x).isSome := by
  show x.toModel.unpack.isFinite = _
  unfold Exact.ofFloat?
  cases x.toModel.unpack <;> rfl

theorem isNaN_or_isInf_of_ofFloat? {x : Float} (h : Exact.ofFloat? x = none) :
    x.isNaN = true ∨ (x.isNaN = false ∧ x.isInf = true) := by
  unfold Exact.ofFloat? at h
  show x.toModel.unpack.isNaN = true ∨
    (x.toModel.unpack.isNaN = false ∧ x.toModel.unpack.isInf = true)
  split at h
  · cases h
  · cases h
  · rename_i he
    rw [he]
    exact .inr ⟨rfl, rfl⟩
  · rename_i he
    rw [he]
    exact .inl rfl

theorem not_isNaN_of_ofFloat? {x : Float} {v : Exact} (h : Exact.ofFloat? x = some v) :
    x.isNaN = false ∧ x.isInf = false := by
  unfold Exact.ofFloat? at h
  show x.toModel.unpack.isNaN = false ∧ x.toModel.unpack.isInf = false
  split at h
  · rename_i he
    rw [he]
    exact ⟨rfl, rfl⟩
  · rename_i he
    rw [he]
    exact ⟨rfl, rfl⟩
  · cases h
  · cases h

/-- no result is without a text -/
theorem tryResult_eq (x : Float) (limit : Int) : tryResult x limit = .ok (result x limit) := by
  unfold tryResult result digits
  cases h : Exact.ofFloat? x with
  | some v =>
    obtain ⟨hn, hi⟩ := not_isNaN_of_ofFloat? h
    rw [hn, hi]
    rfl
  | none =>
    rcases isNaN_or_isInf_of_ofFloat? h with hn | ⟨hn, hi⟩
    · rw [hn]
      rfl
    · rw [hn, hi]
      rfl

theorem tryStrict_eq (x : Float) (limit : Int) : tryStrict x limit = .ok (strict x limit) := by
  unfold tryStrict strict digits
  rw [isFinite_eq]
  cases Exact.ofFloat? x <;> rfl

theorem tryEntry_eq (x : Float) : tryEntry x = .ok (writeEntry x) := by
  unfold tryEntry writeEntry digits
  rw [isFinite_eq]
  cases Exact.ofFloat? x <;> rfl

end PocketCalc.Format
