import PocketCalc.Log.Basic
import PocketCalc.Number.Written
import PocketCalc.Text.Blank
import PocketCalc.Text.CaseFold

/-!
# The history of calculations

* `TimeOfDay`            the hour, minute and second of an entry;
* `Operation`            a completed calculation;
* `History`              a bounded log of them;
* `History.record`       one more calculation;
* `History.search`       the operations whose expression contains a term;
* `History.average`      the mean of the results, exact and rounded once;
* `History.minimum`, `History.maximum`   the extremes of the results, the earliest of equal ones.
-/

namespace PocketCalc

open Text

/-! ## Operations -/

/-- a time of day -/
structure TimeOfDay where
  hour : Nat
  minute : Nat
  second : Nat
deriving DecidableEq, Repr

/-- a number in at least two digits -/
def twoDigits (n : Nat) : Text := List.replicate (2 - (natText n).length) '0' ++ natText n

def TimeOfDay.text (t : TimeOfDay) : Text :=
  twoDigits t.hour ++ ':' :: twoDigits t.minute ++ ':' :: twoDigits t.second

/-- a completed calculation -/
structure Operation where
  expression : Text
  result : Float
  time : TimeOfDay
deriving DecidableEq, Repr

def Operation.text (o : Operation) : Text :=
  o.expression ++ " = ".toList ++ writeGeneral o.result ++ " (".toList ++ o.time.text ++ [')']

/-- the completed calculations, oldest first -/
abbrev History := Log Operation

namespace History

def defaultCapacity : Nat := 100

def initial : History := Log.empty defaultCapacity (by decide)

def summary (h : History) : Text :=
  "<OperationHistory ".toList ++ natText h.size ++ '/' :: natText h.capacity ++ ['>']

/-- the history with a completed calculation -/
def record (h : History) (expression : Text) (result : Float) (now : TimeOfDay) : History :=
  h.push ⟨expression, result, now⟩

/-! ## Looking up -/

/-- whether an expression contains a term; unless case counts, both are folded -/
def mentions (caseSensitive : Bool) (term : Text) (o : Operation) : Bool :=
  if caseSensitive then occursIn term o.expression
  else occursIn (caseFold term) (caseFold o.expression)

/-- the operations whose expression contains a term, none for a blank term -/
def search (h : History) (term : Text) (caseSensitive : Bool) : List Operation :=
  if isBlankText term then [] else h.entries.filter (mentions caseSensitive term)

/-! ## Statistics -/

def results (h : History) : List Float := h.entries.map Operation.result

/-- The mean of some numbers.  Finite ones are added as they are and the quotient is rounded once;
among others only those that are not finite matter. -/
def mean (xs : List Float) : Float :=
  if xs.all Float.isFinite then
    nearestRat ((xs.filterMap Exact.ofFloat?).foldl (fun s v => s + v.value) 0 / xs.length)
  else (xs.filter fun x => !x.isFinite).foldl (· + ·) 0

/-- the mean of the results -/
def average (h : History) : Option Float :=
  match h.results with
  | [] => none
  | xs => some (mean xs)

/-- the least result -/
def minimum (h : History) : Option Float :=
  match h.results with
  | [] => none
  | x :: xs => some (xs.foldl (fun m x => if x < m then x else m) x)

/-- the greatest result -/
def maximum (h : History) : Option Float :=
  match h.results with
  | [] => none
  | x :: xs => some (xs.foldl (fun m x => if m < x then x else m) x)

end History
end PocketCalc
