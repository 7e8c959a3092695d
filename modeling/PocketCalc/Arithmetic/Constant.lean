import PocketCalc.Error

/-!
# Constants

* `Constant`          π and e, with their symbols and values;
* `Constant.ofText?`  the constant a text stands for.
-/

namespace PocketCalc

def piValue : Float := 3.141592653589793

def eulerValue : Float := 2.718281828459045

/-- the constants that can be inserted into an entry -/
inductive Constant
  | pi
  | e
deriving DecidableEq, Repr

namespace Constant

def all : List Constant := [pi, e]

def symbol : Constant → Char
  | pi => 'π'
  | e => 'e'

def value : Constant → Float
  | pi => piValue
  | e => eulerValue

/-- the constant a text stands for: its symbol, or `pi` -/
def ofText? : Text → Option Constant
  | ['π'] => some pi
  | ['p', 'i'] => some pi
  | ['e'] => some e
  | _ => none

def find (t : Text) : Except Fault Constant :=
  match ofText? t with
  | some c => .ok c
  | none => .error (.unknownConstant t)

def isSymbol (c : Char) : Bool := all.any fun k => k.symbol = c

end Constant
end PocketCalc
