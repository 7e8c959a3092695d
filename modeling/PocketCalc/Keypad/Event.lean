import PocketCalc.Arithmetic.Operator
import PocketCalc.Arithmetic.Trig
import PocketCalc.Number.Numeral

/-!
# Keys

* `Key`                a key with what it carries;
* `Event`              a kind of key with a value, as a front end sends it;
* `Event.key`          the key of an event, or the fault in it;
* `Command.events`     the events of a text command.
-/

namespace PocketCalc.Keypad

open Text

/-! ## Keys -/

/-- the keys -/
inductive Key
  | digit (d : Fin 10)
  | point
  | operator (op : Operator)
  | function (f : Trig)
  | constant (c : Constant)
  | equals
  | backspace
  | clearEntry
  | clearAll
  | toggleSign
deriving DecidableEq, Repr

inductive EventKind
  | digit
  | decimalPoint
  | operator
  | function
  | constant
  | equals
  | backspace
  | clearEntry
  | clearAll
  | signToggle
deriving DecidableEq, Repr

namespace EventKind

def all : List EventKind :=
  [digit, decimalPoint, operator, function, constant, equals, backspace, clearEntry, clearAll,
   signToggle]

def word : EventKind → String
  | digit => "digit"
  | decimalPoint => "decimal_point"
  | operator => "operator"
  | function => "function"
  | constant => "constant"
  | equals => "equals"
  | backspace => "backspace"
  | clearEntry => "clear_entry"
  | clearAll => "clear_all"
  | signToggle => "sign_toggle"

def ofWord? (w : String) : Option EventKind := all.find? fun k => k.word = w

def takesValue : EventKind → Bool
  | digit | operator | function | constant => true
  | decimalPoint | equals | backspace | clearEntry | clearAll | signToggle => false

end EventKind

def digitOf? (c : Char) : Option (Fin 10) :=
  if isAsciiDigit c then some (Fin.ofNat 10 (c.toNat - '0'.toNat)) else none

/-- the key of a kind, from the values it was sent with; `none` where it takes more or fewer -/
def Key.ofValues (kind : EventKind) (values : List Text) : Option (Except Fault Key) :=
  match kind, values with
  | .digit, [t] =>
    match t with
    | [c] => some ((digitOf? c).elim (.error (.notADigit t)) fun d => .ok (.digit d))
    | _ => some (.error (.notADigit t))
  | .operator, [t] => some ((Operator.find t).map .operator)
  | .function, [t] => some ((Trig.find t).map .function)
  | .constant, [t] => some ((Constant.find t).map .constant)
  | .decimalPoint, [] => some (.ok .point)
  | .equals, [] => some (.ok .equals)
  | .backspace, [] => some (.ok .backspace)
  | .clearEntry, [] => some (.ok .clearEntry)
  | .clearAll, [] => some (.ok .clearAll)
  | .signToggle, [] => some (.ok .toggleSign)
  | _, _ => none

/-! ## Events -/

/-- the value that comes with a kind of key -/
inductive Argument
  | text (t : Text)
  | number (n : Int)
deriving DecidableEq, Repr

namespace Argument

def toText : Argument → Text
  | text t => t
  | number n => intText n

/-- the value in a message: a text in quotation marks, a number without -/
def describe : Argument → Text
  | text t => quoted t
  | number n => intText n

end Argument

/-- a kind of key with its value, if it has one -/
structure Event where
  kind : EventKind
  value : Option Argument := none
deriving DecidableEq, Repr

def eventText (kind : Text) (value : Option Argument) : Text :=
  "Event(kind=".toList ++ kind ++ ", value=".toList ++
    (match value with
    | none => "None".toList
    | some v => v.describe) ++ [')']

def EventKind.describe (k : EventKind) : Text :=
  "<EventKind.".toList ++ k.word.toList.map Char.toUpper ++ ": ".toList ++ quoted k.word.toList ++
    ['>']

/-- the key of an event -/
def Event.key (e : Event) : Except Fault Key :=
  match Key.ofValues e.kind (e.value.toList.map Argument.toText) with
  | some r => r
  | none => .error (.cannotHandle (eventText e.kind.describe e.value))

/-! ## Text commands -/

/-- the words for keys that carry nothing -/
def plainCommands : List (Text × EventKind) :=
  [(['='], .equals), (['C'], .clearAll), (['C', 'E'], .clearEntry), (['<'], .backspace),
   (['⌫'], .backspace), (['±'], .signToggle), (['_'], .signToggle)]

def Event.ofTypedChar (c : Char) : Event :=
  if isAsciiDigit c then ⟨.digit, some (.text [c])⟩ else ⟨.decimalPoint, none⟩

/-- a text of digits and decimal separators -/
def isTyped (t : Text) : Bool :=
  !t.isEmpty && t.all fun c => isAsciiDigit c || c = '.' || c = ','

/-- the events of a text command; a row of digits and decimal separators is one for each of them -/
def Command.events (t : Text) : Except Fault (List Event) :=
  match plainCommands.lookup t with
  | some kind => .ok [⟨kind, none⟩]
  | none =>
    if (Operator.ofText? t).isSome then .ok [⟨.operator, some (.text t)⟩]
    else if (Trig.ofText? t).isSome then .ok [⟨.function, some (.text t)⟩]
    else if (Constant.ofText? t).isSome then .ok [⟨.constant, some (.text t)⟩]
    else if isTyped t then .ok (t.map Event.ofTypedChar)
    else .error (.unknownCommand t)

end PocketCalc.Keypad
