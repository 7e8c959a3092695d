import PocketCalc.Keypad.State

/-!
# The state field by field

A front end can read and reset the state under names.

* `Field`, `Value`                    the names, and what stands under them;
* `State.get`, `State.set`            reading and writing one field;
* `State.reset`, `State.clear`        putting fields back to their initial values;
* `State.changed`, `State.summary`    the fields that differ from the initial ones.
-/

namespace PocketCalc.Keypad

/-! ## Fields and values -/

/-- the named fields -/
inductive Field
  | result
  | first
  | second
  | operator
  | scopeFunction
  | scopeOperand
  | scopeFactor
  | scopeResult
  | scopeText
  | constant
  | operatorSet
  | scopeSet
  | scopeOpen
  | scopeClosed
  | constantUsed
  | justCommitted
  | done
  | failed
  | scopeStarted
  | buffer
  | commits
deriving DecidableEq, Repr

namespace Field

def all : List Field :=
  [result, first, second, operator, scopeFunction, scopeOperand, scopeFactor, scopeResult,
   scopeText, constant, operatorSet, scopeSet, scopeOpen, scopeClosed, constantUsed, justCommitted,
   done, failed, scopeStarted, buffer, commits]

def name : Field → String
  | result => "result"
  | first => "first_value"
  | second => "second_value"
  | operator => "current_operator"
  | scopeFunction => "sub_operator"
  | scopeOperand => "sub_first_value"
  | scopeFactor => "sub_second_value"
  | scopeResult => "sub_result"
  | scopeText => "sub_expression"
  | constant => "sub_constant"
  | operatorSet => "is_operator_set"
  | scopeSet => "is_sub_operator_set"
  | scopeOpen => "is_parenthesis_open"
  | scopeClosed => "is_parenthesis_just_closed"
  | constantUsed => "is_constant_used"
  | justCommitted => "is_operation_just_done"
  | done => "is_equal_done"
  | failed => "is_error_state"
  | scopeStarted => "is_sub_operation_started"
  | buffer => "input_buffer"
  | commits => "operation_count"

def ofName? (n : String) : Option Field := all.find? fun f => f.name = n

end Field

/-- what stands in a field -/
inductive Value
  | number (x : Float)
  | maybeNumber (x : Option Float)
  | operator (op : Option Operator)
  | function (f : Option Trig)
  | text (t : Text)
  | flag (b : Bool)
  | count (n : Int)
deriving DecidableEq, Repr

namespace Value

/-- whether two values are told apart by comparing them as numbers: the two zeros are not, and NaN
is from everything -/
def differs : Value → Value → Bool
  | number x, number y | maybeNumber (some x), maybeNumber (some y) => x != y
  | v, w => v ≠ w

def operatorLabel : Operator → String
  | .add => "ADD"
  | .subtract => "SUBTRACT"
  | .multiply => "MULTIPLY"
  | .divide => "DIVIDE"

def trigLabel : Trig → String
  | .sin => "SIN"
  | .cos => "COS"
  | .tan => "TAN"
  | .arcsin => "ARCSIN"
  | .arccos => "ARCCOS"
  | .arctan => "ARCTAN"

def describe : Value → Text
  | number x | maybeNumber (some x) => writeShortest x
  | maybeNumber none | operator none | function none => "None".toList
  | operator (some op) =>
    "<Operator.".toList ++ (operatorLabel op).toList ++ ": ".toList ++
      Text.quoted [op.symbol] ++ ['>']
  | function (some f) =>
    "<Function.".toList ++ (trigLabel f).toList ++ ": ".toList ++ Text.quoted f.name ++ ['>']
  | text t => Text.quoted t
  | flag true => "True".toList
  | flag false => "False".toList
  | count n => intText n

end Value

/-! ## Reading and writing -/

namespace State

/-- what stands in a field -/
def get (s : State) : Field → Value
  | .result => .number s.result
  | .first => .number s.first
  | .second => .number s.second
  | .operator => .operator s.operator
  | .scopeFunction => .function s.scope.function
  | .scopeOperand => .number s.scope.operand
  | .scopeFactor => .maybeNumber s.scope.factor
  | .scopeResult => .number s.scope.result
  | .scopeText => .text s.scope.text
  | .constant => .number s.constant
  | .operatorSet => .flag s.operatorSet
  | .scopeSet => .flag s.scope.isSet
  | .scopeOpen => .flag s.scope.isOpen
  | .scopeClosed => .flag s.scope.isClosed
  | .constantUsed => .flag s.constantUsed
  | .justCommitted => .flag s.justCommitted
  | .done => .flag s.done
  | .failed => .flag s.failed
  | .scopeStarted => .flag s.scope.isStarted
  | .buffer => .text s.buffer
  | .commits => .count s.commits

/-- the state with a value put into a field; a value of another sort changes nothing -/
def set (s : State) : Field → Value → State
  | .result, .number x => { s with result := x }
  | .first, .number x => { s with first := x }
  | .second, .number x => { s with second := x }
  | .operator, .operator op => { s with operator := op }
  | .scopeFunction, .function f => { s with scope.function := f }
  | .scopeOperand, .number x => { s with scope.operand := x }
  | .scopeFactor, .maybeNumber x => { s with scope.factor := x }
  | .scopeResult, .number x => { s with scope.result := x }
  | .scopeText, .text t => { s with scope.text := t }
  | .constant, .number x => { s with constant := x }
  | .operatorSet, .flag b => { s with operatorSet := b }
  | .scopeSet, .flag b => { s with scope.isSet := b }
  | .scopeOpen, .flag b => { s with scope.isOpen := b }
  | .scopeClosed, .flag b => { s with scope.isClosed := b }
  | .constantUsed, .flag b => { s with constantUsed := b }
  | .justCommitted, .flag b => { s with justCommitted := b }
  | .done, .flag b => { s with done := b }
  | .failed, .flag b => { s with failed := b }
  | .scopeStarted, .flag b => { s with scope.isStarted := b }
  | .buffer, .text t => { s with buffer := t }
  | .commits, .count n => { s with commits := n }
  | _, _ => s

/-! ## Resetting -/

/-- the state with a field put back to its initial value -/
def clearField (s : State) (f : Field) : State := s.set f (({} : State).get f)

/-- the names that belong to no field, each once, in alphabetical order -/
def unknownNames (names : List String) : List String :=
  (names.filter fun n => (Field.ofName? n).isNone).eraseDups.mergeSort

def unknownNamesText (names : List String) : String :=
  "No such state field(s): " ++ ", ".intercalate names

def fieldsOfNames (names : List String) : Except (List String) (List Field) :=
  if unknownNames names = [] then .ok (names.filterMap Field.ofName?)
  else .error (unknownNames names)

/-- the state with every field put back but those of the given names -/
def reset (s : State) (keep : List String) : Except (List String) State :=
  (fieldsOfNames keep).map fun fs => (Field.all.filter (· ∉ fs)).foldl clearField s

/-- the state with the fields of the given names put back -/
def clear (s : State) (names : List String) : Except (List String) State :=
  (fieldsOfNames names).map fun fs => fs.foldl clearField s

/-! ## Listings -/

/-- the fields that do not hold exactly their initial value -/
def changed (s : State) : List Field := Field.all.filter fun f => s.get f ≠ ({} : State).get f

/-- a listing of the fields that compare unequal to their initial value -/
def summary (s : State) : Text :=
  let fields := Field.all.filter fun f => (s.get f).differs (({} : State).get f)
  let items := fields.map fun f => f.name.toList ++ '=' :: (s.get f).describe
  "<CalculatorState ".toList ++ [' '].intercalate items ++ ['>']

end State
end PocketCalc.Keypad
