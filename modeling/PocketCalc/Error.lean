import PocketCalc.Text.Quoted

/-!
# Errors

* `ErrorKind`   the seven kinds, each with its message and the size it is shown in;
* `Fault`       what went wrong, with the words it went wrong on;
* `Fault.kind`, `Fault.detail`   the kind of a fault, and what the error log keeps besides;
* `errorText`   message and detail on one line.
-/

namespace PocketCalc

open Text

/-! ## Kinds -/

inductive ErrorKind
  | divisionByZero
  | syntaxError
  | math
  | domain
  | overflow
  | invalidOperation
  | unknown
deriving DecidableEq, Repr

namespace ErrorKind

def all : List ErrorKind :=
  [divisionByZero, syntaxError, math, domain, overflow, invalidOperation, unknown]

def message : ErrorKind → String
  | divisionByZero => "Cannot divide by zero"
  | syntaxError => "Syntax error"
  | math => "Math error"
  | domain => "Domain error"
  | overflow => "Overflow"
  | invalidOperation => "Invalid operation"
  | unknown => "Unknown error"

def fontSize : ErrorKind → Nat
  | divisionByZero => 15
  | math => 18
  | syntaxError | domain | overflow | invalidOperation | unknown => 16

end ErrorKind

/-- a message, and behind a colon the detail if there is any -/
def errorText (kind : ErrorKind) (detail : Option Text) : Text :=
  match detail with
  | none | some [] => kind.message.toList
  | some d => kind.message.toList ++ ": ".toList ++ d

/-! ## Faults -/

/-- What can go wrong: in looking up and computing, with the text of an expression, with the order
of its tokens, or with a key. -/
inductive Fault
  | unknownOperator (name : Text)
  | unknownFunction (name : Text)
  | unknownConstant (name : Text)
  | zeroDivisor (dividend : Text)
  | unusable (kind : ErrorKind) (source : Option Text)
  | invalidCharacter (c : Char)
  | invalidNumber (t : Text)
  | unknownSymbol (t : Text)
  | unbalanced
  | notEnoughOperands (t : Text)
  | missingOperand (t : Text)
  /-- a parenthesis where a value, an operator or a function has to stand -/
  | unexpected (t : Text)
  /-- no value or several values where one has to remain -/
  | invalidExpression
  | emptyExpression
  | nothingToApply (name : Text)
  | noOperand (entry : Text)
  | unknownCommand (t : Text)
  | notADigit (t : Text)
  /-- a key with a value it does not take, or without one it needs -/
  | cannotHandle (event : Text)
deriving DecidableEq, Repr

namespace Fault

def kind : Fault → ErrorKind
  | zeroDivisor _ => .divisionByZero
  | unusable k _ => k
  | unknownCommand _ | notADigit _ => .invalidOperation
  | cannotHandle _ => .unknown
  | unknownOperator _ | unknownFunction _ | unknownConstant _ | invalidCharacter _
  | invalidNumber _ | unknownSymbol _ | unbalanced | notEnoughOperands _ | missingOperand _
  | unexpected _ | invalidExpression | emptyExpression | nothingToApply _ | noOperand _ =>
    .syntaxError

def detail : Fault → Option Text
  | unknownOperator t => some ("Unknown operator ".toList ++ t)
  | unknownFunction t => some ("Unknown function ".toList ++ t)
  | unknownConstant t => some ("Unknown constant ".toList ++ t)
  | zeroDivisor a => some ("Attempt to divide ".toList ++ a ++ " by zero".toList)
  | unusable _ s => s
  | invalidCharacter c => some ("Invalid character ".toList ++ [c])
  | invalidNumber t => some ("Invalid number ".toList ++ t)
  | unknownSymbol t => some ("Unknown symbol ".toList ++ t)
  | unbalanced => some "Unbalanced parentheses".toList
  | notEnoughOperands t => some ("Not enough operands for ".toList ++ t)
  | missingOperand t => some ("Missing operand for ".toList ++ t)
  | unexpected t => some ("Unexpected ".toList ++ t)
  | invalidExpression => some "Invalid expression".toList
  | emptyExpression => some "Empty expression".toList
  | nothingToApply f => some ("Nothing to apply ".toList ++ f ++ " to".toList)
  | noOperand t => some ("No operand in ".toList ++ quoted t)
  | unknownCommand t => some ("Unknown command ".toList ++ quoted t)
  | notADigit t => some ("Not a digit: ".toList ++ quoted t)
  | cannotHandle e => some ("Cannot handle ".toList ++ e)

def message (f : Fault) : String := f.kind.message

def text (f : Fault) : Text := errorText f.kind f.detail

end Fault
end PocketCalc
