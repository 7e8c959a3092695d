import PocketCalc.Arithmetic.Outcome
import PocketCalc.Number.Numeral
import PocketCalc.Text.Letter

/-!
# Tokens

A text is cut into lexemes from left to right, each as long as its class allows; a lexeme other than
white space becomes a token.

* `Token`            kind, written text, and the number of a numeral or a constant;
* `Lexeme`           a class of characters and a text of that class;
* `Lexeme.front?`    the lexeme in front of a text, and what follows it;
* `Lexeme.token`     the token of a lexeme;
* `Token.scan`       the tokens of a text up to the first fault, and the fault;
* `Token.ofText`     the tokens of a text.
-/

namespace PocketCalc

open Text

/-! ## Tokens -/

inductive TokenKind
  | number
  | operator
  | function
  | openParen
  | closeParen
  | constant
deriving DecidableEq, Repr

namespace TokenKind

def all : List TokenKind := [number, operator, function, openParen, closeParen, constant]

def label : TokenKind → String
  | number => "NUMBER"
  | operator => "OPERATOR"
  | function => "FUNCTION"
  | openParen => "OPEN_PAREN"
  | closeParen => "CLOSE_PAREN"
  | constant => "CONSTANT"

def isValue : TokenKind → Bool
  | number | constant => true
  | operator | function | openParen | closeParen => false

end TokenKind

/-- a piece of an expression; numbers and constants carry their value -/
structure Token where
  kind : TokenKind
  text : Text
  value : Option Float := none
deriving DecidableEq, Repr

namespace Token

def describe (t : Token) : Text := t.kind.label.toList ++ ": ".toList ++ t.text

end Token

def valueText : Option Float → Text
  | some x => writeShortest x
  | none => "None".toList

/-! ## Lexemes -/

/-- the classes of lexemes -/
inductive LexemeClass
  | number
  | sign
  | word
  | opening
  | closing
  | space
deriving DecidableEq, Repr

/-- a text of one class -/
structure Lexeme where
  cls : LexemeClass
  text : Text
deriving DecidableEq, Repr

def isSeparator (c : Char) : Bool := c = '.' || c = ','

/-- the digits in front of a text with the separator and the digits behind them, if there are any -/
def numberLexeme (t : Text) : Text :=
  match t.dropWhile isDigit with
  | [] => t.takeWhile isDigit
  | s :: r =>
    if isSeparator s then t.takeWhile isDigit ++ s :: r.takeWhile isDigit else t.takeWhile isDigit

namespace Lexeme

/-- the lexeme in front of a text that is not empty -/
def front? (c : Char) (r : Text) : Option Lexeme :=
  if isDigit c || isSeparator c then some ⟨.number, numberLexeme (c :: r)⟩
  else if Operator.isSign c then some ⟨.sign, [c]⟩
  else if isLetter c then some ⟨.word, c :: r.takeWhile isLetter⟩
  else if c = '(' then some ⟨.opening, [c]⟩
  else if c = ')' then some ⟨.closing, [c]⟩
  else if isSpace c then some ⟨.space, c :: r.takeWhile isSpace⟩
  else none

/-- the token of a lexeme; white space has none -/
def token (l : Lexeme) : Except Fault (Option Token) :=
  match l.cls with
  | .number =>
    match readNumber? l.text with
    | some x => .ok (some ⟨.number, l.text, some x⟩)
    | none => .error (.invalidNumber l.text)
  | .sign => .ok (some ⟨.operator, l.text, none⟩)
  | .opening => .ok (some ⟨.openParen, l.text, none⟩)
  | .closing => .ok (some ⟨.closeParen, l.text, none⟩)
  | .space => .ok none
  | .word =>
    match Constant.ofText? l.text with
    | some c => .ok (some ⟨.constant, l.text, some c.value⟩)
    | none =>
      match Trig.ofText? l.text with
      | some _ => .ok (some ⟨.function, l.text, none⟩)
      | none => .error (.unknownSymbol l.text)

end Lexeme

theorem length_numberLexeme_pos {c : Char} {r : Text} (h : (isDigit c || isSeparator c) = true) :
    0 < (numberLexeme (c :: r)).length := by
  unfold numberLexeme
  by_cases hd : isDigit c = true
  · split
    · simp [hd]
    · split <;> simp [hd]
  · have hs : isSeparator c = true := by simpa [hd] using h
    simp [hd, hs]

theorem Lexeme.length_front?_pos {c : Char} {r : Text} {l : Lexeme} (h : front? c r = some l) :
    0 < l.text.length := by
  unfold front? at h
  repeat' split at h
  all_goals try cases h
  all_goals simp_all [length_numberLexeme_pos]

namespace Token

/-- the tokens in front of the first fault, and that fault if there is one -/
def scan : Text → List Token × Option Fault
  | [] => ([], none)
  | c :: r =>
    match _h : Lexeme.front? c r with
    | none => ([], some (.invalidCharacter c))
    | some l =>
      match l.token with
      | .error f => ([], some f)
      | .ok none => scan ((c :: r).drop l.text.length)
      | .ok (some t) =>
        let rest := scan ((c :: r).drop l.text.length)
        (t :: rest.1, rest.2)
termination_by t => t.length
decreasing_by
  all_goals
    have := Lexeme.length_front?_pos ‹Lexeme.front? _ _ = some _›
    simp only [List.length_drop, List.length_cons]
    omega

/-- the tokens of a text, unless there is a fault in it -/
def ofText (t : Text) : Except Fault (List Token) :=
  match scan t with
  | (ts, none) => .ok ts
  | (_, some f) => .error f

end Token
end PocketCalc
