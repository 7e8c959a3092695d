import PocketCalc.Expression.Rpn

/-!
# Expressions as text

* `Expression.rpn`        the tokens of a text in reverse Polish order;
* `Expression.evaluate`   the value of a text;
* `Expression.isBalanced` whether the parentheses of a token list match;
* `Expression.validate`   whether a text has tokens, and its parentheses match.
-/

namespace PocketCalc.Expression

/-- the tokens of a text in reverse Polish order -/
def rpn (t : Text) : Except Fault (List Token) :=
  if t.isBlankText then .error .emptyExpression
  else
    match Token.ofText t with
    | .ok ts => Rpn.ofInfix ts
    | .error f => .error f

/-- the value of a text -/
def evaluate (lib : TrigLibrary) (t : Text) : Except RunError (Option Float) :=
  match rpn t with
  | .ok ts => Rpn.run lib ts
  | .error f => .error (.fault f)

/-- the number of parentheses that are open after a token, when `depth` were open before it; `none`
where one is closed that was not opened -/
def depthAfter (depth : Nat) (t : Token) : Option Nat :=
  match t.kind, depth with
  | .openParen, d => some (d + 1)
  | .closeParen, 0 => none
  | .closeParen, d + 1 => some d
  | _, d => some d

/-- whether every parenthesis has its partner -/
def isBalanced (ts : List Token) : Bool := ts.foldlM depthAfter 0 == some 0

/-- whether a text has tokens, with matching parentheses -/
def validate (t : Text) : Bool :=
  if t.isBlankText then false
  else
    match Token.ofText t with
    | .ok ts => isBalanced ts
    | .error _ => false

end PocketCalc.Expression
