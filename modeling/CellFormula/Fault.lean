/-
What can be wrong with a formula, and where.

A piece of the text may be no token; a token may stand where the rules of structure do not allow its kind; parentheses may
not match; or there may be no token at all. A fault says where it lies as a byte offset.
-/
import CellFormula.Text.Quoted
import CellFormula.Token

namespace CellFormula

/-- the reason for refusing a formula -/
inductive Fault where
  /-- no token starts here -/
  | unreadable (position : Nat) (found : Char)
  /-- there are no tokens -/
  | empty
  /-- the first token cannot start an operand -/
  | badStart (position : Nat) (kind : Token.Kind)
  /-- the last token cannot end an operand -/
  | badEnd (position : Nat) (kind : Token.Kind)
  /-- after a left parenthesis or an operator stands a token that cannot start an operand -/
  | operandExpected (position : Nat) (kind : Token.Kind)
  /-- after the end of an operand stands a token that starts another -/
  | operatorExpected (position : Nat) (kind : Token.Kind)
  /-- a right parenthesis without a left one -/
  | unopened (position : Nat)
  /-- left parentheses without right ones -/
  | unclosed (position missing : Nat)
deriving DecidableEq

namespace Fault

/-- a fault without its details -/
inductive Cause where
  | unreadable
  | empty
  | badStart
  | badEnd
  | operandExpected
  | operatorExpected
  | unopened
  | unclosed
deriving DecidableEq

def cause : Fault → Cause
  | .unreadable .. => .unreadable
  | .empty => .empty
  | .badStart .. => .badStart
  | .badEnd .. => .badEnd
  | .operandExpected .. => .operandExpected
  | .operatorExpected .. => .operatorExpected
  | .unopened .. => .unopened
  | .unclosed .. => .unclosed

/-- the byte offset at which the fault lies; one without a place of its own lies at the start -/
def position : Fault → Nat
  | .unreadable position _ => position
  | .empty => 0
  | .badStart position _ => position
  | .badEnd position _ => position
  | .operandExpected position _ => position
  | .operatorExpected position _ => position
  | .unopened position => position
  | .unclosed position _ => position

/-- a position in parentheses, as it ends a message -/
def inPlace (position : Nat) : String := " (position " ++ position.repr ++ ")"

def message : Fault → String
  | .unreadable position found =>
    "no valid token starts at position " ++ position.repr ++ ": " ++ Text.quotedChar found
  | .empty => "a formula must contain at least one token"
  | .badStart position kind => "formula cannot start with " ++ kind.label ++ inPlace position
  | .badEnd position kind => "formula cannot end with " ++ kind.label ++ inPlace position
  | .operandExpected position kind => kind.label ++ " cannot follow '(' or an operator" ++ inPlace position
  | .operatorExpected position kind => kind.label ++ " cannot follow a number, variable or ')'" ++ inPlace position
  | .unopened position => "')' at position " ++ position.repr ++ " has no matching '('"
  | .unclosed position missing => missing.repr ++ " unclosed '(' at end of formula" ++ inPlace position

end Fault

/-- what reading one piece gives: a token and its place, or why there is none -/
abbrev Item := Except Fault Span

end CellFormula
