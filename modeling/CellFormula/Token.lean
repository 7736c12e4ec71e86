/-
The tokens of a formula: numbers, variables, the four operators and the two parentheses.

A token has a kind, which is all the rules of formula structure look at, and a canonical spelling. An operand starts with
a number, a variable or a left parenthesis and ends with a number, a variable or a right parenthesis. The name of a
variable is made of ASCII letters and then ASCII digits, at least one of each. A span is a token with the place where it
was found.

- `kind_number_iff`, `kind_var_iff` and so on: what the kind of a token tells about it.
- `isVariable_iff`: the test for a name, said of the two runs it is made of.
-/
import CellFormula.Binary64.Shortest

namespace CellFormula

inductive Operator where
  | plus
  | minus
  | times
  | divide
deriving DecidableEq

def Operator.char : Operator → Char
  | .plus => '+'
  | .minus => '-'
  | .times => '*'
  | .divide => '/'

/-- the meaning of one piece of a formula -/
inductive Token where
  | number (value : Binary64)
  | var (name : String)
  | operator (op : Operator)
  | leftParen
  | rightParen
deriving DecidableEq

namespace Token

/-! ## Kinds -/

/-- the classes of tokens that the rules of structure tell apart -/
inductive Kind where
  | number
  | var
  | operator
  | leftParen
  | rightParen
deriving DecidableEq

def Kind.startsOperand : Kind → Bool
  | .number | .var | .leftParen => true
  | .operator | .rightParen => false

def Kind.endsOperand : Kind → Bool
  | .number | .var | .rightParen => true
  | .operator | .leftParen => false

def Kind.label : Kind → String
  | .number => "number"
  | .var => "variable"
  | .operator => "operator"
  | .leftParen => "'('"
  | .rightParen => "')'"

def kind : Token → Kind
  | .number _ => .number
  | .var _ => .var
  | .operator _ => .operator
  | .leftParen => .leftParen
  | .rightParen => .rightParen

/-! ## Spelling, names and equality -/

/-- the canonical spelling of a token -/
def chars : Token → List Char
  | .number value => value.chars
  | .var name => name.toList
  | .operator op => [op.char]
  | .leftParen => ['(']
  | .rightParen => [')']

/-- the name that a token puts into a formula's set of variables -/
def name? : Token → Option String
  | .var name => some name
  | _ => none

/-- equality with numbers compared by value, so that the two zeros agree and a NaN agrees with nothing -/
def agrees : Token → Token → Bool
  | .number x, .number y => x.agrees y
  | s, t => s == t

/-! ## Laws -/

theorem kind_number_iff {t : Token} : t.kind = .number ↔ ∃ value, t = .number value := by
  cases t <;> simp [kind]

theorem kind_var_iff {t : Token} : t.kind = .var ↔ ∃ name, t = .var name := by
  cases t <;> simp [kind]

theorem kind_leftParen_iff {t : Token} : t.kind = .leftParen ↔ t = .leftParen := by
  cases t <;> simp [kind]

theorem kind_rightParen_iff {t : Token} : t.kind = .rightParen ↔ t = .rightParen := by
  cases t <;> simp [kind]

end Token

/-! ## Names of variables -/

/-- whether a text is a variable name: letters, then digits, at least one of each -/
def isVariable (name : String) : Bool :=
  let digits := name.toList.dropWhile Char.isAlpha
  !(name.toList.takeWhile Char.isAlpha).isEmpty && !digits.isEmpty && digits.all Char.isDigit

theorem isVariable_iff {name : String} :
    isVariable name = true ↔
      name.toList.takeWhile Char.isAlpha ≠ [] ∧ name.toList.dropWhile Char.isAlpha ≠ [] ∧
        ∀ c ∈ name.toList.dropWhile Char.isAlpha, c.isDigit = true := by
  simp [isVariable, and_assoc]

/-! ## Spans -/

/-- a token with its spelling and the byte offset at which the spelling starts -/
structure Span where
  token : Token
  text : String
  offset : Nat
deriving DecidableEq

namespace Span

def kind (s : Span) : Token.Kind := s.token.kind

/-- the byte offset at which the spelling ends -/
def stop (s : Span) : Nat := s.offset + s.text.utf8ByteSize

end Span

end CellFormula
