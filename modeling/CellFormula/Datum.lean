/-
Tokens, kinds and formulas as structured data: null, truth values, numbers, texts, lists and records.

A token or kind without content is its name. A number or variable is a record with the name as its only field; a number
that is not finite is written as null, which cannot be read back. The bare names may also come as a record with a null.
A formula is its canonical text, and reading it back goes through the whole check.

- `Kind.ofDatum?_toDatum`: every kind reads back.
- `ofDatum?_toDatum`: so does every token but the numbers that are not finite.
-/
import CellFormula.Formula

namespace CellFormula

/-- a piece of structured data; the names in a record are all different -/
inductive Datum where
  | null
  | truth (value : Bool)
  | number (value : Binary64)
  | text (value : String)
  | list (items : List Datum)
  | record (fields : List (String × Datum))
deriving Inhabited

namespace Token

def name : Token → String
  | .number _ => "Number"
  | .var _ => "Variable"
  | .operator .plus => "Plus"
  | .operator .minus => "Minus"
  | .operator .times => "Asterisk"
  | .operator .divide => "Slash"
  | .leftParen => "LParen"
  | .rightParen => "RParen"

def ofName? : String → Option Token
  | "Plus" => some (.operator .plus)
  | "Minus" => some (.operator .minus)
  | "Asterisk" => some (.operator .times)
  | "Slash" => some (.operator .divide)
  | "LParen" => some .leftParen
  | "RParen" => some .rightParen
  | _ => none

def toDatum (t : Token) : Datum :=
  match t with
  | .number value => .record [(t.name, if value.isFinite then .number value else .null)]
  | .var text => .record [(t.name, .text text)]
  | _ => .text t.name

def ofDatum? : Datum → Option Token
  | .text name => ofName? name
  | .record [(name, .null)] => ofName? name
  | .record [("Number", .number value)] => some (.number value)
  | .record [("Variable", .text name)] => some (.var name)
  | _ => none

namespace Kind

def name : Kind → String
  | .number => "Number"
  | .var => "Variable"
  | .operator => "Operator"
  | .leftParen => "OpenParen"
  | .rightParen => "CloseParen"

def ofName? : String → Option Kind
  | "Number" => some .number
  | "Variable" => some .var
  | "Operator" => some .operator
  | "OpenParen" => some .leftParen
  | "CloseParen" => some .rightParen
  | _ => none

def toDatum (k : Kind) : Datum := .text k.name

def ofDatum? : Datum → Option Kind
  | .text name => ofName? name
  | .record [(name, .null)] => ofName? name
  | _ => none

theorem ofDatum?_toDatum (k : Kind) : ofDatum? k.toDatum = some k := by
  cases k <;> rfl

end Kind

theorem ofDatum?_toDatum {t : Token} (h : ∀ value, t = .number value → value.isFinite = true) :
    ofDatum? t.toDatum = some t := by
  cases t with
  | number value => simp [toDatum, name, ofDatum?, h value rfl]
  | var text => rfl
  | operator op => cases op <;> rfl
  | leftParen => rfl
  | rightParen => rfl

end Token

namespace Formula

def toDatum (f : Formula) : Datum := .text f.canonical

/-- reads a stored formula; data of another shape than a text is refused without a fault -/
def ofDatum (log : Log) : Datum → Except (Option Fault) Formula × Log
  | .text raw =>
    let (result, written) := read log raw
    (result.mapError some, written)
  | _ => (.error none, log)

end Formula

end CellFormula
