/-
The structure check of a formula, span by span.

A draft holds the tokens accepted so far. A span is refused if its kind cannot follow the token before it, or if it is a
right parenthesis without a left one to close; the refusal is kept and the draft changes no more. At the end the last token
must end an operand, and every parenthesis must be closed.

- `accept_of_refused`: a refusal is final.
- `accept_of_objection`: a refusal changes nothing but the refusal itself.
- `accept_of_no_objection`: otherwise the span is taken.
-/
import CellFormula.Log

namespace CellFormula

/-- a formula under construction -/
structure Draft where
  /-- the tokens accepted, in order -/
  tokens : Array Token
  /-- how many of them are left parentheses -/
  opened : Nat
  /-- how many of them are right parentheses -/
  closed : Nat
  /-- the kind of the last one -/
  previous : Option Token.Kind
  /-- where the last one starts -/
  lastOffset : Nat
  /-- where the last one ends -/
  stop : Nat
  /-- why no more are taken -/
  refusal : Option Fault
  log : Log

namespace Draft

def start (log : Log) : Draft where
  tokens := #[]
  opened := 0
  closed := 0
  previous := none
  lastOffset := 0
  stop := 0
  refusal := none
  log := log

/-! ## One span -/

/-- why a token of this kind cannot stand after the previous one -/
def misplaced? (previous : Option Token.Kind) (position : Nat) (kind : Token.Kind) : Option Fault :=
  match previous with
  | none => if kind.startsOperand then none else some (.badStart position kind)
  | some before =>
    if before.endsOperand then
      if kind.startsOperand then some (.operatorExpected position kind) else none
    else
      if kind.startsOperand then none else some (.operandExpected position kind)

/-- why a span cannot be the next one -/
def objection? (d : Draft) (s : Span) : Option Fault :=
  match misplaced? d.previous s.offset s.kind with
  | some fault => some fault
  | none => if s.kind = .rightParen ∧ d.opened ≤ d.closed then some (.unopened s.offset) else none

def push (d : Draft) (s : Span) : Draft :=
  let opened := if s.kind = .leftParen then d.opened + 1 else d.opened
  let closed := if s.kind = .rightParen then d.closed + 1 else d.closed
  { d with
    tokens := d.tokens.push s.token
    opened := opened
    closed := closed
    previous := some s.kind
    lastOffset := s.offset
    stop := s.stop
    log := d.log.add (.token s.text s.offset (opened - closed)) }

/-- records a fault; only the first one counts -/
def refuse (d : Draft) (fault : Fault) : Draft :=
  match d.refusal with
  | some _ => d
  | none => { d with refusal := some fault }

def accept (d : Draft) (s : Span) : Draft :=
  match d.refusal with
  | some _ => d
  | none =>
    match d.objection? s with
    | some fault => d.refuse fault
    | none => d.push s

/-! ## The end -/

/-- the tokens of the finished formula, or why it is none -/
def finish (d : Draft) : Except Fault (List Token) :=
  match d.refusal, d.previous with
  | some fault, _ => .error fault
  | none, none => .error .empty
  | none, some last =>
    if !last.endsOperand then .error (.badEnd d.lastOffset last)
    else if d.opened ≠ d.closed then .error (.unclosed d.stop (d.opened - d.closed))
    else .ok d.tokens.toList

/-! ## A stream of items -/

/-- takes the next item of a stream: a span, or the fault that stands in its place -/
def take (d : Draft) : Item → Draft
  | .ok s => d.accept s
  | .error fault => d.refuse fault

/-- takes items up to the first refusal; the second part is what is left unread -/
def consume (d : Draft) : List Item → Draft × List Item
  | [] => (d, [])
  | item :: rest =>
    let next := d.take item
    if next.refusal.isSome then (next, rest) else next.consume rest

/-! ## Laws -/

theorem accept_of_refused {d : Draft} {fault : Fault} (h : d.refusal = some fault) (s : Span) : d.accept s = d := by
  simp [accept, h]

theorem accept_of_objection {d : Draft} {s : Span} {fault : Fault} (free : d.refusal = none)
    (h : d.objection? s = some fault) : d.accept s = { d with refusal := some fault } := by
  simp [accept, refuse, free, h]

theorem accept_of_no_objection {d : Draft} {s : Span} (free : d.refusal = none) (h : d.objection? s = none) :
    d.accept s = d.push s := by
  simp [accept, free, h]

end Draft

end CellFormula
