/-
The log of the reading of formulas.

An entry is written for every token accepted and for every formula accepted or refused. Each kind of entry has a level, and
a log keeps the entries up to its limit, in the order in which they are written.

- `toList_add`: writing an entry appends it or leaves the log alone, by its level.
- `limit_add`: writing keeps the limit.
-/
import CellFormula.Fault

namespace CellFormula

/-- the levels of detail, from nothing to everything -/
inductive Level where
  | off
  | error
  | warn
  | info
  | debug
  | trace
deriving DecidableEq

def Level.detail : Level → Nat
  | .off => 0
  | .error => 1
  | .warn => 2
  | .info => 3
  | .debug => 4
  | .trace => 5

/-! ## Entries -/

def Log.category : String := "FORMULA"

/-- what a log tells -/
inductive Entry where
  /-- a token was accepted; the depth counts the parentheses open after it -/
  | token (text : String) (offset depth : Nat)
  /-- a formula was accepted; the count is that of the names of its variables -/
  | accepted (raw canonical : String) (names : Nat)
  /-- a formula was refused -/
  | rejected (raw : String) (fault : Fault)
deriving DecidableEq

namespace Entry

def level : Entry → Level
  | .token .. => .trace
  | .accepted .. => .debug
  | .rejected .. => .debug

def message : Entry → String
  | .token text offset depth =>
    "token " ++ Text.quotedString text ++ " at " ++ offset.repr ++ " (depth " ++ depth.repr ++ ")"
  | .accepted raw canonical names =>
    "accepted " ++ Text.quotedString raw ++ " as " ++ canonical ++ " (" ++ names.repr ++ " variables)"
  | .rejected raw fault => "rejected " ++ Text.quotedString raw ++ ": " ++ fault.message

end Entry

/-! ## Writing -/

/-- the entries written so far, and the most detailed level that is kept -/
structure Log where
  limit : Level
  entries : Array Entry

namespace Log

def blank (limit : Level) : Log := ⟨limit, #[]⟩

def keeps (log : Log) (entry : Entry) : Bool := entry.level.detail ≤ log.limit.detail

/-- writes an entry, if entries of its level are kept -/
def add (log : Log) (entry : Entry) : Log :=
  if log.keeps entry then { log with entries := log.entries.push entry } else log

theorem toList_add (log : Log) (entry : Entry) :
    (log.add entry).entries.toList = log.entries.toList ++ if log.keeps entry then [entry] else [] := by
  unfold add
  split <;> simp

@[simp] theorem limit_add (log : Log) (entry : Entry) : (log.add entry).limit = log.limit := by
  unfold add
  split <;> rfl

end Log

end CellFormula
