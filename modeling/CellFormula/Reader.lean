/-
Reading the tokens of a text on request.

A reader is a cursor that halts: pulled as a stream it gives nothing more after the first fault, while `skip` reads on from
wherever the cursor stands and neither looks at the halt nor causes one. A stream can be gathered into the list of its
spans, or checked for structure; both stop pulling at the first fault, and what they have pulled is used up.

- `length_rest_lt_of_pull`: every pull uses up text.
- `pull_of_halted`: a halted reader gives nothing more.
-/
import CellFormula.Cursor
import CellFormula.Draft

namespace CellFormula

/-- a cursor, and whether the stream has ended with a fault -/
structure Reader where
  cursor : Cursor
  halted : Bool

namespace Reader

def start (text : String) : Reader := ⟨Cursor.start text, false⟩

/-! ## Single items -/

/-- the next item of the stream; the stream halts behind a fault -/
def pull (r : Reader) : Option (Item × Reader) :=
  if r.halted then none
  else r.cursor.next?.map fun (item, cursor) => (item, ⟨cursor, !item.isOk⟩)

/-- the next item of the text, whether the stream has halted or not -/
def skip (r : Reader) : Option (Item × Reader) :=
  r.cursor.next?.map fun (item, cursor) => (item, ⟨cursor, r.halted⟩)

theorem length_rest_lt_of_pull {r q : Reader} {i : Item} (h : r.pull = some (i, q)) :
    q.cursor.rest.length < r.cursor.rest.length := by
  unfold pull at h
  split at h
  · simp at h
  · obtain ⟨⟨item, cursor⟩, found, same⟩ := Option.map_eq_some_iff.mp h
    simp only [Prod.mk.injEq] at same
    obtain ⟨_, rfl⟩ := same
    exact Cursor.length_rest_lt_of_next? found

theorem pull_of_halted {r : Reader} (h : r.halted = true) : r.pull = none := by
  simp [pull, h]

/-! ## The rest of the stream -/

/-- the spans of the rest of the stream, or its fault -/
def gather (r : Reader) : Except Fault (List Span) × Reader :=
  match _taken : r.pull with
  | none => (.ok [], r)
  | some (.error fault, q) => (.error fault, q)
  | some (.ok span, q) =>
    let (spans, rest) := q.gather
    (spans.map (span :: ·), rest)
termination_by r.cursor.rest.length
decreasing_by exact length_rest_lt_of_pull (by assumption)

/-- the draft made of the rest of the stream, up to the first refusal -/
def check (r : Reader) (d : Draft) : Draft × Reader :=
  match _taken : r.pull with
  | none => (d, r)
  | some (item, q) =>
    let next := d.take item
    if next.refusal.isSome then (next, q) else q.check next
termination_by r.cursor.rest.length
decreasing_by exact length_rest_lt_of_pull (by assumption)

/-! ## Requests -/

inductive Request where
  /-- one item of the stream -/
  | pull
  /-- one item of the text -/
  | skip
  /-- all spans left in the stream -/
  | gather
  /-- the structure check of all spans left in the stream -/
  | check
deriving DecidableEq

inductive Reply where
  | item (item : Option Item)
  | spans (spans : Except Fault (List Span))
  | tokens (tokens : Except Fault (List Token))

def answer (r : Reader) (log : Log) : Request → Reply × Reader × Log
  | .pull =>
    match r.pull with
    | none => (.item none, r, log)
    | some (item, q) => (.item (some item), q, log)
  | .skip =>
    match r.skip with
    | none => (.item none, r, log)
    | some (item, q) => (.item (some item), q, log)
  | .gather =>
    let (spans, q) := r.gather
    (.spans spans, q, log)
  | .check =>
    let (draft, q) := r.check (.start log)
    (.tokens draft.finish, q, draft.log)

def run (r : Reader) (log : Log) : List Request → List Reply × Reader × Log
  | [] => ([], r, log)
  | request :: more =>
    let (reply, q, written) := r.answer log request
    let (replies, last, all) := q.run written more
    (reply :: replies, last, all)

end Reader

/-- the spans of a text, or its first fault -/
def tokenize (text : String) : Except Fault (List Span) := (Reader.start text).gather.1

end CellFormula
