/-
A place in a text from which tokens are read one by one.

A cursor holds the text still unread and the byte offset at which it starts. `next?` passes over blanks and takes one
piece; a piece that spells no token is reported as a fault at its start, with its first character, and reading can go on
behind it. The text ends where only blanks are left.

- `length_rest_lt_of_next?`: every item uses up text, so reading ends.
- `items`: all that a text holds, read through to its end.
-/
import CellFormula.Fault
import CellFormula.Piece

namespace CellFormula

/-- the unread end of a text and the byte offset at which it starts -/
structure Cursor where
  offset : Nat
  rest : List Char

namespace Cursor

def start (text : String) : Cursor := ⟨0, text.toList⟩

/-- the item that a piece gives, found at an offset and with a first character -/
def item (offset : Nat) (first : Char) (piece : Piece) : Item :=
  match piece.token with
  | some token => .ok ⟨token, String.ofList piece.chars, offset⟩
  | none => .error (.unreadable offset first)

/-- the next item, and the cursor behind it; none at the end of the text -/
def next? (c : Cursor) : Option (Item × Cursor) :=
  match c.rest.dropWhile Text.isBlank with
  | [] => none
  | first :: more =>
    let offset := c.offset + Text.byteSize (c.rest.takeWhile Text.isBlank)
    let piece := Piece.read first more
    some (item offset first piece, ⟨offset + Text.byteSize piece.chars, piece.rest⟩)

theorem length_rest_lt_of_next? {c d : Cursor} {i : Item} (h : c.next? = some (i, d)) :
    d.rest.length < c.rest.length := by
  unfold next? at h
  split at h
  · simp at h
  · rename_i first more dropped
    simp only [Option.some.injEq, Prod.mk.injEq] at h
    obtain ⟨_, rfl⟩ := h
    have shorter := Piece.length_rest_lt first more
    have kept := (List.dropWhile_sublist (l := c.rest) Text.isBlank).length_le
    rw [dropped] at kept
    exact Nat.lt_of_lt_of_le shorter kept

/-- all items to the end of the text, going on behind faults -/
def items (c : Cursor) : List Item :=
  match _taken : c.next? with
  | none => []
  | some (i, d) => i :: d.items
termination_by c.rest.length
decreasing_by exact length_rest_lt_of_next? (by assumption)

end Cursor

end CellFormula
