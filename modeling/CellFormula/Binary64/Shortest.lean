/-
The shortest decimal number that reads back as a given double, and the text of a double.

All arithmetic is on whole numbers: every double and every midpoint between neighbouring doubles is a multiple of
2^-1075 = 5^1075 · 10^-1075, so in units of 10^-1075 the numbers that read back as a double are those between two whole
numbers, ends included exactly where the place of the double is even. The decimal numbers with exponent e are the
multiples of 10^(e + 1075) in these units. The search goes from a grid too coarse to reach the double down to finer ones
and stops at the first that has a point in range; only the two points next to the double need a look. Of two points in
range the nearer is taken, and of two equally near ones the upper.

- `choose?_mem`: a chosen point is in range.
- `choose?_eq_none`: no point is chosen exactly where neither neighbour is in range.
-/
import CellFormula.Binary64
import CellFormula.Decimal

namespace CellFormula

namespace Binary64

/-! ## Numbers that read back -/

/-- 2^-1075, half the unit of `units`, in multiples of 10^-1075 -/
def halfUnit : Nat := Nat.pow 5 1075

/-- the numbers that read back as one double, in multiples of 10^-1075 -/
structure Range where
  low : Nat
  middle : Nat
  high : Nat
  /-- whether the two ends read back as the double too -/
  closed : Bool

namespace Range

/-- the range of the double at a positive place: halfway to either neighbour -/
def ofPlace (place : Nat) : Range where
  low := (units (place - 1) + units place) * halfUnit
  middle := (units place + units place) * halfUnit
  high := (units place + units (place + 1)) * halfUnit
  closed := place % 2 == 0

def contains (r : Range) (n : Nat) : Bool :=
  if r.closed then r.low ≤ n && n ≤ r.high else r.low < n && n < r.high

/-! ## Search -/

/-- the multiple of the step, given by its factor, that stands for the middle -/
def choose? (r : Range) (step : Nat) : Option Nat :=
  let below := r.middle / step
  match r.contains (below * step), r.contains ((below + 1) * step) with
  | true, true => if r.middle - below * step < (below + 1) * step - r.middle then some below else some (below + 1)
  | true, false => some below
  | false, true => some (below + 1)
  | false, false => none

/-- the first choice on the grids 10^k, 10^(k-1), …, 1; the middle itself lies on the last -/
def search (r : Range) : Nat → Decimal
  | 0 => ⟨r.middle, -1075⟩
  | k + 1 =>
    match r.choose? (powerOfTen (k + 1)) with
    | some factor => ⟨factor, (k + 1 : Nat) - 1075⟩
    | none => r.search k

/-- the exponent of a grid whose first positive point lies above the range -/
def coarsest (r : Range) : Nat := 31 * ((r.high / halfUnit).log2 + 1) / 100 + 753

theorem choose?_mem {r : Range} {step factor : Nat} (h : r.choose? step = some factor) :
    r.contains (factor * step) = true := by
  simp only [choose?] at h
  split at h
  · split at h <;> simp_all
  · simp_all
  · simp_all
  · simp at h

theorem choose?_eq_none {r : Range} {step : Nat} :
    r.choose? step = none ↔
      r.contains (r.middle / step * step) = false ∧ r.contains ((r.middle / step + 1) * step) = false := by
  simp only [choose?]
  split
  · split <;> simp_all
  · simp_all
  · simp_all
  · simp_all

end Range

/-! ## The text of a double -/

/-- the shortest decimal number that reads back as the finite double at a place, and of those the nearest -/
def shortest (place : Nat) : Decimal :=
  if place = 0 then ⟨0, 0⟩
  else
    let range := Range.ofPlace place
    range.search range.coarsest

/-- the text of a double: its shortest decimal in positional notation, behind a minus sign where it is negative -/
def chars (x : Binary64) : List Char :=
  if x.isNaN then "NaN".toList
  else
    let size := if x.isFinite then (shortest x.magnitude).positional else "inf".toList
    if x.negative then '-' :: size else size

end Binary64

end CellFormula
