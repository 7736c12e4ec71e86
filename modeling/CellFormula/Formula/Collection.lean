/-
Sets of formulas. Formulas with one canonical text count once.

- `size_insert`: inserting a formula adds one exactly where no equal formula was there.
- `contains_ofTexts`: the set read from texts holds exactly the formulas accepted among them.
-/
import Std.Data.HashSet
import CellFormula.Formula

namespace CellFormula.Formula

/-- a set of formulas, equal ones counted once -/
structure Collection where
  formulas : Std.HashSet Formula

namespace Collection

def empty : Collection := ⟨∅⟩

def size (c : Collection) : Nat := c.formulas.size

def contains (c : Collection) (f : Formula) : Bool := c.formulas.contains f

def insert (c : Collection) (f : Formula) : Collection := ⟨c.formulas.insert f⟩

def ofTexts (raws : List String) : Collection :=
  raws.foldl (fun c raw => match parse raw with | .ok f => c.insert f | .error _ => c) empty

theorem size_insert (c : Collection) (f : Formula) :
    (c.insert f).size = if c.contains f then c.size else c.size + 1 :=
  Std.HashSet.size_insert

theorem contains_insert (c : Collection) (f g : Formula) : (c.insert f).contains g = (f == g || c.contains g) :=
  Std.HashSet.contains_insert

theorem contains_ofTexts (raws : List String) (g : Formula) :
    (ofTexts raws).contains g = true ↔ ∃ raw ∈ raws, ∃ f, parse raw = .ok f ∧ (f == g) = true := by
  have step : ∀ (raws : List String) (c : Collection),
      (raws.foldl (fun c raw => match parse raw with | .ok f => c.insert f | .error _ => c) c).contains g = true ↔
        c.contains g = true ∨ ∃ raw ∈ raws, ∃ f, parse raw = .ok f ∧ (f == g) = true := by
    intro raws
    induction raws with
    | nil => simp
    | cons raw raws ih =>
      intro c
      rw [List.foldl_cons, ih]
      cases h : parse raw with
      | error fault => simp [h]
      | ok f => simp [h, contains_insert, or_assoc, or_left_comm]
  have none_yet : empty.contains g = false := Std.HashSet.contains_empty
  simp [ofTexts, step, none_yet]

end Collection

end CellFormula.Formula
