/-
Non-negative decimal numbers, coefficient · 10^exponent, and their positional notation.

Positional notation writes every digit and no exponent: zeros follow the coefficient where the exponent is positive, and
where it is negative a point cuts off that many places, with zeros in front so that a digit stands before the point.

- `length_padded`: the padded digits have more digits than places, so the point never comes first.
-/

namespace CellFormula

def powerOfTen (n : Nat) : Nat := Nat.pow 10 n

/-- the non-negative decimal number coefficient · 10^exponent -/
structure Decimal where
  coefficient : Nat
  exponent : Int
deriving DecidableEq, Repr

namespace Decimal

def ofDigits (digits : List Char) : Nat := Nat.ofDigitChars 10 digits 0

/-- the digits of a coefficient, with zeros in front where it has no more digits than places -/
def padded (coefficient places : Nat) : List Char :=
  (Nat.toDigits 10 coefficient).leftpad (places + 1) '0'

def positional : Decimal → List Char
  | ⟨coefficient, .ofNat zeros⟩ => Nat.toDigits 10 coefficient ++ List.replicate zeros '0'
  | ⟨coefficient, .negSucc places⟩ =>
    let digits := padded coefficient (places + 1)
    let whole := digits.length - (places + 1)
    digits.take whole ++ '.' :: digits.drop whole

theorem ofDigits_toDigits (n : Nat) : ofDigits (Nat.toDigits 10 n) = n :=
  Nat.ofDigitChars_toDigits (by decide) (by decide)

theorem length_padded (coefficient places : Nat) : places < (padded coefficient places).length := by
  simp only [padded, List.leftpad, List.length_append, List.length_replicate]
  omega

end Decimal

end CellFormula
