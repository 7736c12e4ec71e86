/-
The double nearest to an exact quotient or decimal number, ties to even.

A non-negative quotient is measured in units of 2^-1074. Where the quotient has more than 53 binary digits the spacing of
the doubles is 2^shift units, and the nearest multiple of that spacing is found by one exact division. The places of a
binade follow each other, so the place of the result is the first place of its binade plus the rounded significand; a
significand that rounds up to the next power of two lands on the first place of the next binade by itself. Past the last
finite place the result is infinite.

A decimal number with a huge exponent is settled by its size, before any power of ten is computed.
-/
import CellFormula.Binary64
import CellFormula.Decimal

namespace CellFormula

/-- the whole number nearest to num / den; of two equally near ones, the even one -/
def roundHalfEven (num den : Nat) : Nat :=
  let quotient := num / den
  let twice := 2 * (num % den)
  if twice < den then quotient
  else if den < twice then quotient + 1
  else quotient + quotient % 2

namespace Binary64

/-- the place of the double nearest to num / den; a place at or past `infinity` means an overflow -/
def nearestPlace (num den : Nat) : Nat :=
  let scaled := num <<< 1074
  let shift := (scaled / den).log2 - 52
  shift * binade + roundHalfEven scaled (den <<< shift)

/-- the non-negative double at a place, infinite from the place `infinity` on -/
def ofPlace (place : Nat) : Binary64 where
  negative := false
  magnitude := min place infinity
  magnitude_lt := Nat.lt_of_le_of_lt (Nat.min_le_right _ _) (by decide)

def nearest (num den : Nat) : Binary64 := ofPlace (nearestPlace num den)

/-- the double nearest to a decimal number, ties to even: from 10^309 on every number overflows, and below 10^-324 every
number is nearest to zero -/
def ofDecimal (d : Decimal) : Binary64 :=
  if d.coefficient = 0 ∨ d.exponent + d.coefficient.log2 < -324 then ofPlace 0
  else if 309 ≤ d.exponent then ofPlace infinity
  else match d.exponent with
    | .ofNat zeros => nearest (d.coefficient * powerOfTen zeros) 1
    | .negSucc places => nearest d.coefficient (powerOfTen (places + 1))

end Binary64

end CellFormula
