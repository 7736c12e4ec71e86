/-
The values of the doubles as rational numbers, in the order of their places.

A place is a double of the list of the non-negative ones, the list being continued past the greatest finite value as if
exponents had no bound. Every value is a whole number of units of 2^-1074.

- `value_strictMono`: the larger the place, the larger the value.
- `units_add`: from the first place of a binade on, the values are the multiples of its spacing, up to and including the
  first value of the next binade.
- `midpoint`: halfway from one place to the next, where rounding changes.
- `value_eq_mul_stride`, `midpoint_eq_mul_stride`: values and midpoints of one binade, measured in its spacing.
-/
import Mathlib.Tactic
import CellFormula.Binary64

namespace CellFormula.Binary64

/-! ## Spacing -/

theorem binade_eq : binade = 2 ^ 52 := rfl

theorem binade_pos : 0 < binade := by decide

theorem spacing_eq_pow (place : ℕ) : spacing place = 2 ^ (place / binade - 1) := by
  simp [spacing, Nat.shiftLeft_eq]

theorem spacing_pos (place : ℕ) : 0 < spacing place := by
  rw [spacing_eq_pow]
  positivity

theorem units_strictMono : StrictMono units :=
  strictMono_nat_of_lt_succ fun place => by
    have pos := spacing_pos place
    rw [units_succ]
    omega

/-! ## The places of one binade

A place is written as `shift * binade + r`, with `r` at least `binade` unless the shift is 0: its significand is then
`r` and its spacing 2^shift. The significand `2 * binade` stands for the first place of the next binade. -/

theorem units_add {shift r : ℕ} (full : r ≤ 2 * binade) (normal : shift = 0 ∨ binade ≤ r) :
    units (shift * binade + r) = r * 2 ^ shift := by
  have pos := binade_pos
  by_cases small : r < binade
  · obtain rfl : shift = 0 := by omega
    simp [units_of_lt small]
  · obtain ⟨k, rfl⟩ := Nat.exists_eq_add_of_le (Nat.le_of_not_lt small)
    have low : binade ≤ shift * binade + (binade + k) := by omega
    rw [units_of_ge low, spacing_eq_pow]
    have reorder : shift * binade + (binade + k) = k + binade * (shift + 1) := by ring
    rw [reorder, Nat.add_mul_mod_self_left, Nat.add_mul_div_left _ _ pos]
    by_cases last : k = binade
    · subst last
      simp only [Nat.mod_self, Nat.div_self pos, Nat.add_zero]
      rw [show 1 + (shift + 1) - 1 = shift + 1 by omega, pow_succ]
      ring
    · have inside : k < binade := by omega
      rw [Nat.mod_eq_of_lt inside, Nat.div_eq_of_lt inside]
      simp

theorem spacing_le {shift r : ℕ} (normal : shift = 0 ∨ binade ≤ r) : 2 ^ shift ≤ spacing (shift * binade + r) := by
  rw [spacing_eq_pow]
  apply Nat.pow_le_pow_right (by decide)
  have pos := binade_pos
  rcases normal with rfl | low
  · exact Nat.zero_le _
  · have quotient : shift + 1 ≤ (shift * binade + r) / binade := by
      rw [Nat.le_div_iff_mul_le pos, Nat.add_mul]
      omega
    omega

/-! ## Values -/

def value (place : ℕ) : ℚ := units place / 2 ^ 1074

theorem value_strictMono : StrictMono value := by
  intro p q h
  have lt : (units p : ℚ) < units q := by exact_mod_cast units_strictMono h
  exact div_lt_div_of_pos_right lt (by positivity)

theorem value_lt_value_succ (place : ℕ) : value place < value (place + 1) := value_strictMono (Nat.lt_succ_self place)

@[simp] theorem value_zero : value 0 = 0 := by simp [value]

theorem value_succ (place : ℕ) : value (place + 1) = value place + spacing place / 2 ^ 1074 := by
  rw [value, value, units_succ, Nat.cast_add, add_div]

/-- halfway between the values at a place and at the next -/
def midpoint (place : ℕ) : ℚ := (value place + value (place + 1)) / 2

theorem midpoint_zero : midpoint 0 = 1 / 2 ^ 1075 := by
  have one : units 1 = 1 := units_of_lt (by decide)
  rw [midpoint, value_zero, zero_add, value, one, Nat.cast_one, div_div, ← pow_succ]

theorem midpoint_lt_value (place : ℕ) : midpoint place < value (place + 1) := by
  have step := value_lt_value_succ place
  unfold midpoint
  linarith

/-- the spacing of the places with a given shift, as a number -/
def stride (shift : ℕ) : ℚ := 2 ^ shift / 2 ^ 1074

theorem stride_pos (shift : ℕ) : 0 < stride shift := by
  unfold stride
  positivity

theorem value_eq_mul_stride {shift r : ℕ} (full : r ≤ 2 * binade) (normal : shift = 0 ∨ binade ≤ r) :
    value (shift * binade + r) = r * stride shift := by
  rw [value, units_add full normal, stride, Nat.cast_mul, Nat.cast_pow, Nat.cast_ofNat, mul_div_assoc]

theorem midpoint_eq_mul_stride {shift r : ℕ} (full : r < 2 * binade) (normal : shift = 0 ∨ binade ≤ r) :
    midpoint (shift * binade + r) = (r + 1 / 2) * stride shift := by
  have next : value (shift * binade + (r + 1)) = (r + 1 : ℕ) * stride shift :=
    value_eq_mul_stride full (normal.imp_right Nat.le_succ_of_le)
  rw [← Nat.add_assoc, Nat.cast_add, Nat.cast_one] at next
  rw [midpoint, value_eq_mul_stride full.le normal, next]
  ring

theorem mul_stride_le_midpoint {shift r : ℕ} (full : r ≤ 2 * binade) (normal : shift = 0 ∨ binade ≤ r) :
    (r + 1 / 2) * stride shift ≤ midpoint (shift * binade + r) := by
  have wide : (2 ^ shift : ℚ) ≤ spacing (shift * binade + r) := by exact_mod_cast spacing_le normal
  have next : value (shift * binade + r) + stride shift ≤ value (shift * binade + r + 1) := by
    rw [value_succ, stride]
    gcongr
  rw [value_eq_mul_stride full normal] at next
  rw [midpoint, value_eq_mul_stride full normal]
  linarith

end CellFormula.Binary64
