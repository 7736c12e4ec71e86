/-
No decimal number with fewer digits reads back as the double.

The search starts on a grid whose first positive point lies above the range, so no grid coarser than that of the shortest
decimal has a point in range. A number that reads back with fewer digits would have to stand on the grid of the shortest
decimal or on a finer one. It would be so small that a power of ten stands between it and the shortest decimal, as large
as a point of a coarser grid, and that power of ten would read back too.

- `shortest_spec`: the shortest decimal of a place lies in range, and no number on a coarser grid does.
- `not_ten_dvd_shortest`: the shortest decimal does not end in a zero.
- `coefficient_lt_of_within`: a number that rounds to a place has as many digits as the shortest decimal, or more.
-/
import CellFormula.Proofs.Binary64.ReadBack

namespace CellFormula.Binary64

/-! ## Coarse grids -/

theorem Range.not_contains_zero {place : ℕ} (positive : place ≠ 0) : (ofPlace place).contains 0 = false := by
  have some_units : 0 < units place := by
    rw [← units_zero]
    exact units_strictMono (Nat.pos_of_ne_zero positive)
  have low : 0 < (ofPlace place).low := Nat.mul_pos (by omega) halfUnit_pos
  rw [← Bool.not_eq_true, contains_iff]
  omega

/-- a power of two has at most 31 decimal digits for each hundred binary ones, and one more -/
theorem two_pow_lt_ten_pow (n : ℕ) : 2 ^ n < 10 ^ (31 * n / 100 + 1) := by
  apply lt_of_pow_lt_pow_left₀ 100 (Nat.zero_le _)
  calc (2 ^ n) ^ 100 = (2 ^ 100) ^ n := Nat.pow_right_comm 2 n 100
    _ ≤ (10 ^ 31) ^ n := Nat.pow_le_pow_left (by decide) n
    _ = 10 ^ (31 * n) := (Nat.pow_mul 10 31 n).symm
    _ < 10 ^ ((31 * n / 100 + 1) * 100) := Nat.pow_lt_pow_right (by decide) (by omega)
    _ = (10 ^ (31 * n / 100 + 1)) ^ 100 := Nat.pow_mul 10 _ 100

theorem halfUnit_lt : halfUnit < 10 ^ 752 := by
  unfold halfUnit
  decide +kernel

/-- the first positive point of the coarsest grid lies above the range -/
theorem Range.high_lt (place : ℕ) : (ofPlace place).high < 10 ^ (ofPlace place).coarsest := by
  set count := units place + units (place + 1)
  have high : (ofPlace place).high = count * halfUnit := rfl
  set digits := 31 * (count.log2 + 1) / 100
  have exponent : (ofPlace place).coarsest = digits + 1 + 752 := by
    rw [coarsest, high, Nat.mul_div_cancel _ halfUnit_pos]
  calc (ofPlace place).high = count * halfUnit := high
    _ < 2 ^ (count.log2 + 1) * halfUnit := Nat.mul_lt_mul_of_pos_right Nat.lt_log2_self halfUnit_pos
    _ ≤ 10 ^ (digits + 1) * 10 ^ 752 := Nat.mul_le_mul (two_pow_lt_ten_pow _).le halfUnit_lt.le
    _ = 10 ^ (ofPlace place).coarsest := by rw [exponent, Nat.pow_add 10 (digits + 1)]

theorem Range.not_contains_of_coarsest_le {place i : ℕ} (positive : place ≠ 0) (coarse : (ofPlace place).coarsest ≤ i)
    (factor : ℕ) : (ofPlace place).contains (factor * 10 ^ i) = false := by
  rcases Nat.eq_zero_or_pos factor with rfl | pos
  · rw [Nat.zero_mul]
    exact not_contains_zero positive
  · have beyond : (ofPlace place).high < factor * 10 ^ i := by
      calc (ofPlace place).high < 10 ^ (ofPlace place).coarsest := high_lt place
        _ ≤ 10 ^ i := Nat.pow_le_pow_right (by decide) coarse
        _ ≤ factor * 10 ^ i := Nat.le_mul_of_pos_left _ pos
    rw [← Bool.not_eq_true, contains_iff]
    omega

/-! ## The shortest decimal -/

/-- the shortest decimal of a positive place lies in range, and no number on a coarser grid does -/
theorem shortest_spec {place : ℕ} (positive : place ≠ 0) :
    ∃ factor j : ℕ, shortest place = ⟨factor, j - 1075⟩ ∧ (Range.ofPlace place).contains (factor * 10 ^ j) = true ∧
      ∀ other i, j < i → (Range.ofPlace place).contains (other * 10 ^ i) = false := by
  obtain ⟨factor, j, eq, inside, coarser⟩ := Range.search_spec positive (Range.ofPlace place).coarsest
  refine ⟨factor, j, by rw [shortest, if_neg positive, eq], inside, ?_⟩
  intro other i finer
  by_cases searched : i ≤ (Range.ofPlace place).coarsest
  · exact coarser other i finer searched
  · exact Range.not_contains_of_coarsest_le positive (by omega) other

theorem not_ten_dvd_shortest {place : ℕ} (positive : place ≠ 0) : ¬ 10 ∣ (shortest place).coefficient := by
  obtain ⟨factor, j, eq, inside, coarser⟩ := shortest_spec positive
  rw [eq]
  rintro ⟨other, rfl⟩
  have point : 10 * other * 10 ^ j = other * 10 ^ (j + 1) := by ring
  rw [point, coarser other (j + 1) (Nat.lt_succ_self j)] at inside
  cases inside

/-- **Fewest digits.** If a number with at most `count` digits in front of its zeros rounds to a positive place, the
shortest decimal of the place has no more digits either. -/
theorem coefficient_lt_of_within {place c count : ℕ} {e : ℤ} (positive : place ≠ 0) (size : c < 10 ^ count)
    (h : Within (c * 10 ^ e) place) : (shortest place).coefficient < 10 ^ count := by
  obtain ⟨factor, j, eq, inside, coarser⟩ := shortest_spec positive
  have off {n i : ℕ} (finer : j < i) : ¬ Within ((n : ℚ) * 10 ^ ((i : ℤ) - 1075)) place := by
    rw [mul_ten_zpow, ← Range.contains_iff_within positive, coarser n i finer]
    exact Bool.false_ne_true
  rw [Range.contains_iff_within positive, ← mul_ten_zpow] at inside
  rw [eq]
  by_contra long
  rw [not_lt] at long
  by_cases grid : j < e + 1075
  · -- the number itself stands on a coarser grid
    obtain ⟨i, rfl⟩ : ∃ i : ℕ, e = i - 1075 := ⟨(e + 1075).toNat, by omega⟩
    exact off (by omega) h
  · cases count with
    | zero =>
      obtain rfl : c = 0 := by simpa using size
      apply off (n := 0) (Nat.lt_succ_self j)
      simpa using h
    | succ count =>
      -- the power of ten between the number and the shortest decimal stands on a coarser grid
      have power : ((10 ^ count : ℕ) : ℚ) * 10 ^ (((j + 1 : ℕ) : ℤ) - 1075) =
          ((10 ^ (count + 1) : ℕ) : ℚ) * 10 ^ ((j : ℤ) - 1075) := by
        rw [mul_ten_zpow, mul_ten_zpow, Nat.pow_succ, Nat.pow_succ']
        congr 2
        ring
      apply off (n := 10 ^ count) (Nat.lt_succ_self j)
      rw [power]
      apply h.between inside
      · calc (c : ℚ) * 10 ^ e ≤ (10 ^ (count + 1) : ℕ) * 10 ^ e := by gcongr
          _ ≤ (10 ^ (count + 1) : ℕ) * 10 ^ ((j : ℤ) - 1075) := by
            gcongr
            · norm_num
            · omega
      · gcongr

end CellFormula.Binary64
