/-
The shortest decimal of a double reads back as the double.

The search for it runs over whole numbers of 10^-1075. The range of a place contains those that lie between the midpoints
around the place, so that they are nearest to the place; the search never comes back with any other number, because the
value of the double itself is in range. A grid on which neither neighbour of this value is in range has no point there.

- `Range.contains_iff_within`: a range contains what rounds to its place.
- `Within.between`: the numbers that round to a place have no gaps between them.
- `Range.search_spec`: the search ends on the coarsest grid with a point in range.
- `isNearest_shortest`: the shortest decimal of a place is nearest to the place.
-/
import CellFormula.Binary64.Shortest
import CellFormula.Proofs.Binary64.Nearest

namespace CellFormula.Binary64

/-! ## Ranges -/

theorem halfUnit_pos : 0 < halfUnit := by
  unfold halfUnit
  exact Nat.pow_pos (by decide)

theorem half_sum_values (p q : ℕ) : (value p + value q) / 2 = ((units p + units q) * halfUnit : ℕ) / 10 ^ 1075 := by
  have powers {k e : ℕ} (next : e = k + 1) : (10 : ℚ) ^ e = 2 ^ k * 2 * (Nat.pow 5 e : ℕ) := by
    rw [Nat.pow_eq, Nat.cast_pow, ← pow_succ, ← next, ← mul_pow]
    norm_num
  have ten : (10 : ℚ) ^ 1075 = 2 ^ 1074 * 2 * (halfUnit : ℕ) := by
    unfold halfUnit
    exact powers rfl
  have half_ne : ((halfUnit : ℕ) : ℚ) ≠ 0 := Nat.cast_ne_zero.mpr halfUnit_pos.ne'
  rw [ten, Nat.cast_mul, mul_div_mul_right _ _ half_ne, value, value, ← add_div, div_div, Nat.cast_add]

theorem Range.contains_iff {r : Range} {n : ℕ} :
    r.contains n = true ↔
      (r.low < n ∨ r.low = n ∧ r.closed = true) ∧ (n < r.high ∨ n = r.high ∧ r.closed = true) := by
  unfold contains
  split
  · rename_i closed
    simp only [closed, and_true, Bool.and_eq_true, decide_eq_true_eq]
    omega
  · rename_i opened
    simp [opened]

/-- the range of a positive place contains what lies between the midpoints around the place -/
theorem Range.contains_iff_within {place n : ℕ} (positive : place ≠ 0) :
    (ofPlace place).contains n = true ↔ Within ((n : ℚ) / 10 ^ 1075) place := by
  have scale : (0 : ℚ) < 10 ^ 1075 := by positivity
  have even : (ofPlace place).closed = true ↔ Even place := beq_iff_eq.trans Nat.even_iff.symm
  obtain ⟨before, rfl⟩ := Nat.exists_eq_add_one_of_ne_zero positive
  have left : midpoint before = ((ofPlace (before + 1)).low : ℕ) / 10 ^ 1075 := half_sum_values before (before + 1)
  have right : midpoint (before + 1) = ((ofPlace (before + 1)).high : ℕ) / 10 ^ 1075 :=
    half_sum_values (before + 1) (before + 1 + 1)
  rw [contains_iff, even]
  constructor
  · intro h
    refine ⟨?_, ?_⟩
    · rintro _ ⟨⟩
      rw [left, div_lt_div_iff_of_pos_right scale, div_left_inj' scale.ne', Nat.cast_lt, Nat.cast_inj]
      exact h.1
    · rw [right, div_lt_div_iff_of_pos_right scale, div_left_inj' scale.ne', Nat.cast_lt, Nat.cast_inj]
      exact h.2
  · intro h
    have low := h.low before rfl
    have high := h.high
    rw [left, div_lt_div_iff_of_pos_right scale, div_left_inj' scale.ne', Nat.cast_lt, Nat.cast_inj] at low
    rw [right, div_lt_div_iff_of_pos_right scale, div_left_inj' scale.ne', Nat.cast_lt, Nat.cast_inj] at high
    exact ⟨low, high⟩

theorem Range.contains_middle {place : ℕ} (positive : place ≠ 0) :
    (ofPlace place).contains (ofPlace place).middle = true := by
  have left : units (place - 1) < units place := units_strictMono (by omega)
  have right : units place < units (place + 1) := units_strictMono (Nat.lt_succ_self place)
  apply contains_iff.mpr
  refine ⟨?_, ?_⟩
  · exact .inl (Nat.mul_lt_mul_of_pos_right (by omega) halfUnit_pos)
  · exact .inl (Nat.mul_lt_mul_of_pos_right (by omega) halfUnit_pos)

/-- what lies between two numbers that round to a place rounds to it too -/
theorem Within.between {v w u : ℚ} {place : ℕ} (hv : Within v place) (hw : Within w place) (low : v ≤ u) (high : u ≤ w) :
    Within u place := by
  constructor
  · intro before next
    rcases hv.low before next with above | ⟨edge, even⟩
    · exact .inl (above.trans_le low)
    · rw [edge]
      exact low.lt_or_eq.imp_right fun same => ⟨same, even⟩
  · rcases hw.high with below | ⟨edge, even⟩
    · exact .inl (high.trans_lt below)
    · rw [← edge]
      exact high.lt_or_eq.imp_right fun same => ⟨same, even⟩

theorem Range.contains_between {place a b n : ℕ} (positive : place ≠ 0) (ha : (ofPlace place).contains a = true)
    (hb : (ofPlace place).contains b = true) (low : a ≤ n) (high : n ≤ b) : (ofPlace place).contains n = true := by
  rw [contains_iff_within positive] at *
  apply ha.between hb
  · gcongr
  · gcongr

/-! ## The search -/

/-- where neither neighbour of the middle is in range, no point of the grid is -/
theorem Range.not_contains_of_choose? {place step : ℕ} (positive : place ≠ 0) (pos : 0 < step)
    (none : (ofPlace place).choose? step = none) (factor : ℕ) : (ofPlace place).contains (factor * step) = false := by
  obtain ⟨below, above⟩ := choose?_eq_none.mp none
  have middle := contains_middle positive
  set r := ofPlace place
  have under : r.middle / step * step ≤ r.middle := Nat.div_mul_le_self r.middle step
  have beyond : r.middle ≤ (r.middle / step + 1) * step := by
    rw [Nat.add_mul, Nat.one_mul]
    exact (Nat.lt_div_mul_add pos).le
  by_contra inside
  rw [Bool.not_eq_false] at inside
  by_cases order : factor ≤ r.middle / step
  · have lower : factor * step ≤ r.middle / step * step := Nat.mul_le_mul_right step order
    rw [contains_between positive inside middle lower under] at below
    cases below
  · have upper : (r.middle / step + 1) * step ≤ factor * step := Nat.mul_le_mul_right step (by omega)
    rw [contains_between positive middle inside beyond upper] at above
    cases above

/-- the search ends on a point in range, and no grid between the first one and that of the point has another -/
theorem Range.search_spec {place : ℕ} (positive : place ≠ 0) (k : ℕ) :
    ∃ factor j : ℕ, (ofPlace place).search k = ⟨factor, j - 1075⟩ ∧
      (ofPlace place).contains (factor * 10 ^ j) = true ∧
      ∀ other i, j < i → i ≤ k → (ofPlace place).contains (other * 10 ^ i) = false := by
  induction k with
  | zero =>
    refine ⟨(ofPlace place).middle, 0, rfl, ?_, fun _ i => by omega⟩
    rw [Nat.pow_zero, Nat.mul_one]
    exact contains_middle positive
  | succ k ih =>
    unfold search
    split
    · rename_i factor chosen
      exact ⟨factor, k + 1, rfl, choose?_mem chosen, fun _ i => by omega⟩
    · rename_i none
      obtain ⟨factor, j, eq, inside, coarser⟩ := ih
      refine ⟨factor, j, eq, inside, ?_⟩
      intro other i finer bound
      rcases bound.lt_or_eq with less | rfl
      · exact coarser other i finer (by omega)
      · exact not_contains_of_choose? positive (Nat.pow_pos (by decide)) none other

theorem mul_ten_zpow (factor j : ℕ) :
    (factor : ℚ) * 10 ^ ((j : ℤ) - 1075) = ((factor * 10 ^ j : ℕ) : ℚ) / 10 ^ 1075 := by
  rw [zpow_sub₀ (by norm_num), zpow_natCast, Nat.cast_mul, Nat.cast_pow, Nat.cast_ofNat, mul_div_assoc]
  rfl

theorem isNearest_shortest (place : ℕ) : IsNearest (shortest place).toRat place := by
  unfold shortest
  split_ifs with zero
  · subst zero
    apply isNearest_zero
    simp only [Decimal.toRat, Nat.cast_zero, zero_mul]
    positivity
  · obtain ⟨factor, j, eq, inside, -⟩ := Range.search_spec zero (Range.ofPlace place).coarsest
    simp only
    rw [eq, Decimal.toRat, mul_ten_zpow]
    exact ((Range.contains_iff_within zero).mp inside).isNearest

end CellFormula.Binary64
