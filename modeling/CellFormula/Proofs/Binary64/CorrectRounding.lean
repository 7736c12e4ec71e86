/-
Rounding to nearest, said of the doubles themselves.

A finite double has a sign, a significand and an exponent, and these make up its value. Among all finite doubles, positive
and negative, a number is rounded to one that no other is nearer to; of two that are as near, to the one with the even
significand. This is the same as rounding to the nearest place, as long as the number does not overflow, and it overflows
exactly from halfway past the greatest finite value on.

- `isNearest_iff_within`: the nearest place is known by the midpoints around it.
- `IsNearest.mono`: rounding keeps order.
- `IsNearest.infinity_le_iff`: where numbers overflow.
- `toRat_eq`: the value of a double is that of its place, with its sign.
- `rounds_iff_isNearestDouble`: the nearest place is the place of the nearest double.
-/
import CellFormula.Proofs.Binary64.Nearest

namespace CellFormula.Binary64

/-! ## Places and midpoints -/

/-- of two numbers the lower is as near as the other up to halfway between them -/
theorem abs_sub_le_abs_sub_iff {a b v : ℚ} (order : a < b) : |v - a| ≤ |v - b| ↔ v ≤ (a + b) / 2 := by
  rw [← sq_le_sq]
  constructor
  · intro h
    by_contra beyond
    rw [not_le] at beyond
    nlinarith
  · intro h
    nlinarith

theorem abs_sub_le_abs_sub_iff' {a b v : ℚ} (order : a < b) : |v - b| ≤ |v - a| ↔ (a + b) / 2 ≤ v := by
  rw [← sq_le_sq]
  constructor
  · intro h
    by_contra below
    rw [not_le] at below
    nlinarith
  · intro h
    nlinarith

theorem midpoint_strictMono : StrictMono midpoint := by
  intro p q h
  have left : value p < value q := value_strictMono h
  have right : value (p + 1) < value (q + 1) := value_strictMono (Nat.succ_lt_succ h)
  unfold midpoint
  linarith

/-- a number no nearer to the next value lies below the midpoint, or on it -/
theorem lt_midpoint_of_nearer {v : ℚ} {place : ℕ} (nearer : |v - value place| ≤ |v - value (place + 1)|)
    (even : |v - value (place + 1)| = |v - value place| → Even place) :
    v < midpoint place ∨ v = midpoint place ∧ Even place := by
  have step := value_lt_value_succ place
  have high : v ≤ midpoint place := (abs_sub_le_abs_sub_iff step).mp nearer
  rcases high.lt_or_eq with inside | edge
  · exact .inl inside
  · refine .inr ⟨edge, even (le_antisymm ?_ nearer)⟩
    exact (abs_sub_le_abs_sub_iff' step).mpr edge.ge

/-- a number no nearer to the value before lies above the midpoint, or on it -/
theorem midpoint_lt_of_nearer {v : ℚ} {before : ℕ} (nearer : |v - value (before + 1)| ≤ |v - value before|)
    (even : |v - value before| = |v - value (before + 1)| → Even (before + 1)) :
    midpoint before < v ∨ midpoint before = v ∧ Even (before + 1) := by
  have step := value_lt_value_succ before
  have low : midpoint before ≤ v := (abs_sub_le_abs_sub_iff' step).mp nearer
  rcases low.lt_or_eq with inside | edge
  · exact .inl inside
  · refine .inr ⟨edge, even (le_antisymm ?_ nearer)⟩
    exact (abs_sub_le_abs_sub_iff step).mpr edge.ge

/-- the nearest place is the one between whose midpoints the number lies -/
theorem isNearest_iff_within {v : ℚ} {place : ℕ} : IsNearest v place ↔ Within v place := by
  refine ⟨?_, Within.isNearest⟩
  intro h
  constructor
  · rintro before rfl
    exact midpoint_lt_of_nearer (h.nearest before) (h.even before (Nat.lt_succ_self before).ne)
  · exact lt_midpoint_of_nearer (h.nearest (place + 1)) (h.even (place + 1) (Nat.succ_ne_self place))

/-- the larger number does not round to the smaller place -/
theorem IsNearest.mono {v w : ℚ} {p q : ℕ} (hp : IsNearest v p) (hq : IsNearest w q) (h : v ≤ w) : p ≤ q := by
  by_contra order
  obtain ⟨before, rfl⟩ := Nat.exists_eq_add_one_of_ne_zero (Nat.ne_zero_of_lt (Nat.lt_of_not_le order))
  have below : q ≤ before := Nat.le_of_lt_succ (Nat.lt_of_not_le order)
  -- both numbers lie on the midpoint between the places, so they are one number
  have same : v = w := by
    apply le_antisymm h
    calc w ≤ midpoint q := (isNearest_iff_within.mp hq).le_midpoint
      _ ≤ midpoint before := midpoint_strictMono.monotone below
      _ ≤ v := (isNearest_iff_within.mp hp).midpoint_le
  subst same
  exact absurd (hp.unique hq) (by omega)

/-! ## The last midpoint -/

theorem midpoint_last : midpoint (infinity - 1) = 2 ^ 1024 - 2 ^ 970 := by
  have place : infinity - 1 = 2045 * binade + (2 * binade - 1) := by decide
  have wide : stride 2045 = 2 ^ 971 := by
    rw [stride, div_eq_iff (by positivity), ← pow_add]
  have count : ((2 * binade - 1 : ℕ) : ℚ) = 2 ^ 53 - 1 := by
    rw [binade_eq]
    norm_num
  have split (w : ℚ) : (2 ^ 53 - 1 + 1 / 2) * (2 * w) = 2 ^ 53 * (2 * w) - w := by ring
  rw [place, midpoint_eq_mul_stride (by decide) (by decide), wide, count]
  calc ((2 : ℚ) ^ 53 - 1 + 1 / 2) * 2 ^ 971 = 2 ^ 53 * 2 ^ 971 - 2 ^ 970 := by rw [pow_succ' 2 970, split]
    _ = 2 ^ 1024 - 2 ^ 970 := by rw [← pow_add]

/-- a number overflows exactly from halfway between the greatest finite value and 2^1024 on -/
theorem IsNearest.infinity_le_iff {v : ℚ} {place : ℕ} (h : IsNearest v place) :
    infinity ≤ place ↔ 2 ^ 1024 - 2 ^ 970 ≤ v := by
  rw [← midpoint_last]
  have within := isNearest_iff_within.mp h
  have positive : 0 < infinity := by decide
  constructor
  · intro large
    obtain ⟨before, rfl⟩ := Nat.exists_eq_add_one_of_ne_zero (show place ≠ 0 by omega)
    calc midpoint (infinity - 1) ≤ midpoint before := midpoint_strictMono.monotone (by omega)
      _ ≤ v := within.midpoint_le
  · intro large
    by_contra finite
    have order : place ≤ infinity - 1 := by omega
    have edge : midpoint place = midpoint (infinity - 1) := by
      apply le_antisymm (midpoint_strictMono.monotone order)
      exact large.trans within.le_midpoint
    obtain rfl : place = infinity - 1 := midpoint_strictMono.injective edge
    -- the tie goes upwards, as the greatest finite place is odd
    rcases within.high with inside | ⟨-, even⟩
    · exact absurd large (not_le.mpr inside)
    · exact absurd even (by decide)

/-! ## The value of a double -/

/-- the significand of a finite double: its fraction, behind a leading one unless its exponent field is zero -/
def significand (x : Binary64) : ℕ :=
  if x.magnitude / 2 ^ 52 = 0 then x.magnitude % 2 ^ 52 else 2 ^ 52 + x.magnitude % 2 ^ 52

/-- the exponent of the last binary digit of the significand -/
def exponent (x : Binary64) : ℤ := (max (x.magnitude / 2 ^ 52) 1 : ℕ) - 1075

/-- the number that a finite double stands for -/
def toRat (x : Binary64) : ℚ := (if x.negative then -1 else 1) * (x.significand * 2 ^ x.exponent)

theorem significand_mul_exponent (x : Binary64) : (x.significand : ℚ) * 2 ^ x.exponent = value x.magnitude := by
  unfold significand exponent value
  by_cases low : x.magnitude < 2 ^ 52
  · have field : x.magnitude / 2 ^ 52 = 0 := Nat.div_eq_of_lt low
    rw [field, if_pos rfl, Nat.mod_eq_of_lt low, units_of_lt low, Nat.zero_max,
      show ((1 : ℕ) : ℤ) - 1075 = -(1074 : ℕ) by norm_num, zpow_neg, zpow_natCast, div_eq_mul_inv]
  · have field : 0 < x.magnitude / 2 ^ 52 := Nat.div_pos (Nat.le_of_not_lt low) (by decide)
    have high : binade ≤ x.magnitude := Nat.le_of_not_lt low
    have scale : ((x.magnitude / 2 ^ 52 : ℕ) : ℤ) - 1075 = ((x.magnitude / 2 ^ 52 - 1 : ℕ) : ℤ) - (1074 : ℕ) := by
      omega
    rw [if_neg field.ne', max_eq_left field, scale, zpow_sub₀ two_ne_zero, zpow_natCast, zpow_natCast, units_of_ge high,
      spacing_eq_pow, binade_eq, ← mul_div_assoc]
    push_cast
    rfl

theorem toRat_eq (x : Binary64) : x.toRat = (if x.negative then -1 else 1) * value x.magnitude := by
  rw [toRat, significand_mul_exponent]

theorem toRat_of_positive {x : Binary64} (positive : x.negative = false) : x.toRat = value x.magnitude := by
  simp [toRat_eq, positive]

theorem even_significand_iff (x : Binary64) : Even x.significand ↔ Even x.magnitude := by
  unfold significand
  split
  · simp only [Nat.even_iff]
    omega
  · simp only [Nat.even_iff]
    omega

theorem value_nonneg (place : ℕ) : 0 ≤ value place := by
  unfold value
  positivity

/-! ## The nearest double -/

/-- a finite, non-negative double that no finite double is nearer to the number than; if another is as near, its
significand is even -/
structure IsNearestDouble (v : ℚ) (x : Binary64) : Prop where
  positive : x.negative = false
  finite : x.isFinite = true
  nearest : ∀ y : Binary64, y.isFinite = true → |v - x.toRat| ≤ |v - y.toRat|
  even : ∀ y : Binary64, y.isFinite = true → y ≠ x → |v - y.toRat| = |v - x.toRat| → Even x.significand

theorem magnitude_ofPlace {place : ℕ} (h : place < infinity) : (ofPlace place).magnitude = place := Nat.min_eq_left h.le

theorem toRat_ofPlace {place : ℕ} (h : place < infinity) : (ofPlace place).toRat = value place := by
  rw [toRat_of_positive rfl, magnitude_ofPlace h]

theorem Rounds.isNearestDouble {v : ℚ} {x : Binary64} (nonneg : 0 ≤ v) (h : Rounds v x) : IsNearestDouble v x := by
  -- a negative double is no nearer than zero
  have behind (k : ℕ) : |v - value 0| + value k = |v - -1 * value k| := by
    have low := value_nonneg k
    rw [value_zero, sub_zero, abs_of_nonneg nonneg, abs_of_nonneg (by linarith)]
    ring
  refine ⟨h.positive, h.finite, ?_, ?_⟩
  · intro y finite
    rw [toRat_of_positive h.positive, toRat_eq y]
    by_cases negative : y.negative = true
    · rw [if_pos negative, ← behind]
      have closer := h.nearest.nearest 0
      have low := value_nonneg y.magnitude
      linarith
    · rw [if_neg negative, one_mul]
      exact h.nearest.nearest y.magnitude
  · intro y finite other tie
    rw [toRat_of_positive h.positive, toRat_eq y] at tie
    rw [even_significand_iff]
    by_cases negative : y.negative = true
    · rw [if_pos negative, ← behind] at tie
      have closer := h.nearest.nearest 0
      have low := value_nonneg y.magnitude
      by_cases zero : x.magnitude = 0
      · rw [zero]
        exact Even.zero
      · exact h.nearest.even 0 (Ne.symm zero) (by linarith)
    · rw [if_neg negative, one_mul] at tie
      refine h.nearest.even y.magnitude ?_ tie
      intro same
      exact other (ext (by rw [h.positive, Bool.eq_false_iff.mpr negative]) same)

/-- a finite double is compared with the finite double at another place -/
theorem IsNearestDouble.nearer {v : ℚ} {x : Binary64} (h : IsNearestDouble v x) {place : ℕ} (finite : place < infinity)
    (other : place ≠ x.magnitude) :
    |v - value x.magnitude| ≤ |v - value place| ∧ (|v - value place| = |v - value x.magnitude| → Even x.magnitude) := by
  rw [← toRat_of_positive h.positive, ← toRat_ofPlace finite, ← even_significand_iff]
  refine ⟨h.nearest _ (isFinite_ofPlace.mpr finite), h.even _ (isFinite_ofPlace.mpr finite) ?_⟩
  intro same
  rw [← same, magnitude_ofPlace finite] at other
  exact other rfl

theorem IsNearestDouble.rounds {v : ℚ} {x : Binary64} (h : IsNearestDouble v x) (below : v < 2 ^ 1024 - 2 ^ 970) :
    Rounds v x := by
  have finite : x.magnitude < infinity := of_decide_eq_true h.finite
  refine ⟨h.positive, h.finite, isNearest_iff_within.mpr ⟨?_, ?_⟩⟩
  · intro before eq
    obtain ⟨nearer, even⟩ := h.nearer (show before < infinity by omega) (by omega)
    rw [← eq] at nearer even ⊢
    exact midpoint_lt_of_nearer nearer even
  · by_cases last : x.magnitude + 1 < infinity
    · obtain ⟨nearer, even⟩ := h.nearer last (Nat.succ_ne_self x.magnitude)
      exact lt_midpoint_of_nearer nearer even
    · -- the next place is no double; the bound stands for the midpoint before it
      have place : x.magnitude = infinity - 1 := by omega
      rw [place, midpoint_last]
      exact .inl below

/-- a number that does not overflow rounds to the double that is nearest to it -/
theorem rounds_iff_isNearestDouble {v : ℚ} {x : Binary64} (nonneg : 0 ≤ v) :
    Rounds v x ↔ IsNearestDouble v x ∧ v < 2 ^ 1024 - 2 ^ 970 := by
  constructor
  · intro h
    refine ⟨h.isNearestDouble nonneg, ?_⟩
    rw [← not_le, ← h.nearest.infinity_le_iff, not_le]
    exact of_decide_eq_true h.finite
  · intro h
    exact h.1.rounds h.2

end CellFormula.Binary64
