/-
Rounding to nearest, ties to even, said without any computation, and the rounding functions measured against it.

`IsNearest` compares a rational number with the values at all places; it knows no bound on the exponent, so a number
overflows exactly where its nearest place lies at or past `infinity`.

- `IsNearest.unique`: a number has at most one nearest place.
- `Within.isNearest`: the numbers between the midpoints around a place are nearest to it.
- `isNearest_nearestPlace`: the place computed for a quotient is the nearest one.
- `ofDecimal_eq`: a decimal number is read as the double at its nearest place.
-/
import CellFormula.Binary64.Rounding
import CellFormula.Proofs.Binary64.Places

namespace CellFormula

namespace Binary64

/-! ## The nearest place -/

/-- no value is nearer to `v` than that at `place`; if another is as near, `place` is even, and so is its significand -/
structure IsNearest (v : ℚ) (place : ℕ) : Prop where
  nearest : ∀ other, |v - value place| ≤ |v - value other|
  even : ∀ other, other ≠ place → |v - value other| = |v - value place| → Even place

/-- `v` lies between the midpoints on both sides of a place, and on one of them only if the place is even -/
structure Within (v : ℚ) (place : ℕ) : Prop where
  low : ∀ before, before + 1 = place → midpoint before < v ∨ midpoint before = v ∧ Even place
  high : v < midpoint place ∨ v = midpoint place ∧ Even place

theorem IsNearest.unique {v : ℚ} {p q : ℕ} (hp : IsNearest v p) (hq : IsNearest v q) : p = q := by
  wlog order : p ≤ q generalizing p q
  · exact (this hq hp (Nat.le_of_not_le order)).symm
  by_contra distinct
  have same : |v - value q| = |v - value p| := le_antisymm (hq.nearest p) (hp.nearest q)
  have evenp : Even p := hp.even q (Ne.symm distinct) same
  have evenq : Even q := hq.even p distinct same.symm
  -- between two even places lies another, and it is nearer to the number halfway
  have gap : p + 1 < q := by
    obtain ⟨i, rfl⟩ := evenp
    obtain ⟨j, rfl⟩ := evenq
    omega
  have left := value_lt_value_succ p
  have right : value (p + 1) < value q := value_strictMono gap
  have closer := hp.nearest (p + 1)
  rcases abs_eq_abs.mp same with eq | eq
  · linarith
  · rw [abs_of_pos (show 0 < v - value p by linarith)] at closer
    rcases abs_cases (v - value (p + 1)) with ⟨h, _⟩ | ⟨h, _⟩ <;> linarith

theorem abs_sub_le_of_le_midpoint {v : ℚ} {place other : ℕ} (above : place < other) (high : v ≤ midpoint place) :
    |v - value place| ≤ |v - value other| ∧ (|v - value other| = |v - value place| → v = midpoint place) := by
  have next : value (place + 1) ≤ value other := value_strictMono.monotone above
  have step := value_lt_value_succ place
  unfold midpoint at high ⊢
  have right : |v - value other| = value other - v := by
    rw [abs_sub_comm]
    exact abs_of_nonneg (by linarith)
  rw [right]
  rcases abs_cases (v - value place) with ⟨h, _⟩ | ⟨h, _⟩ <;> rw [h]
  · exact ⟨by linarith, fun eq => by linarith⟩
  · exact ⟨by linarith, fun eq => by linarith⟩

theorem abs_sub_le_of_midpoint_le {v : ℚ} {before other : ℕ} (below : other ≤ before) (low : midpoint before ≤ v) :
    |v - value (before + 1)| ≤ |v - value other| ∧
      (|v - value other| = |v - value (before + 1)| → midpoint before = v) := by
  have next : value other ≤ value before := value_strictMono.monotone below
  have step := value_lt_value_succ before
  unfold midpoint at low ⊢
  have left : |v - value other| = v - value other := abs_of_nonneg (by linarith)
  rw [left]
  rcases abs_cases (v - value (before + 1)) with ⟨h, _⟩ | ⟨h, _⟩ <;> rw [h]
  · exact ⟨by linarith, fun eq => by linarith⟩
  · exact ⟨by linarith, fun eq => by linarith⟩

theorem Within.le_midpoint {v : ℚ} {place : ℕ} (h : Within v place) : v ≤ midpoint place :=
  h.high.elim le_of_lt fun edge => edge.1.le

theorem Within.midpoint_le {v : ℚ} {before : ℕ} (h : Within v (before + 1)) : midpoint before ≤ v :=
  (h.low before rfl).elim le_of_lt fun edge => edge.1.le

theorem Within.isNearest {v : ℚ} {place : ℕ} (h : Within v place) : IsNearest v place := by
  refine ⟨?_, ?_⟩
  · intro other
    rcases lt_trichotomy other place with below | rfl | above
    · obtain ⟨before, rfl⟩ := Nat.exists_eq_add_one_of_ne_zero (Nat.ne_zero_of_lt below)
      exact (abs_sub_le_of_midpoint_le (Nat.le_of_lt_succ below) h.midpoint_le).1
    · exact le_rfl
    · exact (abs_sub_le_of_le_midpoint above h.le_midpoint).1
  · intro other distinct tie
    rcases Nat.lt_or_gt_of_ne distinct with below | above
    · obtain ⟨before, rfl⟩ := Nat.exists_eq_add_one_of_ne_zero (Nat.ne_zero_of_lt below)
      have edge := (abs_sub_le_of_midpoint_le (Nat.le_of_lt_succ below) h.midpoint_le).2 tie
      exact (h.low before rfl).elim (fun lt => absurd edge lt.ne) And.right
    · have edge := (abs_sub_le_of_le_midpoint above h.le_midpoint).2 tie
      exact h.high.elim (fun lt => absurd edge lt.ne) And.right

/-! ## Quotients -/

theorem roundHalfEven_bounds (num : ℕ) {den : ℕ} (pos : 0 < den) :
    ((num : ℚ) / den < roundHalfEven num den + 1 / 2 ∨
      (num : ℚ) / den = roundHalfEven num den + 1 / 2 ∧ Even (roundHalfEven num den)) ∧
    ((roundHalfEven num den : ℚ) - 1 / 2 < num / den ∨
      (roundHalfEven num den : ℚ) - 1 / 2 = num / den ∧ Even (roundHalfEven num den)) := by
  have dpos : (0 : ℚ) < den := by exact_mod_cast pos
  have rest : num % den < den := Nat.mod_lt _ pos
  have whole : (num : ℚ) / den = (num / den : ℕ) + (num % den : ℕ) / den := by
    rw [div_eq_iff dpos.ne', add_mul, div_mul_cancel₀ _ dpos.ne']
    exact_mod_cast (Nat.div_add_mod' num den).symm
  rw [whole]
  unfold roundHalfEven
  simp only
  generalize num / den = q
  generalize num % den = m at rest
  split_ifs with below beyond
  · have part : (m : ℚ) / den < 1 / 2 := by
      rw [div_lt_div_iff₀ dpos two_pos]
      exact_mod_cast (by omega : m * 2 < 1 * den)
    have nonneg : (0 : ℚ) ≤ m / den := by positivity
    exact ⟨.inl (by linarith), .inl (by linarith)⟩
  · have part : 1 / 2 < (m : ℚ) / den := by
      rw [div_lt_div_iff₀ two_pos dpos]
      exact_mod_cast (by omega : 1 * den < m * 2)
    have less : (m : ℚ) / den < 1 := by
      rw [div_lt_one dpos]
      exact_mod_cast rest
    push_cast
    exact ⟨.inl (by linarith), .inl (by linarith)⟩
  · have part : (m : ℚ) / den = 1 / 2 := by
      rw [div_eq_div_iff dpos.ne' two_ne_zero]
      exact_mod_cast (by omega : m * 2 = 1 * den)
    rw [part]
    rcases Nat.even_or_odd q with even | odd
    · rw [Nat.even_iff.mp even, Nat.add_zero]
      exact ⟨.inr ⟨rfl, even⟩, .inl (by linarith)⟩
    · rw [Nat.odd_iff.mp odd]
      push_cast
      exact ⟨.inl (by linarith), .inr ⟨by ring, odd.add_one⟩⟩

/-- the shift leaves a quotient the digits of a significand, and no fewer unless there is nothing to shift -/
theorem shift_bounds (q : ℕ) :
    q < 2 * binade * 2 ^ (q.log2 - 52) ∧ (q.log2 - 52 = 0 ∨ binade * 2 ^ (q.log2 - 52) ≤ q) := by
  rw [binade_eq, ← pow_succ', ← pow_add, ← pow_add]
  refine ⟨?_, ?_⟩
  · exact lt_of_lt_of_le Nat.lt_log2_self (Nat.pow_le_pow_right (by decide) (by omega))
  · by_cases none : q.log2 - 52 = 0
    · exact .inl none
    · right
      have some_digits : q ≠ 0 := by
        rintro rfl
        simp at none
      exact le_trans (Nat.pow_le_pow_right (by decide) (by omega)) (Nat.log2_self_le some_digits)

/-- the significand of the nearest place, and the part of the list of places that it counts in -/
theorem nearestPlace_parts (num : ℕ) {den : ℕ} (pos : 0 < den) :
    ∃ shift r, nearestPlace num den = shift * binade + r ∧ r ≤ 2 * binade ∧
      (shift = 0 ∨ binade ≤ r ∧ (binade : ℚ) ≤ (num <<< 1074 : ℕ) / (den <<< shift : ℕ)) ∧
      r = roundHalfEven (num <<< 1074) (den <<< shift) := by
  unfold nearestPlace
  simp only
  generalize num <<< 1074 = scaled
  obtain ⟨short, long⟩ := shift_bounds (scaled / den)
  generalize (scaled / den).log2 - 52 = shift at short long ⊢
  have pos' : 0 < den <<< shift := by
    rw [Nat.shiftLeft_eq]
    positivity
  have dpos : (0 : ℚ) < (den <<< shift : ℕ) := by exact_mod_cast pos'
  obtain ⟨upper, lower⟩ := roundHalfEven_bounds scaled pos'
  set r := roundHalfEven scaled (den <<< shift)
  refine ⟨shift, r, rfl, ?_, ?_, rfl⟩
  · have small : (scaled : ℚ) / (den <<< shift : ℕ) < (2 * binade : ℕ) := by
      rw [Nat.div_lt_iff_lt_mul pos, Nat.mul_assoc, Nat.mul_comm (2 ^ shift), ← Nat.shiftLeft_eq] at short
      rw [div_lt_iff₀ dpos]
      exact_mod_cast short
    have close : (r : ℚ) < (2 * binade : ℕ) + 1 := by
      rcases lower with h | h <;> linarith
    exact Nat.le_of_lt_succ (by exact_mod_cast close)
  · rcases long with none | long
    · exact .inl none
    · right
      have large : (binade : ℚ) ≤ scaled / (den <<< shift : ℕ) := by
        rw [Nat.le_div_iff_mul_le pos, Nat.mul_assoc, Nat.mul_comm (2 ^ shift), ← Nat.shiftLeft_eq] at long
        rw [le_div_iff₀ dpos]
        exact_mod_cast long
      have close : (binade : ℚ) < r + 1 := by
        rcases upper with h | h <;> linarith
      exact ⟨Nat.le_of_lt_succ (by exact_mod_cast close), large⟩

theorem shiftLeft_div_shiftLeft (num up shift : ℕ) {den : ℕ} (pos : 0 < den) :
    ((num <<< up : ℕ) : ℚ) / (den <<< shift : ℕ) * (2 ^ shift / 2 ^ up) = num / den := by
  have den_ne : (den : ℚ) ≠ 0 := Nat.cast_ne_zero.mpr pos.ne'
  rw [Nat.shiftLeft_eq, Nat.shiftLeft_eq]
  push_cast
  field_simp

theorem isNearest_nearestPlace (num : ℕ) {den : ℕ} (pos : 0 < den) :
    IsNearest ((num : ℚ) / den) (nearestPlace num den) := by
  obtain ⟨shift, r, place, full, normal, rounded⟩ := nearestPlace_parts num pos
  have pos' : 0 < den <<< shift := by
    rw [Nat.shiftLeft_eq]
    positivity
  obtain ⟨upper, lower⟩ := roundHalfEven_bounds (num <<< 1074) pos'
  rw [← rounded] at upper lower
  rw [place, ← shiftLeft_div_shiftLeft num 1074 shift pos, ← stride]
  set x : ℚ := (num <<< 1074 : ℕ) / (den <<< shift : ℕ)
  have wide := stride_pos shift
  have normal' : shift = 0 ∨ binade ≤ r := normal.imp_right And.left
  have parity : Even r → Even (shift * binade + r) := fun even =>
    ((show Even binade by decide).mul_left shift).add even
  apply Within.isNearest
  refine ⟨?_, ?_⟩
  · intro before eq
    by_cases inside : shift = 0 ∨ binade < r
    · have positive : r ≠ 0 := by
        rcases inside with rfl | beyond
        · omega
        · omega
      obtain ⟨k, rfl⟩ := Nat.exists_eq_add_one_of_ne_zero positive
      obtain rfl : before = shift * binade + k := by omega
      rw [midpoint_eq_mul_stride (by omega) (by omega)]
      rw [Nat.cast_add, Nat.cast_one] at lower
      rcases lower with less | ⟨tie, even⟩
      · exact .inl (by nlinarith)
      · exact .inr ⟨by rw [← tie]; ring, parity even⟩
    · -- the first place of a binade: what rounds to it from below is still at least its value
      have first : r = binade := by omega
      have large : (binade : ℚ) ≤ x := (normal.resolve_left (by omega)).2
      left
      calc midpoint before < value (before + 1) := midpoint_lt_value before
        _ = binade * stride shift := by rw [eq, value_eq_mul_stride full normal', first]
        _ ≤ x * stride shift := by nlinarith
  · have edge := mul_stride_le_midpoint full normal'
    rcases upper with less | ⟨tie, even⟩
    · exact .inl (by nlinarith)
    · rw [tie]
      exact edge.lt_or_eq.imp_right fun eq => ⟨eq, parity even⟩

end Binary64

/-! ## Decimal numbers -/

def Decimal.toRat (d : Decimal) : ℚ := d.coefficient * 10 ^ d.exponent

theorem Decimal.toRat_ofNat (coefficient zeros : ℕ) :
    toRat ⟨coefficient, .ofNat zeros⟩ = (coefficient * powerOfTen zeros : ℕ) / (1 : ℕ) := by
  simp [toRat, powerOfTen]

theorem Decimal.toRat_negSucc (coefficient places : ℕ) :
    toRat ⟨coefficient, .negSucc places⟩ = coefficient / (powerOfTen (places + 1) : ℕ) := by
  simp [toRat, powerOfTen, zpow_negSucc, div_eq_mul_inv]

namespace Binary64

/-- a number up to half the least positive value is nearest to zero -/
theorem isNearest_zero {v : ℚ} (small : v ≤ 1 / 2 ^ 1075) : IsNearest v 0 := by
  apply Within.isNearest
  constructor
  · intro before eq
    exact absurd eq (Nat.succ_ne_zero before)
  · rw [midpoint_zero]
    exact small.lt_or_eq.imp_right fun edge => ⟨edge, Even.zero⟩

theorem value_infinity : value infinity = 2 ^ 1024 := by
  have units_eq : units infinity = 2 ^ 1024 * 2 ^ 1074 := by
    have place : infinity = 2046 * binade + binade := rfl
    rw [place, units_add (by omega) (.inr le_rfl), binade_eq, ← pow_add, ← pow_add]
  rw [value, units_eq, Nat.cast_mul, Nat.cast_pow, Nat.cast_pow, Nat.cast_ofNat, mul_div_assoc,
    div_self (by positivity), mul_one]

theorem IsNearest.infinity_le {v : ℚ} {place : ℕ} (h : IsNearest v place) (large : 2 ^ 1024 ≤ v) :
    infinity ≤ place := by
  by_contra finite
  have less : value place < value infinity := value_strictMono (Nat.lt_of_not_le finite)
  have closer := h.nearest infinity
  rw [← value_infinity] at large
  rw [abs_of_nonneg (show 0 ≤ v - value place by linarith),
    abs_of_nonneg (show 0 ≤ v - value infinity by linarith)] at closer
  linarith

theorem ofPlace_eq_of_infinity_le {place : ℕ} (h : infinity ≤ place) : ofPlace place = ofPlace infinity := by
  simp [ofPlace, h]

/-- the bound below which a decimal number is taken for zero -/
theorem toRat_lt_of_exponent_lt {d : Decimal} (h : d.exponent + d.coefficient.log2 < -324) :
    d.toRat < 1 / 2 ^ 1075 := by
  set log := d.coefficient.log2
  have size : (d.coefficient : ℚ) < 2 * 2 ^ log := by
    have lt : d.coefficient < 2 ^ (log + 1) := Nat.lt_log2_self
    rw [pow_succ'] at lt
    exact_mod_cast lt
  have exponent : (10 : ℚ) ^ d.exponent ≤ 10 ^ (-325 : ℤ) / 10 ^ log := by
    rw [← zpow_natCast, ← zpow_sub₀ (by norm_num)]
    exact zpow_le_zpow_right₀ (by norm_num) (by omega)
  have ratio : (2 : ℚ) ^ log ≤ 10 ^ log := by gcongr; norm_num
  have least : (2 : ℚ) * 10 ^ (-325 : ℤ) < 1 / 2 ^ 1075 := by
    have powers : 2 * 2 ^ 1075 < 10 ^ 325 := by decide +kernel
    rw [zpow_neg, ← div_eq_mul_inv, div_lt_div_iff₀ (by positivity) (by positivity), one_mul]
    exact_mod_cast powers
  calc d.toRat ≤ 2 * 2 ^ log * (10 ^ (-325 : ℤ) / 10 ^ log) := by
        unfold Decimal.toRat
        gcongr
    _ = 2 * 10 ^ (-325 : ℤ) * (2 ^ log / 10 ^ log) := by ring
    _ ≤ 2 * 10 ^ (-325 : ℤ) * 1 := by
        gcongr
        exact div_le_one_of_le₀ ratio (by positivity)
    _ < 1 / 2 ^ 1075 := by rwa [mul_one]

/-- the bound from which on a decimal number is taken for an overflow -/
theorem le_toRat_of_le_exponent {d : Decimal} (nonzero : d.coefficient ≠ 0) (h : 309 ≤ d.exponent) :
    2 ^ 1024 ≤ d.toRat := by
  have one_le : (1 : ℚ) ≤ d.coefficient := by exact_mod_cast Nat.one_le_iff_ne_zero.mpr nonzero
  have powers : 2 ^ 1024 ≤ 10 ^ 309 := by decide +kernel
  calc (2 : ℚ) ^ 1024 ≤ 10 ^ (309 : ℕ) := by exact_mod_cast powers
    _ = 10 ^ (309 : ℤ) := rfl
    _ ≤ 10 ^ d.exponent := zpow_le_zpow_right₀ (by norm_num) h
    _ ≤ d.coefficient * 10 ^ d.exponent := le_mul_of_one_le_left (by positivity) one_le

/-- reading a decimal number rounds it correctly: the result stands at the nearest place, infinite past the last one -/
theorem ofDecimal_spec (d : Decimal) : ∃ place, IsNearest d.toRat place ∧ ofDecimal d = ofPlace place := by
  unfold ofDecimal
  split_ifs with tiny huge
  · refine ⟨0, isNearest_zero ?_, rfl⟩
    rcases tiny with zero | small
    · simp only [Decimal.toRat, zero, Nat.cast_zero, zero_mul]
      positivity
    · exact (toRat_lt_of_exponent_lt small).le
  · obtain ⟨coefficient, zeros | places⟩ := d
    · have nonzero : coefficient ≠ 0 := fun zero => tiny (.inl zero)
      have large := le_toRat_of_le_exponent nonzero huge
      have nearest := isNearest_nearestPlace (coefficient * powerOfTen zeros) one_pos
      rw [← Decimal.toRat_ofNat] at nearest
      exact ⟨_, nearest, (ofPlace_eq_of_infinity_le (nearest.infinity_le large)).symm⟩
    · have negative := Int.negSucc_lt_zero places
      simp only at huge
      omega
  · obtain ⟨coefficient, zeros | places⟩ := d
    · have nearest := isNearest_nearestPlace (coefficient * powerOfTen zeros) one_pos
      rw [← Decimal.toRat_ofNat] at nearest
      exact ⟨_, nearest, rfl⟩
    · have pos : 0 < powerOfTen (places + 1) := Nat.pow_pos (by decide)
      have nearest := isNearest_nearestPlace coefficient pos
      rw [← Decimal.toRat_negSucc] at nearest
      exact ⟨_, nearest, rfl⟩

theorem ofDecimal_eq {d : Decimal} {place : ℕ} (h : IsNearest d.toRat place) : ofDecimal d = ofPlace place := by
  obtain ⟨other, nearest, eq⟩ := ofDecimal_spec d
  rw [eq, h.unique nearest]

/-- the finite, non-negative double that a number rounds to -/
structure Rounds (v : ℚ) (x : Binary64) : Prop where
  positive : x.negative = false
  finite : x.isFinite = true
  nearest : IsNearest v x.magnitude

theorem isFinite_ofPlace {place : ℕ} : (ofPlace place).isFinite = true ↔ place < infinity := by
  simp [isFinite, ofPlace]

theorem ofPlace_magnitude {x : Binary64} (positive : x.negative = false) (finite : x.isFinite = true) :
    ofPlace x.magnitude = x := by
  have below : x.magnitude ≤ infinity := (of_decide_eq_true finite).le
  ext
  · exact positive.symm
  · exact Nat.min_eq_left below

theorem rounds_iff {d : Decimal} {x : Binary64} : Rounds d.toRat x ↔ ofDecimal d = x ∧ x.isFinite = true := by
  refine ⟨?_, ?_⟩
  · intro h
    rw [ofDecimal_eq h.nearest, ofPlace_magnitude h.positive h.finite]
    exact ⟨rfl, h.finite⟩
  · intro h
    rcases h with ⟨rfl, finite⟩
    obtain ⟨place, nearest, eq⟩ := ofDecimal_spec d
    rw [eq] at finite ⊢
    have same : (ofPlace place).magnitude = place := Nat.min_eq_left (isFinite_ofPlace.mp finite).le
    exact ⟨rfl, finite, same.symm ▸ nearest⟩

end Binary64

end CellFormula
