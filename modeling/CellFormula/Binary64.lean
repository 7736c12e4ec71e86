/-
The 64-bit binary floating-point format (IEEE 754 binary64), as sign and magnitude.

A value is its sign bit and the other 63 bits read as one number, its magnitude. The magnitudes below `infinity` are the
finite values, and the larger the magnitude the larger the value, so the magnitude of a finite value is also its place in
the list of the non-negative doubles: 0 is zero, 1 the least positive value, and the last magnitude below `infinity` the
greatest finite one. `units` says what the value at a place is, as a whole number of 2^-1074, the spacing of the
subnormal numbers; every finite double is such a multiple.

- `ofBits_toBits`: the 64 bits lose nothing.
- `units_zero`, `units_of_lt`: the subnormal numbers are evenly spaced and start at zero.
- `units_succ`: from one place to the next the value grows by the spacing of its binade.
-/

namespace CellFormula

/-- the place value of the sign bit, 2^63 -/
def Binary64.signPlace : Nat := 1 <<< 63

/-- a double: its sign bit and the remaining 63 bits as a number -/
structure Binary64 where
  negative : Bool
  magnitude : Nat
  magnitude_lt : magnitude < Binary64.signPlace
deriving DecidableEq

namespace Binary64

/-- the number of doubles in one binade, 2^52, and the place of the least normal number -/
def binade : Nat := 1 <<< 52

/-- the magnitude of the infinities: finite values lie below it, NaNs above -/
def infinity : Nat := 2047 * binade

/-! ## Bits and classes -/

def ofBits (bits : UInt64) : Binary64 where
  negative := signPlace ≤ bits.toNat
  magnitude := bits.toNat % signPlace
  magnitude_lt := Nat.mod_lt _ (by decide)

def toBits (x : Binary64) : UInt64 :=
  UInt64.ofNat (x.negative.toNat * signPlace + x.magnitude)

def neg (x : Binary64) : Binary64 := { x with negative := !x.negative }

def isNaN (x : Binary64) : Bool := infinity < x.magnitude

def isFinite (x : Binary64) : Bool := x.magnitude < infinity

/-- equality as numbers: the two zeros agree, and a NaN agrees with nothing -/
def agrees (x y : Binary64) : Bool :=
  !x.isNaN && !y.isNaN && (x.magnitude == 0 && y.magnitude == 0 || x == y)

/-! ## Places and values -/

/-- the value at a place of the list of the non-negative doubles, in multiples of 2^-1074 -/
def units (place : Nat) : Nat :=
  if place < binade then place else (binade + place % binade) <<< (place / binade - 1)

/-- the distance from the value at a place to the next, in multiples of 2^-1074 -/
def spacing (place : Nat) : Nat := 1 <<< (place / binade - 1)

/-! ## Laws -/

@[ext] theorem ext {x y : Binary64} (hn : x.negative = y.negative) (hm : x.magnitude = y.magnitude) : x = y := by
  cases x; cases y; simp_all

theorem toNat_toBits (x : Binary64) : x.toBits.toNat = x.negative.toNat * signPlace + x.magnitude := by
  have hs : signPlace = 9223372036854775808 := rfl
  have hm := x.magnitude_lt
  have hn : x.negative.toNat ≤ 1 := Bool.toNat_le x.negative
  simp only [toBits, UInt64.toNat_ofNat']
  rw [hs] at *
  omega

theorem ofBits_toBits (x : Binary64) : ofBits x.toBits = x := by
  have hs : signPlace = 9223372036854775808 := rfl
  have hm := x.magnitude_lt
  have hb := x.toNat_toBits
  rw [hs] at hm hb
  ext
  · cases hn : x.negative with
    | false =>
      simp [ofBits, hb, hs, hn]
      omega
    | true => simp [ofBits, hb, hs, hn]
  · cases hn : x.negative with
    | false =>
      simp [ofBits, hb, hs, hn]
      omega
    | true =>
      simp [ofBits, hb, hs, hn]
      omega

@[simp] theorem units_zero : units 0 = 0 := by decide

theorem units_of_lt {place : Nat} (h : place < binade) : units place = place := by
  simp [units, h]

theorem units_of_ge {place : Nat} (h : binade ≤ place) :
    units place = (binade + place % binade) * spacing place := by
  simp [units, spacing, Nat.not_lt.mpr h, Nat.shiftLeft_eq]

theorem units_succ (place : Nat) : units (place + 1) = units place + spacing place := by
  have hb : binade = 4503599627370496 := rfl
  by_cases low : place + 1 ≤ binade
  · have hq : place / binade = 0 := Nat.div_eq_of_lt (by omega)
    rw [units_of_lt (show place < binade by omega)]
    by_cases edge : place + 1 = binade
    · rw [units_of_ge (by omega), edge]
      simp [spacing, hq, Nat.div_self (show 0 < binade by omega), edge]
    · rw [units_of_lt (by omega)]
      simp [spacing, hq]
  · rw [units_of_ge (show binade ≤ place + 1 by omega), units_of_ge (show binade ≤ place by omega)]
    by_cases wrap : (place + 1) % binade = 0
    · have hq : (place + 1) / binade - 1 = place / binade - 1 + 1 := by rw [hb] at *; omega
      have hr : place % binade = binade - 1 := by rw [hb] at *; omega
      have hs : spacing (place + 1) = 2 * spacing place := by
        simp only [spacing, hq, Nat.shiftLeft_eq, Nat.pow_succ]
        omega
      rw [wrap, hr, hs]
      calc (binade + 0) * (2 * spacing place) = (binade + (binade - 1) + 1) * spacing place := by
            rw [show binade + (binade - 1) + 1 = binade * 2 by omega, Nat.add_zero, Nat.mul_assoc]
        _ = (binade + (binade - 1)) * spacing place + spacing place := by rw [Nat.add_mul, Nat.one_mul]
    · have hq : (place + 1) / binade = place / binade := by rw [hb] at *; omega
      have hr : (place + 1) % binade = place % binade + 1 := by rw [hb] at *; omega
      rw [hr, show spacing (place + 1) = spacing place by rw [spacing, hq, spacing], ← Nat.add_assoc, Nat.add_mul _ 1,
        Nat.one_mul]

end Binary64

end CellFormula
