/-
The shape of numerals, the number they write, and what a scan makes of them.

The number is said digit by digit: every digit counts a power of ten, those of the fraction a negative one, and the
exponent moves the point. Rounding is that of this number, whatever is computed on the way to it.

- `scan_wellFormed`: what is scanned from a text that starts with a digit has the shape of a numeral.
- `scan_chars`: the text of a numeral is scanned back to it, whatever stands apart behind it.
- `toRat_value`: the value computed for a numeral is the number it writes.
- `exists_place`, `rounds_amount_iff`: the double of a numeral is the one nearest to that number.
- `positional`: the positional notation of a decimal is the text of a numeral that writes it.
-/
import CellFormula.Numeral
import CellFormula.Proofs.Binary64.ReadBack
import CellFormula.Proofs.Text

namespace CellFormula

open Text

/-! ## Digits by place -/

/-- the whole number that digits write, each of them counting a power of ten -/
def placeValue : List Char → ℕ
  | [] => 0
  | d :: ds => (d.toNat - '0'.toNat) * 10 ^ ds.length + placeValue ds

theorem ofDigits_eq_placeValue (ds : List Char) : Decimal.ofDigits ds = placeValue ds := by
  induction ds with
  | nil => rfl
  | cons d ds ih =>
    unfold Decimal.ofDigits at ih ⊢
    rw [Nat.ofDigitChars_cons, Nat.ofDigitChars_eq_ofDigitChars_zero, ih, placeValue, Nat.mul_zero, Nat.zero_add,
      Nat.mul_comm]

theorem placeValue_append (ds es : List Char) :
    placeValue (ds ++ es) = placeValue ds * 10 ^ es.length + placeValue es := by
  induction ds with
  | nil => simp [placeValue]
  | cons d ds ih =>
    rw [List.cons_append, placeValue, placeValue, ih, List.length_append, pow_add]
    ring

namespace Numeral

/-! ## Shape -/

/-- one digit or more -/
def IsDigits (cs : List Char) : Prop := cs ≠ [] ∧ ∀ c ∈ cs, c.isDigit = true

/-- digits; if there is a point, digits behind it; if there is an exponent, its mark, perhaps a sign, and digits -/
structure WellFormed (n : Numeral) : Prop where
  whole : IsDigits n.whole
  fraction : ∀ ds ∈ n.fraction, IsDigits ds
  mark : ∀ e ∈ n.exponent, e.mark = 'e' ∨ e.mark = 'E'
  sign : ∀ e ∈ n.exponent, ∀ s ∈ e.sign, s = '+' ∨ s = '-'
  digits : ∀ e ∈ n.exponent, IsDigits e.digits

theorem WellFormed.exists_cons {n : Numeral} (shape : n.WellFormed) :
    ∃ c more, n.chars = c :: more ∧ c.isDigit = true := by
  obtain ⟨c, more, whole⟩ := List.exists_cons_of_ne_nil shape.whole.1
  exact ⟨c, _, by rw [chars, whole, List.cons_append, List.cons_append], shape.whole.2 c (whole ▸ List.mem_cons_self)⟩

theorem takeFraction_isDigits (cs : List Char) : ∀ ds ∈ (takeFraction cs).1, IsDigits ds := by
  fun_cases takeFraction cs with
  | case1 cs h => simp
  | case2 cs d ds h =>
    intro _ mem
    obtain rfl := Option.some.inj mem
    exact ⟨List.cons_ne_nil d ds, fun c mem => List.all_eq_true.mp List.all_takeWhile c (h ▸ mem)⟩
  | case3 cs h => simp

theorem takeSign_isSign (cs : List Char) : ∀ s ∈ (takeSign cs).1, s = '+' ∨ s = '-' := by
  fun_cases takeSign cs <;> simp

theorem takeExponent_spec (cs : List Char) :
    ∀ e ∈ (takeExponent cs).1,
      (e.mark = 'e' ∨ e.mark = 'E') ∧ (∀ s ∈ e.sign, s = '+' ∨ s = '-') ∧ IsDigits e.digits := by
  fun_cases takeExponent cs with
  | case1 => simp
  | case2 c cs h sign after hs hd => simp
  | case3 c cs h sign after hs d ds hd =>
    intro _ mem
    obtain rfl := Option.some.inj mem
    refine ⟨h, ?_, List.cons_ne_nil d ds, fun c mem => List.all_eq_true.mp List.all_takeWhile c (hd ▸ mem)⟩
    have signs := takeSign_isSign cs
    rwa [hs] at signs
  | case4 c cs h => simp

theorem scan_wellFormed {c : Char} {cs : List Char} (h : c.isDigit = true) : (scan (c :: cs)).1.WellFormed where
  whole := ⟨whole_ne_nil h, whole_isDigit (c :: cs)⟩
  fraction := takeFraction_isDigits _
  mark e mem := (takeExponent_spec _ e mem).1
  sign e mem := (takeExponent_spec _ e mem).2.1
  digits e mem := (takeExponent_spec _ e mem).2.2

/-! ## Scanning the text of a numeral -/

theorem takeSign_of_stops {cs : List Char} (plus : Stops (· == '+') cs) (minus : Stops (· == '-') cs) :
    takeSign cs = (none, cs) := by
  unfold takeSign
  split
  · simp [stops_cons] at plus
  · simp [stops_cons] at minus
  · rfl

theorem takeSign_chars {sign : Option Char} {ds rest : List Char} (signs : ∀ s ∈ sign, s = '+' ∨ s = '-')
    (digits : IsDigits ds) : takeSign (sign.toList ++ (ds ++ rest)) = (sign, ds ++ rest) := by
  cases sign with
  | none =>
    obtain ⟨d, more, rfl⟩ := List.exists_cons_of_ne_nil digits.1
    have digit := digits.2 d List.mem_cons_self
    have unsigned : d ≠ '+' ∧ d ≠ '-' := by
      refine ⟨?_, ?_⟩ <;> rintro rfl <;> simp at digit
    exact takeSign_of_stops (stops_cons.mpr (by simpa using unsigned.1)) (stops_cons.mpr (by simpa using unsigned.2))
  | some s =>
    rcases signs s rfl with rfl | rfl
    · rfl
    · rfl

/-- the digits of an exponent go on as far as they can -/
theorem takeExponent_append_digits {e : Exponent} (mark : e.mark = 'e' ∨ e.mark = 'E')
    (signs : ∀ s ∈ e.sign, s = '+' ∨ s = '-') (digits : IsDigits e.digits) (rest : List Char) :
    takeExponent (e.chars ++ rest) =
      (some ⟨e.mark, e.sign, e.digits ++ rest.takeWhile Char.isDigit⟩, rest.dropWhile Char.isDigit) := by
  obtain ⟨mark', sign, ds⟩ := e
  obtain ⟨d, more, rfl⟩ := List.exists_cons_of_ne_nil digits.1
  have taken : (d :: more ++ rest).takeWhile Char.isDigit = d :: more ++ rest.takeWhile Char.isDigit :=
    List.takeWhile_append_of_pos digits.2
  have left : (d :: more ++ rest).dropWhile Char.isDigit = rest.dropWhile Char.isDigit :=
    List.dropWhile_append_of_pos digits.2
  simp only [Exponent.chars, List.cons_append, List.append_assoc] at taken left ⊢
  rw [takeExponent, if_pos mark, ← List.cons_append, takeSign_chars signs digits]
  simp only [List.cons_append, taken, left]

/-- no exponent starts where no letter stands -/
theorem takeExponent_of_stops {rest : List Char} (letter : Stops Char.isAlpha rest) : takeExponent rest = (none, rest) := by
  cases rest with
  | nil => rfl
  | cons c cs =>
    have plain := stops_cons.mp letter
    have unmarked : ¬(c = 'e' ∨ c = 'E') := by
      intro h
      rcases h with rfl | rfl
      · exact absurd plain (by decide)
      · exact absurd plain (by decide)
    simp [takeExponent, unmarked]

theorem takeExponent_chars {exponent : Option Exponent} {rest : List Char}
    (marks : ∀ e ∈ exponent, e.mark = 'e' ∨ e.mark = 'E')
    (signs : ∀ e ∈ exponent, ∀ s ∈ e.sign, s = '+' ∨ s = '-')
    (digits : ∀ e ∈ exponent, IsDigits e.digits) (stop : Stops Char.isDigit rest)
    (ended : exponent = none → takeExponent rest = (none, rest)) :
    takeExponent (exponent.elim [] Exponent.chars ++ rest) = (exponent, rest) := by
  cases exponent with
  | none => exact ended rfl
  | some e =>
    rw [Option.elim_some, takeExponent_append_digits (marks e rfl) (signs e rfl) (digits e rfl), stop.takeWhile,
      stop.dropWhile, List.append_nil]

theorem takeFraction_append_digits {ds : List Char} (digits : IsDigits ds) (rest : List Char) :
    takeFraction ('.' :: (ds ++ rest)) =
      (some (ds ++ rest.takeWhile Char.isDigit), rest.dropWhile Char.isDigit) := by
  obtain ⟨d, more, rfl⟩ := List.exists_cons_of_ne_nil digits.1
  rw [takeFraction, List.takeWhile_append_of_pos digits.2, List.dropWhile_append_of_pos digits.2]
  rfl

theorem takeFraction_of_stops {rest : List Char} (point : Stops (· == '.') rest) : takeFraction rest = (none, rest) := by
  unfold takeFraction
  split
  · simp [stops_cons] at point
  · rfl

theorem takeFraction_chars {fraction : Option (List Char)} {rest : List Char}
    (digits : ∀ ds ∈ fraction, IsDigits ds) (stop : Stops Char.isDigit rest) (point : Stops (· == '.') rest) :
    takeFraction (fraction.elim [] ('.' :: ·) ++ rest) = (fraction, rest) := by
  cases fraction with
  | none => exact takeFraction_of_stops point
  | some ds =>
    rw [Option.elim_some, List.cons_append, takeFraction_append_digits (digits ds rfl), stop.takeWhile, stop.dropWhile,
      List.append_nil]

/-- an exponent starts with its mark, which is neither a digit nor a point -/
theorem Exponent.stops_chars {e : Exponent} (mark : e.mark = 'e' ∨ e.mark = 'E') (rest : List Char) :
    Stops Char.isDigit (e.chars ++ rest) ∧ Stops (· == '.') (e.chars ++ rest) := by
  simp only [Exponent.chars, List.cons_append, stops_cons]
  rcases mark with mark | mark <;> rw [mark] <;> decide

/-- a fraction starts with a point, so no digit stands where none stands behind it -/
theorem stops_fraction (fraction : Option (List Char)) {rest : List Char} (stop : Stops Char.isDigit rest) :
    Stops Char.isDigit (fraction.elim [] ('.' :: ·) ++ rest) := by
  cases fraction with
  | none => exact stop
  | some ds => exact stops_cons.mpr (by decide)

/-- a numeral is scanned whole, and nothing behind it, if neither digits nor a point nor an exponent go on with it -/
theorem scan_chars_of_stops {n : Numeral} {rest : List Char} (shape : n.WellFormed) (stop : Stops Char.isDigit rest)
    (point : Stops (· == '.') rest) (ended : n.exponent = none → takeExponent rest = (none, rest)) :
    scan (n.chars ++ rest) = (n, rest) := by
  obtain ⟨whole, fraction, exponent⟩ := n
  -- what stands behind the fraction
  set tail := exponent.elim [] Exponent.chars ++ rest with tail_def
  have behind : Stops Char.isDigit tail ∧ Stops (· == '.') tail := by
    cases exponent with
    | none => exact ⟨stop, point⟩
    | some e => exact Exponent.stops_chars (shape.mark e rfl) rest
  have run : Stops Char.isDigit (fraction.elim [] ('.' :: ·) ++ tail) := stops_fraction fraction behind.1
  have text : chars ⟨whole, fraction, exponent⟩ ++ rest = whole ++ (fraction.elim [] ('.' :: ·) ++ tail) := by
    simp [chars, tail_def]
  rw [scan, text, takeWhile_run shape.whole.2 run, dropWhile_run shape.whole.2 run,
    takeFraction_chars shape.fraction behind.1 behind.2]
  simp only
  rw [tail_def, takeExponent_chars shape.mark shape.sign shape.digits stop ended]

theorem scan_chars {n : Numeral} {rest : List Char} (shape : n.WellFormed) (apart : Apart rest) :
    scan (n.chars ++ rest) = (n, rest) := by
  have point : Stops (· == '.') rest := fun c mem => by simpa using (apart c mem).2.2
  exact scan_chars_of_stops shape apart.digit point fun _ => takeExponent_of_stops apart.alpha

/-- a numeral is known by its text -/
theorem chars_injective {n m : Numeral} (hn : n.WellFormed) (hm : m.WellFormed) (h : n.chars = m.chars) : n = m := by
  have left := scan_chars hn apart_nil
  have right := scan_chars hm apart_nil
  rw [h, right] at left
  exact (Prod.mk.inj left).1.symm

/-! ## The number that a numeral writes -/

def Exponent.power (e : Exponent) : ℤ := if e.sign = some '-' then -(placeValue e.digits) else placeValue e.digits

/-- the number that a numeral writes -/
def amount (n : Numeral) : ℚ :=
  let fraction := n.fraction.getD []
  (placeValue n.whole + placeValue fraction / 10 ^ fraction.length) * 10 ^ n.exponent.elim 0 Exponent.power

theorem Exponent.value_eq_power (e : Exponent) : e.value = e.power := by
  unfold Exponent.value Exponent.power
  rw [ofDigits_eq_placeValue]

theorem amount_nonneg (n : Numeral) : 0 ≤ n.amount := by
  unfold amount
  positivity

/-- the digits of a numeral, those of the fraction behind those in front of the point -/
def digits (n : Numeral) : List Char := n.whole ++ n.fraction.getD []

/-- a point that stands behind the last digit instead is made up for by the exponent -/
theorem amount_eq_placeValue (n : Numeral) :
    n.amount = placeValue n.digits * 10 ^ (n.exponent.elim 0 Exponent.power - (n.fraction.getD []).length) := by
  have ten : (10 : ℚ) ^ (n.fraction.getD []).length ≠ 0 := by positivity
  unfold amount digits
  rw [placeValue_append, zpow_sub₀ (by norm_num), zpow_natCast]
  push_cast
  field_simp

/-- the value computed for a numeral is the number it writes -/
theorem toRat_value (n : Numeral) : n.value.toRat = n.amount := by
  have power : n.exponent.elim 0 Exponent.value = n.exponent.elim 0 Exponent.power :=
    congrArg (n.exponent.elim 0) (funext Exponent.value_eq_power)
  rw [amount_eq_placeValue, ← ofDigits_eq_placeValue, ← power]
  rfl

theorem exists_place (n : Numeral) :
    ∃ place, Binary64.IsNearest n.amount place ∧ n.toBinary64 = Binary64.ofPlace place := by
  rw [← toRat_value]
  exact Binary64.ofDecimal_spec n.value

theorem toBinary64_eq {n : Numeral} {place : ℕ} (h : Binary64.IsNearest n.amount place) :
    n.toBinary64 = Binary64.ofPlace place := by
  rw [← toRat_value] at h
  exact Binary64.ofDecimal_eq h

/-- a numeral rounds to a double exactly if that is its double, and finite -/
theorem rounds_amount_iff {n : Numeral} {x : Binary64} :
    Binary64.Rounds n.amount x ↔ n.toBinary64 = x ∧ x.isFinite = true := by
  rw [← toRat_value, Binary64.rounds_iff, toBinary64]

/-! ## Positional notation -/

theorem isDigits_toDigits (n : ℕ) : IsDigits (Nat.toDigits 10 n) :=
  ⟨Nat.toDigits_ne_nil, fun _ mem => Nat.isDigit_of_mem_toDigits (by decide) (by decide) mem⟩

theorem isDigit_of_mem_padded {c : Char} {coefficient places : ℕ} (mem : c ∈ Decimal.padded coefficient places) :
    c.isDigit = true := by
  rcases List.mem_append.mp mem with zero | digit
  · rw [List.eq_of_mem_replicate zero]
    decide
  · exact (isDigits_toDigits coefficient).2 c digit

theorem ofDigits_padded (coefficient places : ℕ) :
    Decimal.ofDigits (Decimal.padded coefficient places) = coefficient := by
  rw [Decimal.ofDigits, Decimal.padded, List.leftpad, Nat.ofDigitChars_append, Nat.ofDigitChars_replicate_zero,
    Nat.mul_zero]
  exact Decimal.ofDigits_toDigits coefficient

/-- the numeral that positional notation writes: digits and zeros, or padded digits with a point among them -/
def positional : Decimal → Numeral
  | ⟨coefficient, .ofNat zeros⟩ => ⟨Nat.toDigits 10 coefficient ++ List.replicate zeros '0', none, none⟩
  | ⟨coefficient, .negSucc places⟩ =>
    let digits := Decimal.padded coefficient (places + 1)
    let whole := digits.length - (places + 1)
    ⟨digits.take whole, some (digits.drop whole), none⟩

theorem positional_wellFormed (d : Decimal) : (positional d).WellFormed := by
  obtain ⟨coefficient, zeros | places⟩ := d
  · refine ⟨⟨?_, ?_⟩, by simp [positional], by simp [positional], by simp [positional], by simp [positional]⟩
    · exact List.append_ne_nil_of_left_ne_nil Nat.toDigits_ne_nil _
    · intro c mem
      rcases List.mem_append.mp mem with digit | zero
      · exact (isDigits_toDigits coefficient).2 c digit
      · rw [List.eq_of_mem_replicate zero]
        decide
  · have long : places + 1 < (Decimal.padded coefficient (places + 1)).length := Decimal.length_padded _ _
    refine ⟨⟨?_, fun c mem => isDigit_of_mem_padded (List.mem_of_mem_take mem)⟩, ?_, by simp [positional],
      by simp [positional], by simp [positional]⟩
    · rw [positional, ← List.length_pos_iff, List.length_take]
      omega
    · rintro _ ⟨⟩
      refine ⟨?_, fun c mem => isDigit_of_mem_padded (List.mem_of_mem_drop mem)⟩
      rw [← List.length_pos_iff, List.length_drop]
      omega

theorem chars_positional (d : Decimal) : (positional d).chars = d.positional := by
  obtain ⟨coefficient, zeros | places⟩ := d
  · simp [positional, chars, Decimal.positional]
  · simp [positional, chars, Decimal.positional]

theorem amount_positional (d : Decimal) : (positional d).amount = d.toRat := by
  rw [← toRat_value]
  obtain ⟨coefficient, zeros | places⟩ := d
  · have digits : Decimal.ofDigits (Nat.toDigits 10 coefficient ++ List.replicate zeros '0') =
        10 ^ zeros * coefficient := by
      rw [Decimal.ofDigits, Nat.ofDigitChars_append, Nat.ofDigitChars_replicate_zero]
      exact congrArg (10 ^ zeros * ·) (Decimal.ofDigits_toDigits coefficient)
    simp [positional, value, Decimal.toRat, digits, mul_comm]
  · have long : places + 1 < (Decimal.padded coefficient (places + 1)).length := Decimal.length_padded _ _
    have count : ((Decimal.padded coefficient (places + 1)).drop
        ((Decimal.padded coefficient (places + 1)).length - (places + 1))).length = places + 1 := by
      rw [List.length_drop]
      omega
    have same : (positional ⟨coefficient, .negSucc places⟩).value = ⟨coefficient, .negSucc places⟩ := by
      simp only [positional, value, Option.getD_some, List.take_append_drop, Option.elim_none, count, ofDigits_padded]
      congr 1
    rw [same]

end Numeral

end CellFormula
