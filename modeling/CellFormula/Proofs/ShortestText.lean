/-
The text of a number: canonical, read back to the bit, and with no digit too many.

A number is written in positional notation, without a sign, without an exponent, and without zeros that could be left out.
Read alone, its text is one number with the same bits. The digits of any numeral are zeros, significant digits from the
first that is not zero to the last, and zeros again; so the number it writes is one with that many digits, times a power
of ten. As the shortest decimal of a double has the fewest digits of all numbers that round to it, no numeral that is read
as the double has fewer significant digits than its text.

- `exists_stripped`, `Numeral.exists_amount_eq`: a numeral writes its significant digits times a power of ten.
- `Numeral.plain_positional`: positional notation leaves out what can be left out.
- `Numeral.significantDigits_positional_le`: the text of a double has no more significant digits than any other numeral.
- `tokenize_of_spelled`: a spelling alone is read as its token.
- `Token.chars_number_fewest`: the four properties of the text of a number.
-/
import CellFormula.Proofs.Binary64.FewestDigits
import CellFormula.Proofs.Canonical
import CellFormula.Proofs.Equality
import CellFormula.Proofs.NumeralValue

namespace CellFormula

open Text

/-! ## Zeros in front and behind -/

/-- digits without the zeros in front and behind -/
def stripped (ds : List Char) : List Char := (ds.dropWhile (· == '0')).rdropWhile (· == '0')

theorem exists_stripped (ds : List Char) :
    ∃ a b, ds = List.replicate a '0' ++ (stripped ds ++ List.replicate b '0') := by
  have zeros (run : List Char) (all : ∀ c ∈ run, (c == '0') = true) : ∃ n, run = List.replicate n '0' :=
    ⟨run.length, List.eq_replicate_of_mem fun c mem => beq_iff_eq.mp (all c mem)⟩
  obtain ⟨a, front⟩ := zeros (ds.takeWhile (· == '0')) fun _ => List.mem_takeWhile_imp
  obtain ⟨b, back⟩ := zeros ((ds.dropWhile (· == '0')).rtakeWhile (· == '0')) fun _ => List.mem_rtakeWhile_imp
  refine ⟨a, b, ?_⟩
  rw [stripped, ← back, List.rdropWhile_append_rtakeWhile, ← front, List.takeWhile_append_dropWhile]

theorem stripped_eq {ds : List Char} (some_digits : ds ≠ []) (first : ds.head? ≠ some '0') (last : ds.getLast? ≠ some '0')
    (a b : ℕ) : stripped (List.replicate a '0' ++ (ds ++ List.replicate b '0')) = ds := by
  have zeros (n : ℕ) : ∀ c ∈ List.replicate n '0', (c == '0') = true := by simp
  have front : Stops (· == '0') (ds ++ List.replicate b '0') := by
    intro c mem
    rw [List.head?_append_of_ne_nil _ some_digits] at mem
    exact beq_eq_false_iff_ne.mpr fun zero => first (zero ▸ mem)
  have back : Stops (· == '0') ds.reverse := by
    intro c mem
    rw [List.head?_reverse] at mem
    exact beq_eq_false_iff_ne.mpr fun zero => last (zero ▸ mem)
  rw [stripped, dropWhile_run (zeros a) front, List.rdropWhile, List.reverse_append, List.reverse_replicate,
    dropWhile_run (zeros b) back, List.reverse_reverse]

theorem placeValue_zeros (n : ℕ) : placeValue (List.replicate n '0') = 0 := by
  induction n with
  | zero => rfl
  | succ n ih => rw [List.replicate_succ, placeValue, ih, Nat.sub_self, Nat.zero_mul]

theorem placeValue_lt {ds : List Char} (digits : ∀ c ∈ ds, c.isDigit = true) : placeValue ds < 10 ^ ds.length := by
  induction ds with
  | nil => decide
  | cons d ds ih =>
    have digit := isDigit_iff.mp (digits d List.mem_cons_self)
    have rest := ih fun c mem => digits c (List.mem_cons_of_mem d mem)
    have nine : (d.toNat - '0'.toNat) * 10 ^ ds.length ≤ 9 * 10 ^ ds.length :=
      Nat.mul_le_mul_right _ (show d.toNat - 48 ≤ 9 by omega)
    rw [placeValue, List.length_cons, Nat.pow_succ]
    omega

/-! ## The digits of a coefficient -/

theorem head?_toDigits {n : ℕ} (pos : n ≠ 0) : (Nat.toDigits 10 n).head? ≠ some '0' := by
  induction n using Nat.strongRecOn with
  | ind n ih =>
    by_cases small : n < 10
    · rw [Nat.toDigits_of_lt_base small, List.head?_cons, ne_eq, Option.some_inj, Nat.digitChar_eq_zero]
      exact pos
    · rw [Nat.toDigits_of_base_le (by decide) (by omega), List.head?_append_of_ne_nil _ Nat.toDigits_ne_nil]
      exact ih (n / 10) (by omega) (by omega)

theorem getLast?_toDigits {n : ℕ} (whole : ¬ 10 ∣ n) : (Nat.toDigits 10 n).getLast? ≠ some '0' := by
  have last : (Nat.toDigits 10 n).getLast? = some (n % 10).digitChar := by
    by_cases small : n < 10
    · rw [Nat.toDigits_of_lt_base small, Nat.mod_eq_of_lt small]
      rfl
    · rw [Nat.toDigits_of_base_le (by decide) (by omega), List.getLast?_concat]
  rw [last, ne_eq, Option.some_inj, Nat.digitChar_eq_zero]
  exact fun zero => whole (Nat.dvd_of_mod_eq_zero zero)

namespace Numeral

/-! ## Significant digits -/

/-- how many digits there are from the first that is not zero to the last that is not zero -/
def significantDigits (n : Numeral) : ℕ := (stripped n.digits).length

theorem WellFormed.isDigit_of_mem_digits {n : Numeral} (shape : n.WellFormed) {c : Char} (mem : c ∈ n.digits) :
    c.isDigit = true := by
  rcases List.mem_append.mp mem with whole | fraction
  · exact shape.whole.2 c whole
  · cases some_fraction : n.fraction with
    | none => simp [some_fraction] at fraction
    | some ds =>
      rw [some_fraction, Option.getD_some] at fraction
      exact (shape.fraction ds some_fraction).2 c fraction

/-- a numeral writes a number of so many digits, times a power of ten -/
theorem exists_amount_eq {n : Numeral} (shape : n.WellFormed) :
    ∃ (c : ℕ) (e : ℤ), c < 10 ^ n.significantDigits ∧ n.amount = c * 10 ^ e := by
  obtain ⟨a, b, split⟩ := exists_stripped n.digits
  have significant : ∀ c ∈ stripped n.digits, c.isDigit = true := by
    intro c mem
    apply shape.isDigit_of_mem_digits
    rw [split]
    exact List.mem_append_right _ (List.mem_append_left _ mem)
  have coefficient : placeValue n.digits = placeValue (stripped n.digits) * 10 ^ b := by
    calc placeValue n.digits = placeValue (stripped n.digits ++ List.replicate b '0') := by
          rw [split, placeValue_append, placeValue_zeros, Nat.zero_mul, Nat.zero_add, ← split]
      _ = placeValue (stripped n.digits) * 10 ^ b := by
          rw [placeValue_append, placeValue_zeros, List.length_replicate, Nat.add_zero]
  refine ⟨placeValue (stripped n.digits), b + (n.exponent.elim 0 Exponent.power - (n.fraction.getD []).length),
    placeValue_lt significant, ?_⟩
  rw [amount_eq_placeValue, coefficient, zpow_add₀ (by norm_num), zpow_natCast]
  push_cast
  ring

/-! ## Canonical numerals -/

/-- no exponent, no zero in front of another digit of the whole part, no zero at the end of the fraction -/
structure Plain (n : Numeral) : Prop where
  shape : n.WellFormed
  exponent : n.exponent = none
  whole : n.whole.head? = some '0' → n.whole = ['0']
  fraction : ∀ ds ∈ n.fraction, ds.getLast? ≠ some '0'

theorem Plain.isDigit_or_point {n : Numeral} (plain : n.Plain) {c : Char} (mem : c ∈ n.chars) :
    c.isDigit = true ∨ c = '.' := by
  rw [chars, plain.exponent, Option.elim_none, List.append_nil] at mem
  rcases List.mem_append.mp mem with whole | fraction
  · exact .inl (plain.shape.whole.2 c whole)
  · cases some_fraction : n.fraction with
    | none => simp [some_fraction] at fraction
    | some ds =>
      rw [some_fraction, Option.elim_some] at fraction
      rcases List.mem_cons.mp fraction with point | digit
      · exact .inr point
      · exact .inl ((plain.shape.fraction ds some_fraction).2 c digit)

theorem digits_positional (d : Decimal) :
    ∃ a b, (positional d).digits = List.replicate a '0' ++ (Nat.toDigits 10 d.coefficient ++ List.replicate b '0') := by
  obtain ⟨coefficient, zeros | places⟩ := d
  · exact ⟨0, zeros, by simp [positional, digits]⟩
  · refine ⟨places + 1 + 1 - (Nat.toDigits 10 coefficient).length, 0, ?_⟩
    simp [positional, digits, Decimal.padded, List.leftpad]

theorem significantDigits_positional {d : Decimal} (whole : ¬ 10 ∣ d.coefficient) :
    (positional d).significantDigits = (Nat.toDigits 10 d.coefficient).length := by
  have pos : d.coefficient ≠ 0 := fun zero => whole (zero ▸ dvd_zero 10)
  obtain ⟨a, b, split⟩ := digits_positional d
  rw [significantDigits, split, stripped_eq Nat.toDigits_ne_nil (head?_toDigits pos) (getLast?_toDigits whole)]

theorem whole_positional_negSucc {coefficient : ℕ} (places : ℕ) (pos : coefficient ≠ 0) :
    (positional ⟨coefficient, .negSucc places⟩).whole.head? = some '0' →
      (positional ⟨coefficient, .negSucc places⟩).whole = ['0'] := by
  have long : places + 1 < (Decimal.padded coefficient (places + 1)).length := Decimal.length_padded _ _
  simp only [positional]
  by_cases short : (Nat.toDigits 10 coefficient).length ≤ places + 1
  · -- a single zero stands in front of the point
    intro _
    obtain ⟨zeros, count⟩ : ∃ zeros, places + 1 + 1 - (Nat.toDigits 10 coefficient).length = zeros + 1 :=
      ⟨_, (Nat.sub_add_cancel (by omega)).symm⟩
    have length : (Decimal.padded coefficient (places + 1)).length - (places + 1) = 1 := by
      simp only [Decimal.padded, List.leftpad, List.length_append, List.length_replicate]
      omega
    rw [length, Decimal.padded, List.leftpad, count, List.replicate_succ]
    rfl
  · -- no zeros are padded, so the first digit is that of the coefficient
    have none_padded : Decimal.padded coefficient (places + 1) = Nat.toDigits 10 coefficient := by
      rw [Decimal.padded, List.leftpad, Nat.sub_eq_zero_of_le (by omega)]
      rfl
    rw [List.head?_take, if_neg (by omega), none_padded]
    exact fun zero => absurd zero (head?_toDigits pos)

/-- positional notation leaves out all zeros that it can, if the coefficient has none at its end -/
theorem plain_positional {d : Decimal} (whole : ¬ 10 ∣ d.coefficient) : (positional d).Plain := by
  have pos : d.coefficient ≠ 0 := fun zero => whole (zero ▸ dvd_zero 10)
  obtain ⟨coefficient, zeros | places⟩ := d
  · refine ⟨positional_wellFormed _, rfl, ?_, by simp [positional]⟩
    simp only [positional]
    rw [List.head?_append_of_ne_nil _ Nat.toDigits_ne_nil]
    exact fun zero => absurd zero (head?_toDigits pos)
  · refine ⟨positional_wellFormed _, rfl, whole_positional_negSucc places pos, ?_⟩
    rintro _ ⟨⟩
    have long : places + 1 < (Decimal.padded coefficient (places + 1)).length := Decimal.length_padded _ _
    rw [List.getLast?_drop, if_neg (by omega), Decimal.padded, List.leftpad,
      List.getLast?_append_of_ne_nil _ Nat.toDigits_ne_nil]
    exact getLast?_toDigits whole

theorem plain_shortest (place : ℕ) : (positional (Binary64.shortest place)).Plain := by
  by_cases zero : place = 0
  · subst zero
    exact ⟨positional_wellFormed _, rfl, fun _ => rfl, by rintro _ ⟨⟩⟩
  · exact plain_positional (Binary64.not_ten_dvd_shortest zero)

/-- the text of a double has no more significant digits than any numeral that rounds to it -/
theorem significantDigits_positional_le {place : ℕ} {m : Numeral} (shape : m.WellFormed)
    (nearest : Binary64.IsNearest m.amount place) :
    (positional (Binary64.shortest place)).significantDigits ≤ m.significantDigits := by
  by_cases zero : place = 0
  · subst zero
    exact Nat.zero_le _
  · obtain ⟨c, e, size, amount⟩ := exists_amount_eq shape
    rw [amount, Binary64.isNearest_iff_within] at nearest
    have fewer := Binary64.coefficient_lt_of_within zero size nearest
    have whole := Binary64.not_ten_dvd_shortest zero
    have some_digits : 0 < m.significantDigits := by
      rw [Nat.pos_iff_ne_zero]
      intro none
      rw [none, Nat.pow_zero, Nat.lt_one_iff] at fewer
      exact whole (fewer ▸ dvd_zero 10)
    rw [significantDigits_positional whole]
    exact (Nat.length_toDigits_le_iff (by decide) some_digits).mpr fewer

end Numeral

/-! ## Reading a spelling alone -/

theorem tokenize_of_spelled {t : Token} {x : List Char} (h : t.Spelled x) :
    tokenize (String.ofList x) = .ok [⟨t, String.ofList x, 0⟩] := by
  obtain ⟨first, more, rfl, visible, read⟩ := Piece.read_of_spelled h fun _ => apart_nil
  rw [List.append_nil] at read
  have step := Cursor.next?_of_append 0 more blank_nil visible
  rw [read] at step
  apply Reader.gather_eq_ok
  calc (Cursor.start (String.ofList (first :: more))).items = (Cursor.mk 0 ([] ++ first :: more)).items := by
        rw [Cursor.start, String.toList_ofList, List.nil_append]
    _ = [.ok ⟨t, String.ofList (first :: more), 0⟩] := by
        rw [Cursor.items_of_some step, Cursor.items_of_none (Cursor.next?_of_blank blank_nil)]
        rfl

namespace Token

/-- **The text of a number.** The canonical text of a finite number without a sign is a whole number, or one with a point
and a fraction, without zeros that could be left out and without an exponent; read alone, it is one number with the same
bits; and any numeral that is read as this number has as many significant digits, or more. -/
theorem chars_number_fewest {x : Binary64} (finite : x.isFinite = true) (positive : x.negative = false) :
    ∃ n : Numeral, (number x).chars = n.chars ∧ n.Plain ∧ (∀ c ∈ (number x).chars, c.isDigit = true ∨ c = '.') ∧
      tokenize (String.ofList (number x).chars) = .ok [⟨.number x, String.ofList (number x).chars, 0⟩] ∧
      ∀ m : Numeral, m.WellFormed → m.amount < 2 ^ 1024 - 2 ^ 970 → Binary64.IsNearestDouble m.amount x →
        n.significantDigits ≤ m.significantDigits := by
  have text : (number x).chars = (Numeral.positional (Binary64.shortest x.magnitude)).chars := by
    rw [chars, Binary64.chars_eq_positional positive finite, Numeral.chars_positional]
  have plain := Numeral.plain_shortest x.magnitude
  refine ⟨_, text, plain, ?_, tokenize_of_spelled (spelled_number positive finite), ?_⟩
  · intro c mem
    rw [text] at mem
    exact plain.isDigit_or_point mem
  · intro m shape below nearest
    exact Numeral.significantDigits_positional_le shape (nearest.rounds below).nearest

/-- the double nearest to 10^23, which has more digits than its text -/
theorem chars_number_fewest_power :
    let x : Binary64 := ⟨false, 0x44B52D02C7E14AF6, by decide⟩
    x.isFinite = true ∧ (number x).chars = "100000000000000000000000".toList ∧
      ∃ n : Numeral, (number x).chars = n.chars ∧ n.Plain ∧ (∀ c ∈ (number x).chars, c.isDigit = true ∨ c = '.') ∧
        tokenize (String.ofList (number x).chars) = .ok [⟨.number x, String.ofList (number x).chars, 0⟩] ∧
        ∀ m : Numeral, m.WellFormed → m.amount < 2 ^ 1024 - 2 ^ 970 → Binary64.IsNearestDouble m.amount x →
          n.significantDigits ≤ m.significantDigits := by
  intro x
  have finite : x.isFinite = true := by decide
  refine ⟨finite, by decide +kernel, chars_number_fewest finite rfl⟩

end Token

end CellFormula
