/-
A numeral is read as the double nearest to the number it writes.

However many digits there are and however large the exponent is, the number is exact. In front of a cursor the longest
numeral is read, and its double is the nearest one, with the even significand where two are as near. A numeral that writes
a number from halfway past the greatest finite double on is refused whole, and one down to half the least positive double
is read as zero.

- `scan_of_longest`: what is scanned in front of a text is the longest numeral there.
- `isFinite_toBinary64_iff`, `isNearestDouble_toBinary64`: when a numeral overflows, and its double where it does not.
- `Cursor.next?_numeral`: what a cursor makes of a numeral, and of two of them.
-/
import CellFormula.Proofs.Binary64.CorrectRounding
import CellFormula.Proofs.LongestPiece

namespace CellFormula

open Text

namespace Numeral

/-! ## Reading a numeral -/

/-- what is scanned is the longest numeral in front -/
theorem scan_of_longest {n : Numeral} {rest : List Char} (shape : n.WellFormed)
    (longest : ∀ m : Numeral, m.WellFormed → m.chars <+: n.chars ++ rest → m.chars.length ≤ n.chars.length) :
    scan (n.chars ++ rest) = (n, rest) := by
  have whole := scan_append (n.chars ++ rest)
  have scanned : (scan (n.chars ++ rest)).1.WellFormed := by
    obtain ⟨c, more, text, digit⟩ := shape.exists_cons
    rw [text, List.cons_append]
    exact scan_wellFormed digit
  have same_length : (scan (n.chars ++ rest)).1.chars.length = n.chars.length := by
    apply le_antisymm
    · exact longest _ scanned ⟨_, whole⟩
    · exact length_le_scan shape rest
  obtain ⟨same_chars, same_rest⟩ := List.append_inj whole same_length
  exact Prod.ext (chars_injective scanned shape same_chars) same_rest

/-- a numeral overflows exactly from halfway past the greatest finite double on -/
theorem isFinite_toBinary64_iff (n : Numeral) : n.toBinary64.isFinite = true ↔ n.amount < 2 ^ 1024 - 2 ^ 970 := by
  obtain ⟨place, nearest, eq⟩ := n.exists_place
  rw [eq, Binary64.isFinite_ofPlace, ← not_le, nearest.infinity_le_iff, not_le]

theorem rounds_toBinary64 {n : Numeral} (below : n.amount < 2 ^ 1024 - 2 ^ 970) :
    Binary64.Rounds n.amount n.toBinary64 :=
  rounds_amount_iff.mpr ⟨rfl, n.isFinite_toBinary64_iff.mpr below⟩

/-- a numeral that does not overflow is read as the double nearest to its number -/
theorem isNearestDouble_toBinary64 {n : Numeral} (below : n.amount < 2 ^ 1024 - 2 ^ 970) :
    Binary64.IsNearestDouble n.amount n.toBinary64 :=
  (rounds_toBinary64 below).isNearestDouble n.amount_nonneg

theorem toBinary64_of_tiny {n : Numeral} (tiny : n.amount ≤ 1 / 2 ^ 1075) : n.toBinary64 = Binary64.ofPlace 0 :=
  toBinary64_eq (Binary64.isNearest_zero tiny)

/-- numerals that write the same number are read as the same double -/
theorem toBinary64_congr {n m : Numeral} (same : m.amount = n.amount) : m.toBinary64 = n.toBinary64 := by
  obtain ⟨place, nearest, eq⟩ := n.exists_place
  rw [eq]
  exact toBinary64_eq (same ▸ nearest)

/-- of two numerals that do not overflow, the larger is not read as the smaller double -/
theorem toRat_toBinary64_mono {n m : Numeral} (hn : n.amount < 2 ^ 1024 - 2 ^ 970) (hm : m.amount < 2 ^ 1024 - 2 ^ 970)
    (order : m.amount ≤ n.amount) : m.toBinary64.toRat ≤ n.toBinary64.toRat := by
  have left := rounds_toBinary64 hm
  have right := rounds_toBinary64 hn
  rw [Binary64.toRat_of_positive left.positive, Binary64.toRat_of_positive right.positive]
  exact Binary64.value_strictMono.monotone (left.nearest.mono right.nearest order)

end Numeral

namespace Cursor

/-- behind blanks, if any, the cursor has this numeral in front of it, the longest one there, and then the rest -/
structure Faces (c : Cursor) (gap : List Char) (n : Numeral) (rest : List Char) : Prop where
  text : c.rest = gap ++ (n.chars ++ rest)
  blank : Blank gap
  shape : n.WellFormed
  longest : ∀ m : Numeral, m.WellFormed → m.chars <+: n.chars ++ rest → m.chars.length ≤ n.chars.length

theorem faces_of_scan (first : Char) (more : List Char) {c : Cursor} {gap rest : List Char} {n : Numeral}
    (text : c.rest = gap ++ first :: more) (blank : Blank gap) (digit : first.isDigit = true)
    (scanned : Numeral.scan (first :: more) = (n, rest)) : c.Faces gap n rest := by
  have whole := Numeral.scan_append (first :: more)
  have shape : (Numeral.scan (first :: more)).1.WellFormed := Numeral.scan_wellFormed digit
  rw [scanned] at whole shape
  refine ⟨by rw [text, ← whole], blank, shape, ?_⟩
  rintro m wellFormed ⟨behind, front⟩
  have longest := Numeral.length_le_scan wellFormed behind
  rwa [front, whole, scanned] at longest

/-- the item of a numeral is its double, or a fault that shows its first digit -/
theorem Faces.next?_eq {c : Cursor} {gap rest : List Char} {n : Numeral} (h : c.Faces gap n rest) :
    ∃ first more, n.chars = first :: more ∧
      c.next? = some (if n.toBinary64.isFinite then
          .ok ⟨.number n.toBinary64, String.ofList n.chars, c.offset + (String.ofList gap).utf8ByteSize⟩
        else .error (.unreadable (c.offset + (String.ofList gap).utf8ByteSize) first),
        ⟨c.offset + (String.ofList gap).utf8ByteSize + (String.ofList n.chars).utf8ByteSize, rest⟩) := by
  obtain ⟨first, more, text, digit⟩ := h.shape.exists_cons
  refine ⟨first, more, text, ?_⟩
  have step := next?_of_append c.offset (more ++ rest) h.blank (isBlank_eq_false_of_isDigit digit)
  have whole : c = ⟨c.offset, gap ++ first :: (more ++ rest)⟩ := by
    rw [← List.cons_append, ← text, ← h.text]
  have read : Piece.read first (more ++ rest) =
      ⟨if n.toBinary64.isFinite then some (.number n.toBinary64) else none, n.chars, rest⟩ := by
    rw [Piece.read_of_isDigit digit, ← List.cons_append, ← text, Piece.numeral,
      Numeral.scan_of_longest h.shape h.longest]
  rw [← whole, read] at step
  rw [utf8ByteSize_ofList, utf8ByteSize_ofList, step, item]
  split_ifs <;> rfl

theorem Faces.next?_of_lt {c : Cursor} {gap rest : List Char} {n : Numeral} (h : c.Faces gap n rest)
    (below : n.amount < 2 ^ 1024 - 2 ^ 970) :
    c.next? = some (.ok ⟨.number n.toBinary64, String.ofList n.chars, c.offset + (String.ofList gap).utf8ByteSize⟩,
      ⟨c.offset + (String.ofList gap).utf8ByteSize + (String.ofList n.chars).utf8ByteSize, rest⟩) := by
  obtain ⟨first, more, -, next⟩ := h.next?_eq
  rwa [if_pos (n.isFinite_toBinary64_iff.mpr below)] at next

theorem Faces.next?_of_le {c : Cursor} {gap rest : List Char} {n : Numeral} (h : c.Faces gap n rest)
    (large : 2 ^ 1024 - 2 ^ 970 ≤ n.amount) :
    ∃ first, n.chars.head? = some first ∧
      c.next? = some (.error (.unreadable (c.offset + (String.ofList gap).utf8ByteSize) first),
        ⟨c.offset + (String.ofList gap).utf8ByteSize + (String.ofList n.chars).utf8ByteSize, rest⟩) := by
  obtain ⟨first, more, text, next⟩ := h.next?_eq
  rw [if_neg (mt n.isFinite_toBinary64_iff.mp (not_lt.mpr large))] at next
  exact ⟨first, by rw [text, List.head?_cons], next⟩

theorem Faces.token_eq {c d : Cursor} {gap rest : List Char} {n : Numeral} {s : Span} (h : c.Faces gap n rest)
    (span : c.next? = some (.ok s, d)) : n.amount < 2 ^ 1024 - 2 ^ 970 ∧ s.token = .number n.toBinary64 := by
  by_cases below : n.amount < 2 ^ 1024 - 2 ^ 970
  · have found := h.next?_of_lt below
    rw [span] at found
    obtain rfl := Except.ok.inj (Prod.mk.inj (Option.some.inj found)).1
    exact ⟨below, rfl⟩
  · obtain ⟨first, -, found⟩ := h.next?_of_le (not_lt.mp below)
    rw [span] at found
    cases (Prod.mk.inj (Option.some.inj found)).1

/-- **Numerals keep their value.** In front of a numeral a cursor gives a fault, at the start of the numeral and with its
first digit, exactly if the number is too large; otherwise it gives the double nearest to the number, with the numeral as
its text. A number down to half the least positive double gives zero. Another numeral, wherever it is read, gives the same
bits if it writes the same number, and no larger double if it writes a smaller one. -/
theorem next?_numeral {c : Cursor} {gap rest : List Char} {n : Numeral} (h : c.Faces gap n rest) :
    let start := c.offset + (String.ofList gap).utf8ByteSize
    let behind : Cursor := ⟨start + (String.ofList n.chars).utf8ByteSize, rest⟩
    ((∃ first, n.chars.head? = some first ∧ c.next? = some (.error (.unreadable start first), behind)) ↔
        2 ^ 1024 - 2 ^ 970 ≤ n.amount) ∧
      (n.amount < 2 ^ 1024 - 2 ^ 970 →
        ∃ x : Binary64, c.next? = some (.ok ⟨.number x, String.ofList n.chars, start⟩, behind) ∧
          x.isFinite = true ∧ x.negative = false ∧ Binary64.IsNearestDouble n.amount x ∧
          (n.amount ≤ 1 / 2 ^ 1075 → x.toBits = 0) ∧
          ∀ (d e : Cursor) (gap' rest' : List Char) (m : Numeral) (s : Span), d.Faces gap' m rest' →
            d.next? = some (.ok s, e) →
            ∃ y, s.token = .number y ∧ (m.amount = n.amount → y.toBits = x.toBits) ∧
              (m.amount ≤ n.amount → y.toRat ≤ x.toRat)) := by
  intro start behind
  constructor
  · refine ⟨?_, h.next?_of_le⟩
    rintro ⟨first, -, fault⟩
    by_contra small
    rw [h.next?_of_lt (not_le.mp small)] at fault
    cases (Prod.mk.inj (Option.some.inj fault)).1
  · intro below
    have rounds := Numeral.rounds_toBinary64 below
    refine ⟨n.toBinary64, h.next?_of_lt below, rounds.finite, rounds.positive,
      Numeral.isNearestDouble_toBinary64 below, ?_, ?_⟩
    · intro tiny
      rw [Numeral.toBinary64_of_tiny tiny]
      decide
    · intro d e gap' rest' m s faces span
      obtain ⟨below', token⟩ := faces.token_eq span
      refine ⟨m.toBinary64, token, ?_, Numeral.toRat_toBinary64_mono below below'⟩
      intro same
      rw [Numeral.toBinary64_congr same]

/-- a number halfway between two doubles, the same in another spelling behind a blank, and one that overflows -/
theorem next?_numeral_tie :
    (start " 9007199254740993*2").Faces [' '] ⟨"9007199254740993".toList, none, none⟩ ['*', '2'] ∧
      (start "9007199254740993.0").Faces [] ⟨"9007199254740993".toList, some ['0'], none⟩ [] ∧
      (∃ x : Binary64, (start " 9007199254740993*2").next? =
          some (.ok ⟨.number x, "9007199254740993", 1⟩, ⟨17, ['*', '2']⟩) ∧
        Binary64.IsNearestDouble 9007199254740993 x ∧
        ∀ s e, (start "9007199254740993.0").next? = some (.ok s, e) → ∃ y, s.token = .number y ∧ y.toBits = x.toBits) ∧
      (start "1e309").Faces [] ⟨['1'], none, some ⟨'e', none, ['3', '0', '9']⟩⟩ [] ∧
      ∃ first d, (start "1e309").next? = some (.error (.unreadable 0 first), d) := by
  have plain : (start " 9007199254740993*2").Faces [' '] ⟨"9007199254740993".toList, none, none⟩ ['*', '2'] :=
    faces_of_scan '9' "007199254740993*2".toList (by decide +kernel)
      (by simp [Blank, show isBlank ' ' = true by decide]) (by decide) (by decide +kernel)
  have pointed : (start "9007199254740993.0").Faces [] ⟨"9007199254740993".toList, some ['0'], none⟩ [] :=
    faces_of_scan '9' "007199254740993.0".toList (by decide +kernel) blank_nil (by decide)
      (by decide +kernel)
  have huge : (start "1e309").Faces [] ⟨['1'], none, some ⟨'e', none, ['3', '0', '9']⟩⟩ [] :=
    faces_of_scan '1' "e309".toList (by decide +kernel) blank_nil (by decide) (by decide +kernel)
  have amountPlain : Numeral.amount ⟨"9007199254740993".toList, none, none⟩ = 9007199254740993 := by
    simp [Numeral.amount, placeValue]
  have amountPointed : Numeral.amount ⟨"9007199254740993".toList, some ['0'], none⟩ = 9007199254740993 := by
    simp [Numeral.amount, placeValue]
  have amountHuge : Numeral.amount ⟨['1'], none, some ⟨'e', none, ['3', '0', '9']⟩⟩ = 10 ^ 309 := by
    have power : Numeral.Exponent.power ⟨'e', none, ['3', '0', '9']⟩ = (309 : ℕ) := by decide +kernel
    rw [Numeral.amount, Option.elim_some, power, zpow_natCast]
    simp [placeValue]
  have small : (9007199254740993 : ℚ) < 2 ^ 1024 - 2 ^ 970 := by
    have powers : 9007199254740993 + 2 ^ 970 < 2 ^ 1024 := by decide +kernel
    rw [lt_sub_iff_add_lt]
    exact_mod_cast powers
  have large : (2 : ℚ) ^ 1024 - 2 ^ 970 ≤ 10 ^ 309 := by
    have powers : 2 ^ 1024 ≤ 10 ^ 309 + 2 ^ 970 := by decide +kernel
    rw [sub_le_iff_le_add]
    exact_mod_cast powers
  obtain ⟨x, next, -, -, nearest, -, others⟩ := (next?_numeral plain).2 (by rw [amountPlain]; exact small)
  rw [amountPlain] at nearest
  refine ⟨plain, pointed, ⟨x, next, nearest, ?_⟩, huge, ?_⟩
  · intro s e span
    obtain ⟨y, token, same, -⟩ := others _ e _ _ _ s pointed span
    exact ⟨y, token, same (amountPointed.trans amountPlain.symm)⟩
  · obtain ⟨first, -, fault⟩ := (next?_numeral huge).1.mpr (by rw [amountHuge]; exact large)
    exact ⟨first, _, fault⟩

end Cursor

end CellFormula
