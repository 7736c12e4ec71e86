/-
A cursor takes the longest token there is.

The patterns of tokens are said without a word about what stands behind them: one of six characters, letters and
digits, or a numeral. Blanks passed over, a text may start with several pieces of such a pattern, one within the other,
and a cursor decides with one or two characters of lookahead; but what it takes is the longest of them. It gives the
token of that piece, or a fault if the piece is a numeral that overflows; and where nothing in front has the pattern of
a token, the first character is the fault.

- `Numeral.length_le_scan`: a scan takes no less than any numeral in front.
- `Piece.longest_of_pattern`: what is read is at least as long as any pattern in front, and is the token of it.
- `Cursor.next?_longest`: the next item of any cursor.
-/
import CellFormula.Proofs.Lexing

namespace CellFormula

open Text

/-! ## Patterns -/

/-- the characters make up a token, in so far as their classes tell -/
inductive Pattern : List Char → Prop where
  | symbol {c : Char} : c ∈ ['+', '-', '*', '/', '(', ')'] → Pattern [c]
  | name {letters digits : List Char} : letters ≠ [] → (∀ c ∈ letters, c.isAlpha = true) → Numeral.IsDigits digits →
      Pattern (letters ++ digits)
  | numeral {n : Numeral} : n.WellFormed → Pattern n.chars

/-- the item that such characters give: their token, or a fault if they are a numeral that rounds to infinity -/
inductive Gives (offset : ℕ) : List Char → Item → Prop where
  | token {t : Token} {x : List Char} : t.Spelled x → Gives offset x (.ok ⟨t, String.ofList x, offset⟩)
  | overflow {n : Numeral} {place : ℕ} {first : Char} {more : List Char} : n.WellFormed →
      Binary64.IsNearest n.amount place → Binary64.infinity ≤ place → n.chars = first :: more →
      Gives offset n.chars (.error (.unreadable offset first))

/-- a pattern starts with one of the six characters, a letter or a digit -/
theorem Pattern.exists_cons {x : List Char} (h : Pattern x) :
    ∃ c more, x = c :: more ∧ (c ∈ ['+', '-', '*', '/', '(', ')'] ∨ c.isAlpha = true ∨ c.isDigit = true) := by
  cases h with
  | symbol mem => exact ⟨_, [], rfl, .inl mem⟩
  | name some_letters all_letters _ =>
    obtain ⟨c, more, rfl⟩ := List.exists_cons_of_ne_nil some_letters
    exact ⟨c, _, rfl, .inr (.inl (all_letters c List.mem_cons_self))⟩
  | numeral shape =>
    obtain ⟨c, more, text, digit⟩ := shape.exists_cons
    exact ⟨c, more, text, .inr (.inr digit)⟩

theorem Token.Spelled.pattern {t : Token} {x : List Char} (h : t.Spelled x) : Pattern x := by
  cases h with
  | number shape rounds => exact .numeral shape
  | var some_letters all_letters isDigits => exact .name some_letters all_letters isDigits
  | operator op => exact .symbol (by cases op <;> decide)
  | leftParen => exact .symbol (by decide)
  | rightParen => exact .symbol (by decide)

theorem Gives.pattern {offset : ℕ} {x : List Char} {i : Item} (h : Gives offset x i) : Pattern x := by
  cases h with
  | token spelled => exact spelled.pattern
  | overflow shape nearest large text => exact .numeral shape

/-! ## Numerals -/

namespace Numeral

/-- a scan takes no less than any numeral in front -/
theorem length_le_scan {n : Numeral} (shape : n.WellFormed) (rest : List Char) :
    n.chars.length ≤ (scan (n.chars ++ rest)).1.chars.length := by
  obtain ⟨whole, fraction, exponent⟩ := n
  have run := shape.whole.2
  cases exponent with
  | some e =>
    -- behind the whole part and behind the fraction stands no digit, so both are taken as they are
    obtain ⟨digit, point⟩ := Exponent.stops_chars (shape.mark e rfl) rest
    have stop : Stops Char.isDigit (fraction.elim [] ('.' :: ·) ++ (e.chars ++ rest)) := stops_fraction fraction digit
    have fraction_eq := takeFraction_chars shape.fraction digit point
    have exponent_eq := takeExponent_append_digits (shape.mark e rfl) (shape.sign e rfl) (shape.digits e rfl) rest
    have text : chars ⟨whole, fraction, some e⟩ ++ rest =
        whole ++ (fraction.elim [] ('.' :: ·) ++ (e.chars ++ rest)) := by
      simp [chars]
    rw [text, scan, takeWhile_run run stop, dropWhile_run run stop, fraction_eq]
    simp only [exponent_eq]
    simp only [chars, Option.elim_some, Exponent.chars, List.length_append, List.length_cons]
    omega
  | none =>
    cases fraction with
    | some ds =>
      have stop : Stops Char.isDigit ('.' :: (ds ++ rest)) := stops_cons.mpr (by decide)
      have fraction_eq := takeFraction_append_digits (shape.fraction ds rfl) rest
      have text : chars ⟨whole, some ds, none⟩ ++ rest = whole ++ '.' :: (ds ++ rest) := by simp [chars]
      rw [text, scan, takeWhile_run run stop, dropWhile_run run stop, fraction_eq]
      simp only [chars, Option.elim_some, Option.elim_none, List.length_append, List.length_cons, List.length_nil]
      omega
    | none =>
      have text : chars ⟨whole, none, none⟩ ++ rest = whole ++ rest := by simp [chars]
      rw [text, scan, List.takeWhile_append_of_pos run]
      simp only [chars, Option.elim_none, List.length_append, List.length_nil]
      omega

end Numeral

/-! ## Pieces -/

namespace Piece

theorem exists_symbol? {c : Char} (h : c ∈ ['+', '-', '*', '/', '(', ')']) : ∃ t, symbol? c = some t := by
  simp only [List.mem_cons, List.not_mem_nil, or_false] at h
  rcases h with rfl | rfl | rfl | rfl | rfl | rfl <;> exact ⟨_, rfl⟩

theorem gives_of_token {c : Char} {cs : List Char} {t : Token} (h : (read c cs).token = some t) (offset : ℕ) :
    Gives offset (read c cs).chars (Cursor.item offset c (read c cs)) := by
  rw [Cursor.item, h]
  exact .token (spelled_of_token h)

theorem overflow_of_token_eq_none {cs : List Char} (h : (numeral cs).token = none) :
    ∃ place, Binary64.IsNearest (Numeral.scan cs).1.amount place ∧ Binary64.infinity ≤ place := by
  obtain ⟨place, nearest, rounded⟩ := (Numeral.scan cs).1.exists_place
  simp only [numeral, ite_eq_right_iff, reduceCtorEq, imp_false, Bool.not_eq_true] at h
  refine ⟨place, nearest, ?_⟩
  rw [← Nat.not_lt, ← Binary64.isFinite_ofPlace, ← rounded, Bool.not_eq_true]
  exact h

/-- a numeral is read as its number or, if it has none, as a fault -/
theorem gives_numeral {c : Char} (digit : c.isDigit = true) (cs : List Char) (offset : ℕ) :
    Gives offset (read c cs).chars (Cursor.item offset c (read c cs)) := by
  cases found : (read c cs).token with
  | some t => exact gives_of_token found offset
  | none =>
    rw [Cursor.item, found, read_of_isDigit digit]
    rw [read_of_isDigit digit] at found
    obtain ⟨place, nearest, large⟩ := overflow_of_token_eq_none found
    have shape : (Numeral.scan (c :: cs)).1.WellFormed := Numeral.scan_wellFormed digit
    obtain ⟨first, more, text, -⟩ := shape.exists_cons
    have whole := Numeral.scan_append (c :: cs)
    rw [text] at whole
    obtain rfl : first = c := (List.cons.inj whole).1
    exact .overflow shape nearest large text

/-- what is read at the front of a text is at least as long as any pattern in front, and is the token of it -/
theorem longest_of_pattern {x text : List Char} (front : x <+: text) (pattern : Pattern x) (offset : ℕ) :
    ∃ c cs, text = c :: cs ∧ x.length ≤ (read c cs).chars.length ∧
      Gives offset (read c cs).chars (Cursor.item offset c (read c cs)) := by
  obtain ⟨rest, rfl⟩ := front
  cases pattern with
  | @symbol c mem =>
    obtain ⟨t, symbol⟩ := exists_symbol? mem
    have read_eq : read c rest = ⟨some t, [c], rest⟩ := by simp [read, symbol]
    refine ⟨c, rest, rfl, ?_, gives_of_token (congrArg token read_eq) offset⟩
    rw [read_eq]
  | @name letters digits some_letters all_letters isDigits =>
    obtain ⟨c, more, name, -, read_eq⟩ := read_letters_digits some_letters all_letters isDigits rest
    refine ⟨c, more ++ rest, by rw [name, List.cons_append], ?_, gives_of_token (congrArg token read_eq) offset⟩
    rw [read_eq]
    exact (List.prefix_append (letters ++ digits) _).length_le
  | @numeral n shape =>
    obtain ⟨c, more, digits, digit⟩ := shape.exists_cons
    have text : n.chars ++ rest = c :: (more ++ rest) := by rw [digits, List.cons_append]
    have longer := Numeral.length_le_scan shape rest
    refine ⟨c, more ++ rest, text, ?_, gives_numeral digit _ offset⟩
    rw [read_of_isDigit digit, ← text]
    exact longer

end Piece

/-! ## Cursors -/

namespace Cursor

theorem next?_of_visible {c : Cursor} {first : Char} {more : List Char} (h : c.rest.dropWhile isBlank = first :: more) :
    let offset := c.offset + (String.ofList (c.rest.takeWhile isBlank)).utf8ByteSize
    let piece := Piece.read first more
    c.next? = some (item offset first piece, ⟨offset + (String.ofList piece.chars).utf8ByteSize, piece.rest⟩) := by
  simp only [next?, h, utf8ByteSize_ofList]

/-- **Maximal munch.** Behind its blanks a cursor gives an item unless the text has ended. If a pattern stands in
front, the item is that of the longest one, and the cursor goes on behind it; if none does, the item is the first
character as a fault. -/
theorem next?_longest (c : Cursor) :
    let offset := c.offset + (String.ofList (c.rest.takeWhile isBlank)).utf8ByteSize
    let visible := c.rest.dropWhile isBlank
    (c.next? = none ↔ visible = []) ∧
      ((∃ x, x <+: visible ∧ Pattern x) →
        ∃ x behind i, visible = x ++ behind ∧ Pattern x ∧ (∀ y, y <+: visible → Pattern y → y.length ≤ x.length) ∧
          Gives offset x i ∧ c.next? = some (i, ⟨offset + (String.ofList x).utf8ByteSize, behind⟩)) ∧
      ∀ first more, visible = first :: more → (∀ x, x <+: visible → ¬ Pattern x) →
        ∃ d, c.next? = some (.error (.unreadable offset first), d) := by
  intro offset visible
  refine ⟨?_, ?_, ?_⟩
  · cases found : visible with
    | nil => simp [next?, show c.rest.dropWhile isBlank = [] from found]
    | cons first more => simp [next?_of_visible found]
  · intro some_pattern
    obtain ⟨x, front, pattern⟩ := some_pattern
    obtain ⟨first, more, text, -, gives⟩ := Piece.longest_of_pattern front pattern offset
    have whole := Piece.chars_append_rest first more
    refine ⟨_, (Piece.read first more).rest, _, text.trans whole.symm, gives.pattern, ?_, gives, next?_of_visible text⟩
    intro y front pattern
    obtain ⟨first', more', text', longer, -⟩ := Piece.longest_of_pattern front pattern offset
    obtain ⟨rfl, rfl⟩ := List.cons.inj (text.symm.trans text')
    exact longer
  · intro first more text no_pattern
    have front : (Piece.read first more).chars <+: visible :=
      ⟨(Piece.read first more).rest, (Piece.chars_append_rest first more).trans text.symm⟩
    have unread : (Piece.read first more).token = none := by
      rw [Option.eq_none_iff_forall_ne_some]
      intro t found
      exact no_pattern _ front (Piece.spelled_of_token found).pattern
    have found := next?_of_visible text
    simp only [item, unread] at found
    exact ⟨_, found⟩

/-- a fraction with an exponent, of which all but the last two characters belong to the numeral, and a currency sign -/
theorem next?_longest_exponent :
    (∃ x behind i, "1.5e3e+".toList = x ++ behind ∧ Pattern x ∧
        (∀ y, y <+: "1.5e3e+".toList → Pattern y → y.length ≤ x.length) ∧ Gives 1 x i ∧
        (start " 1.5e3e+").next? = some (i, ⟨1 + (String.ofList x).utf8ByteSize, behind⟩)) ∧
      ∃ d, (start "\u3000$1").next? = some (.error (.unreadable 3 '$'), d) := by
  have gap : (start " 1.5e3e+").offset +
      (String.ofList ((start " 1.5e3e+").rest.takeWhile isBlank)).utf8ByteSize = 1 := by
    decide +kernel
  have visible : (start " 1.5e3e+").rest.dropWhile isBlank = "1.5e3e+".toList := by decide +kernel
  have gap' : (start "\u3000$1").offset +
      (String.ofList ((start "\u3000$1").rest.takeWhile isBlank)).utf8ByteSize = 3 := by
    decide +kernel
  have visible' : (start "\u3000$1").rest.dropWhile isBlank = ['$', '1'] := by decide +kernel
  obtain ⟨-, munch, -⟩ := next?_longest (start " 1.5e3e+")
  obtain ⟨-, -, fault⟩ := next?_longest (start "\u3000$1")
  rw [gap, visible] at munch
  rw [gap', visible'] at fault
  refine ⟨munch ⟨['1'], by decide, ?_⟩, fault '$' ['1'] rfl ?_⟩
  · exact .numeral (n := ⟨['1'], none, none⟩) ⟨⟨by simp, by simp⟩, by simp, by simp, by simp, by simp⟩
  · intro x front pattern
    obtain ⟨c, more, rfl, classes⟩ := pattern.exists_cons
    obtain ⟨behind, text⟩ := front
    obtain rfl : c = '$' := (List.cons.inj text).1
    exact absurd classes (by decide)

end Cursor

end CellFormula
