/-
The spellings of tokens, and how a text is laid out in tokens and blanks.

A spelling is said by its shape alone: letters and digits, a numeral that rounds to the number, one of six characters.
The reader takes the longest piece it can, so a spelling is read back whole only if what stands behind it cannot go on
with it. Behind the operands of a formula there is always such a text: a blank, an operator, a right parenthesis or
nothing.

- `Piece.spelled_of_token`: a piece that gives a token is a spelling of it.
- `Piece.read_of_spelled`: a spelling is read back where a number or a name cannot go on.
- `laid_of_items`: a text read without a fault is laid out in the tokens read.
- `items_append_of_laid`: a text laid out in tokens that fit is read without a fault, as these tokens, also in front of
  more text that stands apart.
- `Formula.read_eq_ok_iff_laid`: a text is accepted with these tokens exactly if it is laid out in them and they fit.
-/
import CellFormula.Proofs.Check
import CellFormula.Proofs.Numeral

namespace CellFormula

open Text

/-! ## Spellings -/

/-- the characters are a spelling of the token -/
inductive Token.Spelled : Token → List Char → Prop where
  | number {n : Numeral} {x : Binary64} : n.WellFormed → Binary64.Rounds n.amount x → Spelled (.number x) n.chars
  | var {letters digits : List Char} : letters ≠ [] → (∀ c ∈ letters, c.isAlpha = true) → Numeral.IsDigits digits →
      Spelled (.var (String.ofList ((letters ++ digits).map Char.toUpper))) (letters ++ digits)
  | operator (op : Operator) : Spelled (.operator op) [op.char]
  | leftParen : Spelled .leftParen ['(']
  | rightParen : Spelled .rightParen [')']

namespace Piece

theorem spelled_of_symbol? {c : Char} {t : Token} (h : symbol? c = some t) : t.Spelled [c] := by
  unfold symbol? at h
  split at h
  · obtain rfl := Option.some.inj h
    exact .operator .plus
  · obtain rfl := Option.some.inj h
    exact .operator .minus
  · obtain rfl := Option.some.inj h
    exact .operator .times
  · obtain rfl := Option.some.inj h
    exact .operator .divide
  · obtain rfl := Option.some.inj h
    exact .leftParen
  · obtain rfl := Option.some.inj h
    exact .rightParen
  · cases h

/-- the characters that spell a token alone are neither digits nor letters nor blanks -/
theorem plain_of_symbol? {c : Char} {t : Token} (h : symbol? c = some t) :
    c.isDigit = false ∧ c.isAlpha = false ∧ c ≠ '.' ∧ isBlank c = false := by
  unfold symbol? at h
  split at h
  · decide
  · decide
  · decide
  · decide
  · decide
  · decide
  · cases h

theorem apart_cons_of_symbol? {c : Char} {t : Token} (cs : List Char) (h : symbol? c = some t) : Apart (c :: cs) := by
  obtain ⟨digit, alpha, point, -⟩ := plain_of_symbol? h
  intro d mem
  obtain rfl : c = d := by simpa using mem
  exact ⟨digit, alpha, point⟩

theorem symbol?_char (op : Operator) : symbol? op.char = some (.operator op) := by
  cases op <;> rfl

theorem spelled_of_numeral {c : Char} {cs : List Char} {t : Token} (digit : c.isDigit = true)
    (h : (numeral (c :: cs)).token = some t) : t.Spelled (numeral (c :: cs)).chars := by
  simp only [numeral] at h ⊢
  split_ifs at h with finite
  obtain rfl := Option.some.inj h
  exact .number (Numeral.scan_wellFormed digit) (Numeral.rounds_amount_iff.mpr ⟨rfl, finite⟩)

theorem spelled_of_variableName {c : Char} {cs : List Char} {t : Token} (alpha : c.isAlpha = true)
    (h : (variableName (c :: cs)).token = some t) : t.Spelled (variableName (c :: cs)).chars := by
  simp only [variableName] at h ⊢
  split_ifs at h with none
  obtain rfl := Option.some.inj h
  refine .var ?_ (List.all_eq_true.mp List.all_takeWhile) ⟨?_, List.all_eq_true.mp List.all_takeWhile⟩
  · simp [alpha]
  · simpa using none

theorem spelled_of_token {c : Char} {cs : List Char} {t : Token} (h : (read c cs).token = some t) :
    t.Spelled (read c cs).chars := by
  unfold read at h ⊢
  split at h
  · rename_i token symbol
    obtain rfl := Option.some.inj h
    exact spelled_of_symbol? symbol
  · split_ifs at h ⊢ with digit alpha
    · exact spelled_of_numeral digit h
    · exact spelled_of_variableName alpha h

theorem spelled_of_read {c : Char} {cs x rest : List Char} {t : Token} (h : read c cs = ⟨some t, x, rest⟩) :
    t.Spelled x := by
  have spelled := spelled_of_token (congrArg token h)
  rwa [h] at spelled

theorem symbol?_eq_none_of_isDigit {c : Char} (h : c.isDigit = true) : symbol? c = none := by
  cases symbol : symbol? c with
  | none => rfl
  | some t => simp [(plain_of_symbol? symbol).1] at h

theorem symbol?_eq_none_of_isAlpha {c : Char} (h : c.isAlpha = true) : symbol? c = none := by
  cases symbol : symbol? c with
  | none => rfl
  | some t => simp [(plain_of_symbol? symbol).2.1] at h

theorem read_of_isDigit {c : Char} (digit : c.isDigit = true) (cs : List Char) : read c cs = numeral (c :: cs) := by
  simp [read, symbol?_eq_none_of_isDigit digit, digit]

/-- the numeral of a number is read whole -/
theorem read_numeral {n : Numeral} {x : Binary64} (shape : n.WellFormed) (rounds : Binary64.Rounds n.amount x)
    {rest : List Char} (apart : Apart rest) :
    ∃ c more, n.chars = c :: more ∧ isBlank c = false ∧ read c (more ++ rest) = ⟨some (.number x), n.chars, rest⟩ := by
  obtain ⟨c, more, text, digit⟩ := shape.exists_cons
  obtain ⟨same, finite⟩ := Numeral.rounds_amount_iff.mp rounds
  refine ⟨c, more, text, isBlank_eq_false_of_isDigit digit, ?_⟩
  rw [read_of_isDigit digit, ← List.cons_append, ← text, numeral, Numeral.scan_chars shape apart]
  simp only [same, finite, ite_true]

/-- letters and digits are read as a name, together with the digits that go on behind them -/
theorem read_letters_digits {letters digits : List Char} (some_letters : letters ≠ [])
    (all_letters : ∀ c ∈ letters, c.isAlpha = true) (isDigits : Numeral.IsDigits digits) (rest : List Char) :
    ∃ c more, letters ++ digits = c :: more ∧ isBlank c = false ∧
      read c (more ++ rest) =
        ⟨some (.var (String.ofList ((letters ++ digits ++ rest.takeWhile Char.isDigit).map Char.toUpper))),
          letters ++ digits ++ rest.takeWhile Char.isDigit, rest.dropWhile Char.isDigit⟩ := by
  obtain ⟨c, more, rfl⟩ := List.exists_cons_of_ne_nil some_letters
  have alpha : c.isAlpha = true := all_letters c List.mem_cons_self
  refine ⟨c, more ++ digits, rfl, isBlank_eq_false_of_isAlpha alpha, ?_⟩
  have stop : Stops Char.isAlpha (digits ++ rest) := by
    obtain ⟨d, others, rfl⟩ := List.exists_cons_of_ne_nil isDigits.1
    exact stops_cons.mpr (isAlpha_eq_false_of_isDigit (isDigits.2 d List.mem_cons_self))
  have letters_eq := takeWhile_run all_letters stop
  have behind := dropWhile_run all_letters stop
  have some_digits : (digits ++ rest.takeWhile Char.isDigit).isEmpty = false := by simp [isDigits.1]
  rw [List.cons_append] at letters_eq behind
  rw [List.append_assoc]
  simp only [read, symbol?_eq_none_of_isAlpha alpha, isDigit_eq_false_of_isAlpha alpha, alpha, variableName, letters_eq,
    behind, List.takeWhile_append_of_pos isDigits.2, List.dropWhile_append_of_pos isDigits.2, some_digits]
  simp

theorem read_variableName {letters digits : List Char} (some_letters : letters ≠ [])
    (all_letters : ∀ c ∈ letters, c.isAlpha = true) (isDigits : Numeral.IsDigits digits) {rest : List Char}
    (apart : Apart rest) :
    ∃ c more, letters ++ digits = c :: more ∧ isBlank c = false ∧
      read c (more ++ rest) =
        ⟨some (.var (String.ofList ((letters ++ digits).map Char.toUpper))), letters ++ digits, rest⟩ := by
  have read_eq := read_letters_digits some_letters all_letters isDigits rest
  rwa [apart.digit.takeWhile, apart.digit.dropWhile, List.append_nil] at read_eq

/-- a spelling is read back, where a number or a name cannot go on behind it -/
theorem read_of_spelled {t : Token} {x rest : List Char} (h : t.Spelled x)
    (apart : t.kind = .number ∨ t.kind = .var → Apart rest) :
    ∃ c more, x = c :: more ∧ isBlank c = false ∧ read c (more ++ rest) = ⟨some t, x, rest⟩ := by
  cases h with
  | number shape rounds => exact read_numeral shape rounds (apart (.inl rfl))
  | var some_letters all_letters isDigits =>
    exact read_variableName some_letters all_letters isDigits (apart (.inr rfl))
  | operator op =>
    refine ⟨op.char, [], rfl, (plain_of_symbol? (symbol?_char op)).2.2.2, ?_⟩
    simp [read, symbol?_char]
  | leftParen => exact ⟨'(', [], rfl, by decide, rfl⟩
  | rightParen => exact ⟨')', [], rfl, by decide, rfl⟩

end Piece

/-! ## Layout -/

/-- the text is made of spellings of these tokens, with blanks in front of each and behind the last -/
inductive Laid : List Token → List Char → Prop where
  | blank {gap : List Char} : Blank gap → Laid [] gap
  | token {t : Token} {ts : List Token} {gap x cs : List Char} :
      Blank gap → t.Spelled x → Laid ts cs → Laid (t :: ts) (gap ++ (x ++ cs))

/-- what is laid out in tokens that fit behind an operand keeps the operand apart, and so does what stands behind blanks
alone -/
theorem Laid.apart {ts : List Token} {cs rest : List Char} {depth : ℕ} (laid : Laid ts cs) (fits : Fits false depth ts)
    (apart : Apart rest) : Apart (cs ++ rest) := by
  cases laid with
  | blank blank =>
    cases cs with
    | nil => exact apart
    | cons c more => exact apart_cons_of_isBlank _ (blank c List.mem_cons_self)
  | @token t ts gap x cs blank spelled laid =>
    cases gap with
    | cons c more => exact apart_cons_of_isBlank _ (blank c List.mem_cons_self)
    | nil =>
      have symbol : ∃ c, x = [c] ∧ Piece.symbol? c = some t := by
        cases fits with
        | closing =>
          cases spelled
          exact ⟨_, rfl, rfl⟩
        | operator op =>
          cases spelled
          exact ⟨_, rfl, Piece.symbol?_char op⟩
      obtain ⟨c, rfl, symbol⟩ := symbol
      exact Piece.apart_cons_of_symbol? _ symbol

namespace Cursor

theorem next?_of_blank {c : Cursor} (h : Blank c.rest) : c.next? = none := by
  have nothing : (c.rest ++ []).dropWhile isBlank = [] := dropWhile_run h (stops_nil isBlank)
  rw [List.append_nil] at nothing
  simp [next?, nothing]

/-- behind blanks, the next item is that of the piece found there -/
theorem next?_of_append (offset : ℕ) {gap : List Char} (cs : List Char) {first : Char} (blank : Blank gap)
    (visible : isBlank first = false) :
    next? ⟨offset, gap ++ first :: cs⟩ =
      some (item (offset + byteSize gap) first (Piece.read first cs),
        ⟨offset + byteSize gap + byteSize (Piece.read first cs).chars, (Piece.read first cs).rest⟩) := by
  have stop : Stops isBlank (first :: cs) := stops_cons.mpr visible
  simp only [next?, dropWhile_run blank stop, takeWhile_run blank stop]

theorem next?_of_blank_append (offset : ℕ) {gap : List Char} (cs : List Char) (blank : Blank gap) :
    next? ⟨offset, gap ++ cs⟩ = next? ⟨offset + byteSize gap, cs⟩ := by
  simp only [next?, List.dropWhile_append_of_pos blank, List.takeWhile_append_of_pos blank, byteSize_append,
    Nat.add_assoc]

theorem items_of_blank_append (offset : ℕ) {gap : List Char} (cs : List Char) (blank : Blank gap) :
    (Cursor.mk offset (gap ++ cs)).items = (Cursor.mk (offset + byteSize gap) cs).items := by
  have same := next?_of_blank_append offset cs blank
  cases next : next? ⟨offset + byteSize gap, cs⟩ with
  | none => rw [items_of_none next, items_of_none (same.trans next)]
  | some found => rw [items_of_some next, items_of_some (same.trans next)]

/-- in front of a text that stands apart, what is laid out in tokens that fit is read without a fault, as these tokens;
the rest is then read as it is alone -/
theorem items_append_of_laid {ts : List Token} {cs rest : List Char} (laid : Laid ts cs) {due : Bool} {depth : ℕ}
    (fits : Fits due depth ts) (apart : Apart rest) (offset : ℕ) :
    ∃ spans : List Span, (Cursor.mk offset (cs ++ rest)).items =
        spans.map .ok ++ (Cursor.mk (offset + byteSize cs) rest).items ∧ spans.map Span.token = ts := by
  induction laid generalizing due depth offset with
  | blank blank => exact ⟨[], items_of_blank_append offset rest blank, rfl⟩
  | @token t ts gap x cs blank spelled laid ih =>
    have behind := (fits_cons_iff.mp fits).2.2
    have apart' : t.kind = .number ∨ t.kind = .var → Apart (cs ++ rest) := by
      intro h
      rcases h with kind | kind
      · rw [kind] at behind
        exact laid.apart behind apart
      · rw [kind] at behind
        exact laid.apart behind apart
    obtain ⟨first, more, rfl, visible, read⟩ := Piece.read_of_spelled spelled apart'
    have step := next?_of_append offset (more ++ (cs ++ rest)) blank visible
    rw [read] at step
    obtain ⟨spans, eq, tokens⟩ := ih behind (offset + byteSize gap + byteSize (first :: more))
    have text : gap ++ (first :: more ++ cs) ++ rest = gap ++ first :: (more ++ (cs ++ rest)) := by simp
    refine ⟨⟨t, String.ofList (first :: more), offset + byteSize gap⟩ :: spans, ?_, ?_⟩
    · rw [text, items_of_some step, eq, byteSize_append, byteSize_append, ← Nat.add_assoc, ← Nat.add_assoc]
      rfl
    · simp [tokens]

/-- a text laid out in tokens that fit is read without a fault, as these tokens -/
theorem items_of_laid {ts : List Token} {cs : List Char} (laid : Laid ts cs) {due : Bool} {depth : ℕ}
    (fits : Fits due depth ts) (offset : ℕ) :
    ∃ spans : List Span, (Cursor.mk offset cs).items = spans.map .ok ∧ spans.map Span.token = ts := by
  obtain ⟨spans, eq, tokens⟩ := items_append_of_laid laid fits apart_nil offset
  have ended : (Cursor.mk (offset + byteSize cs) []).items = [] := items_of_none (next?_of_blank blank_nil)
  rw [List.append_nil, ended, List.append_nil] at eq
  exact ⟨spans, eq, tokens⟩

theorem blank_of_next? {c : Cursor} (h : c.next? = none) : Blank c.rest := by
  unfold next? at h
  split at h
  · rename_i nothing
    intro first mem
    have whole := List.takeWhile_append_dropWhile (p := isBlank) (l := c.rest)
    rw [nothing, List.append_nil] at whole
    exact List.all_eq_true.mp List.all_takeWhile first (whole ▸ mem)
  · cases h

theorem exists_of_next? {c d : Cursor} {i : Item} (h : c.next? = some (i, d)) :
    ∃ (gap cs : List Char) (first : Char), Blank gap ∧ isBlank first = false ∧ c.rest = gap ++ first :: cs ∧
      i = item (c.offset + byteSize gap) first (Piece.read first cs) ∧
      d = ⟨c.offset + byteSize gap + byteSize (Piece.read first cs).chars, (Piece.read first cs).rest⟩ := by
  unfold next? at h
  split at h
  · cases h
  · rename_i first cs found
    obtain ⟨rfl, rfl⟩ := Prod.mk.inj (Option.some.inj h)
    refine ⟨c.rest.takeWhile isBlank, cs, first, List.all_eq_true.mp List.all_takeWhile, ?_, ?_, rfl, rfl⟩
    · exact stops_cons.mp (found ▸ stops_dropWhile isBlank c.rest)
    · rw [← found, List.takeWhile_append_dropWhile]

theorem eq_span_of_item {offset : ℕ} {first : Char} {piece : Piece} {s : Span} (h : item offset first piece = .ok s) :
    piece.token = some s.token ∧ s = ⟨s.token, String.ofList piece.chars, offset⟩ := by
  unfold item at h
  split at h
  · rename_i token found
    obtain rfl := Except.ok.inj h
    exact ⟨found, rfl⟩
  · cases h

theorem spelled_of_item {offset : ℕ} {first : Char} {cs : List Char} {s : Span}
    (h : item offset first (Piece.read first cs) = .ok s) :
    s.token.Spelled (Piece.read first cs).chars ∧ s.text.toList = (Piece.read first cs).chars := by
  obtain ⟨token, placed⟩ := eq_span_of_item h
  refine ⟨Piece.spelled_of_token token, ?_⟩
  rw [placed, String.toList_ofList]

/-- a text read without a fault is laid out in the tokens read, and their texts spell them -/
theorem laid_of_items {c : Cursor} {spans : List Span} (h : c.items = spans.map .ok) :
    Laid (spans.map Span.token) c.rest ∧ ∀ s ∈ spans, s.token.Spelled s.text.toList := by
  induction spans generalizing c with
  | nil => exact ⟨.blank (blank_of_next? (next?_of_items_nil h)), by simp⟩
  | cons s spans ih =>
    obtain ⟨d, next, more⟩ := exists_of_items_cons h
    obtain ⟨laid, texts⟩ := ih more
    obtain ⟨gap, cs, first, blank, -, text, made, rfl⟩ := exists_of_next? next
    obtain ⟨spelled, same⟩ := spelled_of_item made.symm
    refine ⟨?_, ?_⟩
    · rw [text, ← Piece.chars_append_rest first cs]
      exact .token blank spelled laid
    · intro t mem
      rcases List.mem_cons.mp mem with rfl | mem
      · rwa [same]
      · exact texts t mem

end Cursor

/-- a text is accepted with these tokens exactly if it is laid out in them and they fit -/
theorem Formula.read_eq_ok_iff_laid {log : Log} {raw : String} {ts : List Token} :
    (read log raw).1 = .ok ⟨ts⟩ ↔ Laid ts raw.toList ∧ Fits true 0 ts := by
  rw [read_eq_ok_iff]
  refine ⟨?_, ?_⟩
  · intro h
    rcases h with ⟨spans, items, fits, rfl⟩
    exact ⟨(Cursor.laid_of_items items).1, fits⟩
  · intro h
    rcases h with ⟨laid, fits⟩
    obtain ⟨spans, items, rfl⟩ := Cursor.items_of_laid laid fits 0
    exact ⟨spans, items, fits, rfl⟩

end CellFormula
