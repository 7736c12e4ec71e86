/-
The canonical text of a formula says what the formula is.

Each token of an accepted formula is spelled by its canonical spelling, so the canonical text is laid out in the same
tokens, with no blanks at all; and tokens that fit are kept apart by what they are. So the canonical text is accepted as
the same formula, and formulas with one canonical text have the same tokens.

- `Token.Spelled.canonical`: a token with a spelling has its canonical one.
- `Formula.read_canonical_eq`: the canonical text of an accepted formula is accepted as the same formula.
- `Formula.read_canonical`: the round trip through the canonical text, also as stored data.
-/
import CellFormula.Datum
import CellFormula.Proofs.Lexing

namespace CellFormula

open Text

/-! ## Canonical spellings -/

theorem Binary64.chars_eq_positional {x : Binary64} (positive : x.negative = false) (finite : x.isFinite = true) :
    x.chars = (shortest x.magnitude).positional := by
  have number : x.isNaN = false := by
    have below : x.magnitude < infinity := of_decide_eq_true finite
    exact decide_eq_false (Nat.not_lt.mpr below.le)
  simp [chars, number, finite, positive]

theorem toUpper_eq_of_isDigit {c : Char} (h : c.isDigit = true) : c.toUpper = c := by
  apply Char.toUpper_eq_of_not_isLower
  intro lower
  have alpha : c.isAlpha = true := by simp [Char.isAlpha, lower]
  simp [isAlpha_eq_false_of_isDigit h] at alpha

theorem Numeral.IsDigits.map_toUpper {cs : List Char} (h : IsDigits cs) : cs.map Char.toUpper = cs :=
  (List.map_congr_left fun c mem => toUpper_eq_of_isDigit (h.2 c mem)).trans (List.map_id cs)

/-- a number is spelled by its canonical spelling, the positional notation of its shortest decimal -/
theorem Token.spelled_number {x : Binary64} (positive : x.negative = false) (finite : x.isFinite = true) :
    (Token.number x).Spelled (Token.number x).chars := by
  have rounds : Binary64.Rounds (Numeral.positional (Binary64.shortest x.magnitude)).amount x := by
    rw [Numeral.amount_positional]
    exact ⟨positive, finite, Binary64.isNearest_shortest x.magnitude⟩
  rw [Token.chars, Binary64.chars_eq_positional positive finite, ← Numeral.chars_positional]
  exact .number (Numeral.positional_wellFormed _) rounds

/-- a token that has a spelling is spelled by its canonical spelling -/
theorem Token.Spelled.canonical {t : Token} {x : List Char} (h : t.Spelled x) : t.Spelled t.chars := by
  cases h with
  | @number n value shape rounds =>
    exact spelled_number rounds.positive rounds.finite
  | @var letters digits some_letters all_letters isDigits =>
    have letters_eq : (letters.map Char.toUpper).map Char.toUpper = letters.map Char.toUpper := by
      simp [Function.comp_def]
    have upper : Token.Spelled _ (letters.map Char.toUpper ++ digits) :=
      .var (by simpa using some_letters) (by simpa using all_letters) isDigits
    rw [List.map_append, letters_eq, isDigits.map_toUpper] at upper
    rw [Token.chars, String.toList_ofList, List.map_append, isDigits.map_toUpper]
    exact upper
  | operator op => exact .operator op
  | leftParen => exact .leftParen
  | rightParen => exact .rightParen

theorem Laid.canonical {ts : List Token} {cs : List Char} (h : Laid ts cs) : Laid ts (ts.flatMap Token.chars) := by
  induction h with
  | blank _ => exact .blank blank_nil
  | token _ spelled _ ih =>
    rw [List.flatMap_cons]
    exact .token blank_nil spelled.canonical ih

/-! ## The round trip -/

namespace Formula

theorem read_canonical_eq {log : Log} {raw : String} {f : Formula} (h : (read log raw).1 = .ok f) (log' : Log) :
    (read log' f.canonical).1 = .ok f := by
  obtain ⟨laid, fits⟩ := read_eq_ok_iff_laid.mp h
  rw [show f = ⟨f.tokens⟩ from rfl, read_eq_ok_iff_laid, canonical, String.toList_ofList]
  exact ⟨laid.canonical, fits⟩

/-- **Round trip.** The canonical text of an accepted formula is accepted as the same formula: its tokens are the same,
to the bit, and so are its canonical text and its names. Stored and read back, the formula is the same too. -/
theorem read_canonical {log : Log} {raw : String} {f : Formula} (h : (read log raw).1 = .ok f) (log' : Log) :
    (∃ g, (read log' f.canonical).1 = .ok g ∧ g.tokens = f.tokens ∧ g.canonical = f.canonical ∧ g.names = f.names) ∧
      ∃ g, (ofDatum log' f.toDatum).1 = .ok g ∧ (g == f) = true ∧ g.tokens = f.tokens := by
  have again := read_canonical_eq h log'
  refine ⟨⟨f, again, rfl, rfl, rfl⟩, f, ?_, beq_iff_canonical_eq.mpr rfl, rfl⟩
  simp [ofDatum, toDatum, again, Except.mapError]

/-- blanks, small letters and the smallest of all numbers, read back -/
theorem read_canonical_product :
    let f : Formula := ⟨[.leftParen, .var "A1", .operator .plus, .number ⟨false, 0x4004000000000000, by decide⟩,
      .rightParen, .operator .times, .number ⟨false, 1, by decide⟩]⟩
    (read (.blank .off) " (a1+2.50) * \u00a05e-324").1 = .ok f ∧
      (∃ g, (read (.blank .trace) f.canonical).1 = .ok g ∧ g.tokens = f.tokens ∧ g.canonical = f.canonical ∧
        g.names = f.names) ∧
      ∃ g, (ofDatum (.blank .trace) f.toDatum).1 = .ok g ∧ (g == f) = true ∧ g.tokens = f.tokens := by
  intro f
  have accepted : (read (.blank .off) " (a1+2.50) * \u00a05e-324").1 = .ok f :=
    read_eq_ok_of_tokens (by decide +kernel)
  exact ⟨accepted, read_canonical accepted (.blank .trace)⟩

end Formula

end CellFormula
