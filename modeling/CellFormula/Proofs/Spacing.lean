/-
Blanks between the tokens of a formula mean nothing.

The texts of the spans of an accepted formula spell its tokens, so with any blanks around them, or none, they are a
layout of the same tokens. In general two neighbours could run together where the blanks between them go, as `1 2` or
`a1 2` would; but of two neighbours that fit one is an operator or a parenthesis, and so the new text is read as the
same tokens.

- `laid_spaced`: spans set in blanks are a layout of their tokens.
- `Formula.read_spaced`: an accepted formula is the same formula with any other blanks.
-/
import CellFormula.Proofs.Equality

namespace CellFormula

open Text

/-- the texts of the spans, with a gap in front of all and a gap behind each -/
def spaced (gap : String) (spans : List Span) (gaps : List String) : String :=
  gap ++ String.join (List.zipWith (fun s behind => s.text ++ behind) spans gaps)

theorem laid_spaced {spans : List Span} {gap : String} {gaps : List String} (count : gaps.length = spans.length)
    (blank : ∀ g ∈ gap :: gaps, Blank g.toList) (spelled : ∀ s ∈ spans, s.token.Spelled s.text.toList) :
    Laid (spans.map Span.token) (spaced gap spans gaps).toList := by
  have first : Blank gap.toList := blank gap List.mem_cons_self
  induction spans generalizing gap gaps with
  | nil => simpa [spaced] using Laid.blank first
  | cons s spans ih =>
    obtain ⟨behind, gaps, rfl⟩ := List.exists_cons_of_length_eq_add_one count
    have others : ∀ g ∈ behind :: gaps, Blank g.toList := fun g mem => blank g (List.mem_cons_of_mem gap mem)
    have rest : Laid (spans.map Span.token) (spaced behind spans gaps).toList :=
      ih (Nat.succ.inj count) others (fun t mem => spelled t (List.mem_cons_of_mem s mem))
        (others behind List.mem_cons_self)
    have text : (spaced gap (s :: spans) (behind :: gaps)).toList =
        gap.toList ++ (s.text.toList ++ (spaced behind spans gaps).toList) := by
      simp [spaced]
    rw [text]
    exact .token first (spelled s List.mem_cons_self) rest

namespace Formula

/-- **Spacing means nothing.** Take the texts of the spans of an accepted formula and set them in any blanks, or in
none: the result is accepted as the same formula. -/
theorem read_spaced {log : Log} {raw : String} {f : Formula} (h : (read log raw).1 = .ok f) :
    ∃ spans, tokenize raw = .ok spans ∧
      ∀ (log' : Log) (gap : String) (gaps : List String), gaps.length = spans.length →
        (∀ g ∈ gap :: gaps, Blank g.toList) →
        ∃ g, (read log' (spaced gap spans gaps)).1 = .ok g ∧ g.tokens = f.tokens ∧ g.canonical = f.canonical ∧
          g.names = f.names := by
  obtain ⟨spans, tokenized, tokens, spelled⟩ := exists_tokenize h
  refine ⟨spans, tokenized, fun log' gap gaps count blank => ⟨f, ?_, rfl, rfl, rfl⟩⟩
  obtain ⟨-, fits⟩ := read_eq_ok_iff_laid.mp h
  have laid := laid_spaced count blank spelled
  rw [tokens] at laid
  exact read_eq_ok_iff_laid.mpr ⟨laid, fits⟩

/-- all blanks gone but for wide ones at both ends -/
theorem read_spaced_sum :
    let f : Formula := ⟨[.var "A1", .operator .plus, .number ⟨false, 0x4000000000000000, by decide⟩]⟩
    (read (.blank .off) "a1 + 2.0").1 = .ok f ∧
      ∃ g, (read (.blank .off) "\u3000a1+2.0\u00a0").1 = .ok g ∧ g.tokens = f.tokens ∧ g.canonical = f.canonical ∧
        g.names = f.names := by
  intro f
  have accepted : (read (.blank .off) "a1 + 2.0").1 = .ok f := read_eq_ok_of_tokens (by decide +kernel)
  have spans_eq : tokenize "a1 + 2.0" = .ok [⟨.var "A1", "a1", 0⟩, ⟨.operator .plus, "+", 3⟩,
      ⟨.number ⟨false, 0x4000000000000000, by decide⟩, "2.0", 5⟩] := by
    decide +kernel
  have wide : isBlank '\u3000' = true := by decide
  have hard : isBlank '\u00a0' = true := by decide
  obtain ⟨spans, tokenized, same⟩ := read_spaced accepted
  obtain rfl := Except.ok.inj (tokenized.symm.trans spans_eq)
  exact ⟨accepted, same (.blank .off) "\u3000" ["", "", "\u00a0"] rfl (by simp [Blank, wide, hard])⟩

end Formula

end CellFormula
