/-
A formula in the place of an operand.

Where a number or a variable stands, any operand can stand: it ends the reading where the token did, with as many
parentheses open. In the text, what stands in front of the token is laid out in the tokens before it and what stands behind
it in those after it, so a formula set between them in parentheses gives a layout of its tokens between theirs. And a layout
of tokens that fit is read as these tokens, wherever numbers and names go on or stop in the two texts.

- `Fits.replaced`: another operand in the place of a number or a variable.
- `Formula.exists_laid_around`: an accepted text around one of its spans.
- `Formula.read_replaced`: an accepted text with a formula in parentheses in the place of a number or a variable.
-/
import CellFormula.Proofs.Equality
import CellFormula.Proofs.FaultPosition

namespace CellFormula

open Text

/-- in the place of a number or a variable any operand fits -/
theorem Fits.replaced {before after : List Token} {t : Token} (operand : t.kind = .number ∨ t.kind = .var)
    (u : Tree .operand) {due : Bool} {depth : ℕ} (h : Fits due depth (before ++ t :: after)) :
    Fits due depth (before ++ (u.tokens ++ after)) := by
  induction before generalizing due depth with
  | nil =>
    obtain ⟨rfl, -, behind⟩ := fits_cons_iff.mp h
    rcases operand with kind | kind
    · rw [kind] at behind ⊢
      exact fits_tokens u behind
    · rw [kind] at behind ⊢
      exact fits_tokens u behind
  | cons first before ih =>
    obtain ⟨starts, closes, behind⟩ := fits_cons_iff.mp h
    apply fits_cons_iff.mpr
    exact ⟨starts, closes, ih behind⟩

/-- a text that is cut into spans alone is laid out in their tokens -/
theorem Tiled.laid {offset : ℕ} {cs : List Char} {spans : List Span} (h : Tiled offset cs (spans.map .ok)) :
    Laid (spans.map Span.token) cs := by
  induction spans generalizing offset cs with
  | nil =>
    cases h with
    | gap blank => exact .blank blank
  | cons s spans ih =>
    cases h with
    | piece blank cut behind => exact .token blank cut.span_eq.1 (ih behind)

namespace Formula

/-- an accepted text around one of its spans: in front and behind it is laid out in the other tokens -/
theorem exists_laid_around {raw : String} {before after : List Span} {s : Span}
    (items : (Cursor.start raw).items = (before ++ s :: after).map .ok) :
    ∃ front behind : String, raw = front ++ s.text ++ behind ∧ front.utf8ByteSize = s.offset ∧
      Laid (before.map Span.token) front.toList ∧ Laid (after.map Span.token) behind.toList := by
  rw [List.map_append, List.map_cons] at items
  obtain ⟨front, x, rest, text, place, laid, cut, tiled⟩ := Cursor.exists_of_spans items
  obtain ⟨-, rfl⟩ := cut.span_eq
  refine ⟨String.ofList front, String.ofList rest, ?_, ?_, ?_, ?_⟩
  · rw [← String.toList_inj, text]
    simp
  · rw [utf8ByteSize_ofList, place]
    rfl
  · rwa [String.toList_ofList]
  · rw [String.toList_ofList]
    exact tiled.laid

/-- **Substitution.** Take a number or a variable of an accepted text, and in its place set any formula in parentheses: the
result is accepted, and its tokens are those of the text with the parentheses and the tokens of the formula between them in
the place of this one. -/
theorem read_replaced {log : Log} {raw : String} {f : Formula} (h : (read log raw).1 = .ok f) :
    ∃ spans, tokenize raw = .ok spans ∧
      ∀ i s, spans[i]? = some s → s.kind = .number ∨ s.kind = .var →
        f.tokens[i]? = some s.token ∧
        ∃ front behind : String, raw = front ++ s.text ++ behind ∧ front.utf8ByteSize = s.offset ∧
          (front ++ s.text).utf8ByteSize = s.offset + s.text.utf8ByteSize ∧
          ∀ (log' log'' : Log) (inner : String) (g : Formula), (read log' inner).1 = .ok g →
            ∃ k, (read log'' (front ++ "(" ++ inner ++ ")" ++ behind)).1 = .ok k ∧
              k.tokens = f.tokens.take i ++ ([.leftParen] ++ g.tokens ++ [.rightParen]) ++ f.tokens.drop (i + 1) := by
  obtain ⟨tokens⟩ := f
  obtain ⟨spans, items, fits, rfl⟩ := read_eq_ok_iff.mp h
  refine ⟨spans, Reader.gather_eq_ok items, ?_⟩
  intro i s found operand
  obtain ⟨before, after, rfl, rfl⟩ : ∃ before after, spans = before ++ s :: after ∧ before.length = i := by
    obtain ⟨short, rfl⟩ := List.getElem?_eq_some_iff.mp found
    exact ⟨spans.take i, spans.drop (i + 1), by simp, List.length_take_of_le short.le⟩
  obtain ⟨front, behind, text, place, ahead, later⟩ := exists_laid_around items
  rw [List.map_append, List.map_cons] at fits
  refine ⟨by simp, front, behind, text, place, ?_, ?_⟩
  · rw [String.utf8ByteSize_append, place]
  · intro log' log'' inner g accepted
    obtain ⟨laid, inside⟩ := read_eq_ok_iff_laid.mp accepted
    obtain ⟨u, tokens⟩ := fits_iff_tree.mp inside
    have group : Laid (Tree.group u).tokens ('(' :: (inner.toList ++ [')'])) := by
      rw [Tree.tokens, tokens]
      exact laid.group
    refine ⟨⟨before.map Span.token ++ ((Tree.group u).tokens ++ after.map Span.token)⟩, ?_, ?_⟩
    · apply read_eq_ok_iff_laid.mpr
      refine ⟨?_, fits.replaced operand (.group u)⟩
      simpa using ahead.append (group.append later)
    · simp [Tree.tokens, tokens, List.drop_append]

/-- a difference in the place of the second factor -/
theorem read_replaced_factor :
    let f : Formula := ⟨[.leftParen, .var "A1", .rightParen, .operator .times, .var "E5"]⟩
    let g : Formula := ⟨[.var "B2", .operator .minus, .var "C3"]⟩
    (read (.blank .off) "(a1) *e5 ").1 = .ok f ∧ (read (.blank .off) " b2-c3").1 = .ok g ∧
      ∃ front behind : String, "(a1) *e5 " = front ++ "e5" ++ behind ∧ front.utf8ByteSize = 6 ∧
        ∃ k, (read (.blank .off) (front ++ "(" ++ " b2-c3" ++ ")" ++ behind)).1 = .ok k ∧
          k.tokens = [.leftParen, .var "A1", .rightParen, .operator .times, .leftParen, .var "B2", .operator .minus,
            .var "C3", .rightParen] := by
  intro f g
  have product : (read (.blank .off) "(a1) *e5 ").1 = .ok f := read_eq_ok_of_tokens (by decide +kernel)
  have difference : (read (.blank .off) " b2-c3").1 = .ok g := read_eq_ok_of_tokens (by decide +kernel)
  have spans_eq : tokenize "(a1) *e5 " = .ok [⟨.leftParen, "(", 0⟩, ⟨.var "A1", "a1", 1⟩, ⟨.rightParen, ")", 3⟩,
      ⟨.operator .times, "*", 5⟩, ⟨.var "E5", "e5", 6⟩] := by
    decide +kernel
  obtain ⟨spans, tokenized, replaced⟩ := read_replaced product
  obtain rfl := Except.ok.inj (tokenized.symm.trans spans_eq)
  obtain ⟨-, front, behind, text, place, -, accepted⟩ := replaced 4 ⟨.var "E5", "e5", 6⟩ rfl (.inr rfl)
  exact ⟨product, difference, front, behind, text, place, accepted _ (.blank .off) _ g difference⟩

end Formula

end CellFormula
