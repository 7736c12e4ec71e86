/-
The test for a variable and the reading of a text know the same variables.

The test knows nothing of tokens: it passes over the letters of a text, and all that is left must be digits, with some of
both. Reading passes over blanks, takes letters and digits as far as they go, and goes on with what is left. Both are
measured against the spellings of variables. A text that spells a variable is read as this variable alone; and where one
span has the whole text, or where the text is accepted as one variable whose name is as long as the text, there is no room
for blanks or for more.

- `isVariable_iff_spelled`: the test finds the spellings of variables.
- `tokenize_eq_span_iff`: so does cutting the text into spans, where the one span has the whole text.
- `Formula.read_eq_var_iff`: so does reading it as a formula, where the one variable has the whole text for its name.
- `isVariable_iff_tokenize`: the three together.
-/
import CellFormula.Proofs.Sentence
import CellFormula.Proofs.ShortestText
import CellFormula.Proofs.Stream

namespace CellFormula

open Text

/-! ## The name of a variable -/

theorem Token.Spelled.toUpper_eq {name text : String} (h : Token.Spelled (.var name) text.toList) :
    text.toUpper = name := by
  rw [h.name_eq, ← String.toList_inj, String.toList_ofList]
  exact String.toList_map

/-- a span is a variable of this name exactly if it is a variable and this is its text in upper case -/
theorem Span.token_eq_var_iff {s : Span} (spelled : s.token.Spelled s.text.toList) {name : String} :
    s.token = .var name ↔ s.kind = .var ∧ s.text.toUpper = name := by
  have upper {other : String} (named : s.token = .var other) : s.text.toUpper = other := (named ▸ spelled).toUpper_eq
  refine ⟨?_, ?_⟩
  · intro named
    exact ⟨Token.kind_var_iff.mpr ⟨name, named⟩, upper named⟩
  · intro h
    rcases h with ⟨kind, rfl⟩
    obtain ⟨other, named⟩ := Token.kind_var_iff.mp kind
    rw [named, upper named]

/-! ## The test -/

theorem Token.Spelled.isVariable {name text : String} (h : Token.Spelled (.var name) text.toList) :
    isVariable text = true := by
  rw [isVariable_iff]
  -- only the characters count, and they are those of the spelling
  generalize text.toList = cs at h ⊢
  cases h with
  | @var letters digits some_letters all_letters isDigits =>
    have stop : Stops Char.isAlpha digits := by
      intro c mem
      exact isAlpha_eq_false_of_isDigit (isDigits.2 c (List.mem_of_mem_head? mem))
    rw [takeWhile_run all_letters stop, dropWhile_run all_letters stop]
    exact ⟨some_letters, isDigits.1, isDigits.2⟩

/-- the test finds the texts that spell a variable -/
theorem isVariable_iff_spelled {text : String} :
    isVariable text = true ↔ Token.Spelled (.var text.toUpper) text.toList := by
  refine ⟨?_, Token.Spelled.isVariable⟩
  intro h
  obtain ⟨some_letters, some_digits, all_digits⟩ := isVariable_iff.mp h
  have runs : Token.Spelled _ (text.toList.takeWhile Char.isAlpha ++ text.toList.dropWhile Char.isAlpha) :=
    .var some_letters (List.all_eq_true.mp List.all_takeWhile) ⟨some_digits, all_digits⟩
  rw [List.takeWhile_append_dropWhile] at runs
  rwa [runs.toUpper_eq]

/-! ## The reader -/

theorem Token.Spelled.tokenize_eq {t : Token} {text : String} (h : t.Spelled text.toList) :
    tokenize text = .ok [⟨t, text, 0⟩] := by
  have alone := tokenize_of_spelled h
  rwa [String.ofList_toList] at alone

/-- a text is cut into one span, a variable that has the whole text, exactly if it spells this variable -/
theorem tokenize_eq_span_iff {text : String} :
    (∃ s, tokenize text = .ok [s] ∧ s.kind = .var ∧ s.text = text) ↔
      Token.Spelled (.var text.toUpper) text.toList := by
  refine ⟨?_, ?_⟩
  · intro h
    rcases h with ⟨s, gathered, kind, rfl⟩
    have items : (Cursor.start s.text).items = [s].map .ok := Reader.gather_eq_ok_iff.mp gathered
    have spelled := (Cursor.laid_of_items items).2 s List.mem_cons_self
    have named : s.token = .var s.text.toUpper := (Span.token_eq_var_iff spelled).mpr ⟨kind, rfl⟩
    rwa [named] at spelled
  · intro spelled
    exact ⟨⟨.var text.toUpper, text, 0⟩, spelled.tokenize_eq, rfl, rfl⟩

/-- a text as long as the name of the one variable in it has no room for blanks -/
theorem Laid.spelled_of_length {name : String} {cs : List Char} (h : Laid [.var name] cs)
    (length : cs.length = name.toList.length) : Token.Spelled (.var name) cs := by
  cases h with
  | @token _ _ gap x behind _ spelled _ =>
    have same : name.toList.length = x.length := by
      rw [spelled.name_eq, String.toList_ofList, List.length_map]
    rw [List.length_append, List.length_append, same] at length
    obtain rfl : gap = [] := List.eq_nil_of_length_eq_zero (by omega)
    obtain rfl : behind = [] := List.eq_nil_of_length_eq_zero (by omega)
    simpa using spelled

theorem Formula.read_eq_var_iff {log : Log} {text : String} :
    (read log text).1 = .ok ⟨[.var text.toUpper]⟩ ↔ Token.Spelled (.var text.toUpper) text.toList := by
  rw [read_eq_ok_iff_laid]
  refine ⟨?_, ?_⟩
  · intro h
    apply h.1.spelled_of_length
    rw [String.toUpper, String.toList_map, List.length_map]
  · intro spelled
    exact ⟨spelled.laid, .var text.toUpper .done⟩

/-- **Two recognisers of variables.** A text passes the test for a variable exactly if it is cut into one span, a variable
that has the whole text. That span is then known in full. And a text passes exactly if it is accepted as the formula of one
variable, with the whole text in upper case for its name. -/
theorem isVariable_iff_tokenize (text : String) :
    (isVariable text = true ↔ ∃ s, tokenize text = .ok [s] ∧ s.kind = .var ∧ s.text = text) ∧
      (isVariable text = true ↔ tokenize text = .ok [⟨.var text.toUpper, text, 0⟩]) ∧
      ∀ log, isVariable text = true ↔ (Formula.read log text).1 = .ok ⟨[.var text.toUpper]⟩ := by
  refine ⟨isVariable_iff_spelled.trans tokenize_eq_span_iff.symm, ⟨?_, ?_⟩, fun log => ?_⟩
  · intro h
    exact (isVariable_iff_spelled.mp h).tokenize_eq
  · intro h
    exact isVariable_iff_spelled.mpr (tokenize_eq_span_iff.mp ⟨_, h, rfl, rfl⟩)
  · exact isVariable_iff_spelled.trans Formula.read_eq_var_iff.symm

/-- a name in mixed case; behind a blank it is still read as one variable, but not as the whole text -/
theorem isVariable_iff_tokenize_blank :
    isVariable "xY09" = true ∧ tokenize "xY09" = .ok [⟨.var "XY09", "xY09", 0⟩] ∧
      (∀ log, (Formula.read log "xY09").1 = .ok ⟨[.var "XY09"]⟩) ∧
      tokenize " xY09" = .ok [⟨.var "XY09", "xY09", 1⟩] ∧ isVariable " xY09" = false := by
  have upper : "xY09".toUpper = "XY09" := by decide +kernel
  have passes : isVariable "xY09" = true := by decide
  have behind : tokenize " xY09" = .ok [⟨.var "XY09", "xY09", 1⟩] := by decide +kernel
  obtain ⟨-, span, accepted⟩ := isVariable_iff_tokenize "xY09"
  obtain ⟨whole, -⟩ := isVariable_iff_tokenize " xY09"
  rw [upper] at span accepted
  refine ⟨passes, span.mp passes, fun log => (accepted log).mp passes, behind, ?_⟩
  rw [← Bool.not_eq_true, whole]
  rintro ⟨s, gathered, -, text⟩
  obtain ⟨rfl, -⟩ := List.cons.inj (Except.ok.inj (behind.symm.trans gathered))
  exact absurd text (by decide)

end CellFormula
