/-
The case of letters means nothing.

A text in lower case is read in step with the text itself. In lower case a letter is a letter and takes as many bytes as
before, and the marks of an exponent are one letter in two cases, so every piece ends where it did. It has the same token
too: the value of a numeral does not depend on its mark, and a name is put in upper case anyway. Only the character that a
fault shows is another. So texts that differ only in the case of letters are accepted as the same formula, or refused for
the same fault but for the case of that character. Letters are those from A to Z; all others are left as they are.

- `toLower_cases`: what a character is in lower case.
- `Numeral.scan_lower`, `Piece.read_lower`: a numeral and a piece in lower case.
- `Cursor.items_lower`: the items of a text in lower case.
- `Draft.simulation_lower`: drafts that differ in their logs alone go on alike.
- `Formula.read_toLower`: what comes of a text in lower case.
- `Formula.read_letter_case`: texts that differ only in the case of letters.
-/
import CellFormula.Proofs.Composition

namespace CellFormula

open Text

/-! ## Characters -/

/-- in lower case a character is itself, or it is a letter and stays one -/
theorem toLower_cases (c : Char) : c.toLower = c ∨ c.isAlpha = true ∧ c.toLower.isAlpha = true := by
  by_cases upper : c.isUpper = true
  · have alpha : c.isAlpha = true := by simp [Char.isAlpha, upper]
    exact .inr ⟨alpha, by rw [Char.isAlpha_toLower_eq_isAlpha, alpha]⟩
  · exact .inl (Char.toLower_eq_of_not_isUpper upper)

/-- what does not tell letters apart does not look at their case -/
theorem eq_toLower {α : Type} (p : Char → α) (letter : α) (same : ∀ c : Char, c.isAlpha = true → p c = letter)
    (c : Char) : p c.toLower = p c := by
  rcases toLower_cases c with plain | ⟨alpha, alpha'⟩
  · rw [plain]
  · rw [same c alpha, same _ alpha']

theorem isDigit_toLower : ∀ c : Char, c.toLower.isDigit = c.isDigit :=
  eq_toLower Char.isDigit false fun _ alpha => isDigit_eq_false_of_isAlpha alpha

theorem isBlank_toLower : ∀ c : Char, isBlank c.toLower = isBlank c :=
  eq_toLower isBlank false fun _ alpha => isBlank_eq_false_of_isAlpha alpha

theorem symbol?_toLower : ∀ c : Char, Piece.symbol? c.toLower = Piece.symbol? c :=
  eq_toLower Piece.symbol? none fun _ alpha => Piece.symbol?_eq_none_of_isAlpha alpha

theorem beq_toLower {a : Char} (plain : a.isAlpha = false) : ∀ c : Char, (c.toLower == a) = (c == a) := by
  apply eq_toLower (· == a) false
  intro c alpha
  rw [beq_eq_false_iff_ne]
  rintro rfl
  simp [plain] at alpha

theorem utf8Size_toLower : ∀ c : Char, c.toLower.utf8Size = c.utf8Size := by
  apply eq_toLower Char.utf8Size 1
  intro c alpha
  rw [isAlpha_iff] at alpha
  have low : c.toNat ≤ 127 := by omega
  exact Char.utf8Size_eq_one_iff.mpr low

/-- the two marks of an exponent are one letter -/
theorem toLower_eq_e_iff (c : Char) : c.toLower = 'e' ↔ c = 'e' ∨ c = 'E' := by
  refine ⟨?_, ?_⟩
  · intro h
    by_cases upper : c.isUpper = true
    · have valid : (c.toNat + 32).isValidChar := by
        have alpha : c.isAlpha = true := by simp [Char.isAlpha, upper]
        rw [isAlpha_iff] at alpha
        exact .inl (by omega)
      rw [Char.toLower_eq_of_isUpper upper] at h
      have code := congrArg Char.toNat h
      rw [Char.toNat_ofNat, if_pos valid] at code
      have code : c.toNat = 69 := by simpa using code
      exact .inr (by rw [← Char.ofNat_toNat c, code])
    · exact .inl (by rwa [Char.toLower_eq_of_not_isUpper upper] at h)
  · rintro (rfl | rfl) <;> rfl

theorem mark_toLower (c : Char) : c.toLower = 'e' ∨ c.toLower = 'E' ↔ c = 'e' ∨ c = 'E' := by
  rw [← toLower_eq_e_iff, ← toLower_eq_e_iff, Char.toLower_toLower_eq_toLower]

/-! ## Runs -/

section Runs

variable {p : Char → Bool} (same : ∀ c : Char, p c.toLower = p c)
include same

theorem takeWhile_lower (cs : List Char) :
    (cs.map Char.toLower).takeWhile p = (cs.takeWhile p).map Char.toLower := by
  rw [List.takeWhile_map, show p ∘ Char.toLower = p from funext same]

theorem dropWhile_lower (cs : List Char) :
    (cs.map Char.toLower).dropWhile p = (cs.dropWhile p).map Char.toLower := by
  rw [List.dropWhile_map, show p ∘ Char.toLower = p from funext same]

theorem Text.Stops.lower {cs : List Char} (h : Stops p cs) : Stops p (cs.map Char.toLower) := by
  cases cs with
  | nil => exact stops_nil p
  | cons c cs => exact stops_cons.mpr ((same c).trans (stops_cons.mp h))

end Runs

theorem takeWhile_isDigit_lower (cs : List Char) :
    (cs.map Char.toLower).takeWhile Char.isDigit = cs.takeWhile Char.isDigit := by
  rw [takeWhile_lower isDigit_toLower]
  refine (List.map_congr_left ?_).trans (List.map_id _)
  intro c mem
  have digit : c.isDigit = true := List.all_eq_true.mp List.all_takeWhile c mem
  rcases toLower_cases c with plain | ⟨alpha, -⟩
  · exact plain
  · simp [isDigit_eq_false_of_isAlpha alpha] at digit

theorem byteSize_lower (cs : List Char) : byteSize (cs.map Char.toLower) = byteSize cs := by
  induction cs with
  | nil => rfl
  | cons c cs ih => rw [List.map_cons, byteSize_cons, byteSize_cons, ih, utf8Size_toLower]

@[simp] theorem toList_toLower (text : String) : text.toLower.toList = text.toList.map Char.toLower := String.toList_map

theorem toLower_ofList (cs : List Char) : (String.ofList cs).toLower = String.ofList (cs.map Char.toLower) := by
  rw [← String.toList_inj]
  simp

theorem utf8ByteSize_toLower (text : String) : text.toLower.utf8ByteSize = text.utf8ByteSize := by
  rw [← byteSize_toList, ← byteSize_toList, toList_toLower, byteSize_lower]

/-! ## Numerals -/

namespace Numeral

def Exponent.lower (e : Exponent) : Exponent := { e with mark := e.mark.toLower }

def lower (n : Numeral) : Numeral := { n with exponent := n.exponent.map Exponent.lower }

theorem takeFraction_lower (cs : List Char) :
    takeFraction (cs.map Char.toLower) = ((takeFraction cs).1, (takeFraction cs).2.map Char.toLower) := by
  fun_cases takeFraction cs with
  | case1 cs h => simp [takeFraction, takeWhile_isDigit_lower, h]
  | case2 cs d ds h => simp [takeFraction, takeWhile_isDigit_lower, dropWhile_lower isDigit_toLower, h]
  | case3 cs no_point => exact takeFraction_of_stops ((stops_of_ne_cons no_point).lower (beq_toLower (by decide)))

theorem takeSign_lower (cs : List Char) :
    takeSign (cs.map Char.toLower) = ((takeSign cs).1, (takeSign cs).2.map Char.toLower) := by
  fun_cases takeSign cs with
  | case1 cs => rfl
  | case2 cs => rfl
  | case3 cs no_plus no_minus =>
    apply takeSign_of_stops
    · exact (stops_of_ne_cons no_plus).lower (beq_toLower (by decide))
    · exact (stops_of_ne_cons no_minus).lower (beq_toLower (by decide))

theorem takeExponent_lower (cs : List Char) :
    takeExponent (cs.map Char.toLower) =
      ((takeExponent cs).1.map Exponent.lower, (takeExponent cs).2.map Char.toLower) := by
  fun_cases takeExponent cs with
  | case1 => rfl
  | case2 c cs mark sign after signed no_digits =>
    simp only [List.map_cons, takeExponent, if_pos ((mark_toLower c).mpr mark), takeSign_lower, signed,
      takeWhile_isDigit_lower, no_digits, Option.map_none]
  | case3 c cs mark sign after signed d ds digits =>
    simp only [List.map_cons, takeExponent, if_pos ((mark_toLower c).mpr mark), takeSign_lower, signed,
      takeWhile_isDigit_lower, dropWhile_lower isDigit_toLower, digits, Option.map_some, Exponent.lower]
  | case4 c cs unmarked =>
    simp only [List.map_cons, takeExponent, if_neg (mt (mark_toLower c).mp unmarked), Option.map_none]

theorem scan_lower (cs : List Char) : scan (cs.map Char.toLower) = ((scan cs).1.lower, (scan cs).2.map Char.toLower) := by
  simp only [scan, takeWhile_isDigit_lower, dropWhile_lower isDigit_toLower, takeFraction_lower, takeExponent_lower, lower]

/-- the value does not depend on the mark -/
theorem toBinary64_lower (n : Numeral) : n.lower.toBinary64 = n.toBinary64 := by
  obtain ⟨whole, fraction, exponent⟩ := n
  cases exponent with
  | none => rfl
  | some e => rfl

end Numeral

/-! ## Pieces -/

namespace Piece

theorem numeral_lower (cs : List Char) :
    (numeral (cs.map Char.toLower)).token = (numeral cs).token ∧
      (numeral (cs.map Char.toLower)).rest = (numeral cs).rest.map Char.toLower := by
  simp only [numeral, Numeral.scan_lower, Numeral.toBinary64_lower, and_self]

theorem variableName_lower (cs : List Char) :
    (variableName (cs.map Char.toLower)).token = (variableName cs).token ∧
      (variableName (cs.map Char.toLower)).rest = (variableName cs).rest.map Char.toLower := by
  have upper (ds : List Char) : (ds.map Char.toLower).map Char.toUpper = ds.map Char.toUpper := by
    simp [Function.comp_def]
  simp only [variableName, takeWhile_lower Char.isAlpha_toLower_eq_isAlpha,
    dropWhile_lower Char.isAlpha_toLower_eq_isAlpha, dropWhile_lower isDigit_toLower, takeWhile_isDigit_lower,
    List.map_append, upper, and_self]

/-- in lower case a piece has the same token, and ends where it did -/
theorem read_lower (c : Char) (cs : List Char) :
    read c.toLower (cs.map Char.toLower) =
      ⟨(read c cs).token, (read c cs).chars.map Char.toLower, (read c cs).rest.map Char.toLower⟩ := by
  have parts : (read c.toLower (cs.map Char.toLower)).token = (read c cs).token ∧
      (read c.toLower (cs.map Char.toLower)).rest = (read c cs).rest.map Char.toLower := by
    unfold read
    rw [symbol?_toLower, isDigit_toLower, Char.isAlpha_toLower_eq_isAlpha, ← List.map_cons]
    cases symbol? c with
    | some token => exact ⟨rfl, rfl⟩
    | none =>
      split_ifs
      · exact numeral_lower (c :: cs)
      · exact variableName_lower (c :: cs)
      · exact ⟨rfl, rfl⟩
  -- the characters of a piece are what is left of the text without the rest
  have whole := chars_append_rest c.toLower (cs.map Char.toLower)
  rw [← List.map_cons, ← chars_append_rest c cs, List.map_append, parts.2] at whole
  exact Piece.mk.injEq .. |>.mpr ⟨parts.1, List.append_cancel_right whole, parts.2⟩

end Piece

/-! ## Items -/

def Span.lower (s : Span) : Span := ⟨s.token, s.text.toLower, s.offset⟩

/-- the fault with the character that it shows in lower case -/
def Fault.lower : Fault → Fault
  | .unreadable position found => .unreadable position found.toLower
  | fault => fault

/-- faults that are the same in lower case may show a character in either case -/
theorem Fault.eq_or_of_lower {fault fault' : Fault} (h : fault.lower = fault'.lower) :
    fault = fault' ∨ ∃ position c d, fault = .unreadable position c ∧ fault' = .unreadable position d ∧
      c.toLower = d.toLower := by
  cases fault with
  | unreadable position c =>
    cases fault' with
    | unreadable position' d =>
      obtain ⟨rfl, shown⟩ := Fault.unreadable.inj h
      exact .inr ⟨position, c, d, rfl, rfl, shown⟩
    | _ => cases h
  | _ =>
    cases fault' with
    | unreadable position' d => cases h
    | _ => exact .inl h

def Item.lower : Item → Item
  | .ok s => .ok s.lower
  | .error fault => .error fault.lower

namespace Cursor

def lower (c : Cursor) : Cursor := ⟨c.offset, c.rest.map Char.toLower⟩

theorem next?_lower (c : Cursor) : c.lower.next? = c.next?.map fun (i, d) => (i.lower, d.lower) := by
  unfold next?
  simp only [lower, dropWhile_lower isBlank_toLower, takeWhile_lower isBlank_toLower, byteSize_lower]
  cases c.rest.dropWhile isBlank with
  | nil => rfl
  | cons first more =>
    simp only [List.map_cons, Piece.read_lower, byteSize_lower, Option.map_some, item]
    cases (Piece.read first more).token with
    | none => rfl
    | some token => simp only [Item.lower, Span.lower, toLower_ofList]

theorem items_lower (c : Cursor) : c.lower.items = c.items.map Item.lower := items_map lower next?_lower c

end Cursor

namespace Draft

/-- the drafts are the same but for their logs, and nothing is refused yet -/
structure Twin (d e : Draft) : Prop where
  free : e.refusal = none
  same : ∃ log, d = { e with log := log }

/-- no character is shown for a span that cannot be the next one -/
theorem objection?_lower (d : Draft) (s : Span) : (d.objection? s).map Fault.lower = d.objection? s := by
  have misplaced : (misplaced? d.previous s.offset s.kind).map Fault.lower = misplaced? d.previous s.offset s.kind := by
    unfold misplaced?
    cases d.previous with
    | none => cases s.kind.startsOperand <;> rfl
    | some before => cases ends : before.endsOperand <;> cases s.kind.startsOperand <;> simp [ends, Fault.lower]
  unfold objection?
  cases found : misplaced? d.previous s.offset s.kind with
  | some fault => rwa [found] at misplaced
  | none => dsimp only; split <;> rfl

/-- nor for spans that cannot be all -/
theorem finish_lower {d : Draft} (free : d.refusal = none) : d.finish.mapError Fault.lower = d.finish := by
  unfold finish
  rw [free]
  cases d.previous with
  | none => rfl
  | some last => dsimp only; split_ifs <;> rfl

theorem simulation_lower : Simulation Twin Span.lower Fault.lower id where
  free twin := by
    obtain ⟨free, log, rfl⟩ := twin
    exact ⟨free, free⟩
  objection s twin := by
    obtain ⟨-, log, rfl⟩ := twin
    exact (objection?_lower _ s).symm
  push {d e} s twin := by
    obtain ⟨free, log, rfl⟩ := twin
    -- the text of a span is written to the log and nowhere else; elsewhere only its size counts
    refine ⟨free, ({ e with log := log }.push s.lower).log, ?_⟩
    have stop : s.lower.stop = s.stop := by rw [Span.stop, Span.lower, utf8ByteSize_toLower, Span.stop]
    simp only [push, stop]
    rfl
  finish {d e} twin := by
    obtain ⟨free, log, rfl⟩ := twin
    have same : (e.finish.map id).mapError Fault.lower = e.finish.mapError Fault.lower := by cases e.finish <;> rfl
    rw [same, finish_lower free]
    rfl

end Draft

/-! ## Texts -/

namespace Formula

/-- a text in lower case is accepted as the same formula, or refused with the character shown in lower case -/
theorem read_toLower (log log' : Log) (raw : String) :
    (read log' raw.toLower).1 = (read log raw).1.mapError Fault.lower := by
  have start_lower : Cursor.start raw.toLower = (Cursor.start raw).lower := by
    simp [Cursor.start, Cursor.lower]
  have twin : (Draft.start log').Twin (Draft.start log) := ⟨rfl, log', rfl⟩
  have outcome : ((Draft.start log').consume ((Cursor.start raw).items.map Item.lower)).1.finish =
      (((Draft.start log).consume (Cursor.start raw).items).1.finish.map id).mapError Fault.lower :=
    Draft.simulation_lower.finish_consume (fun _ => rfl) (fun _ _ => rfl) twin
  rw [read_eq, read_eq, start_lower, Cursor.items_lower, outcome]
  cases ((Draft.start log).consume (Cursor.start raw).items).1.finish <;> rfl

/-- **The case of letters means nothing.** Let two texts be the same in lower case. Either both are accepted, and the
formulas have the same tokens, the same canonical text and the same names; or both are refused, and the faults are the same
but for the case of the character that is shown. -/
theorem read_letter_case {a b : String} (same : a.toLower = b.toLower) (log log' : Log) :
    (∃ f g, (read log a).1 = .ok f ∧ (read log' b).1 = .ok g ∧ f.tokens = g.tokens ∧ f.canonical = g.canonical ∧
        f.names = g.names) ∨
      ∃ fault fault', (read log a).1 = .error fault ∧ (read log' b).1 = .error fault' ∧
        (fault = fault' ∨ ∃ position c d, fault = .unreadable position c ∧ fault' = .unreadable position d ∧
          c.toLower = d.toLower) := by
  have alike : (read log a).1.mapError Fault.lower = (read log' b).1.mapError Fault.lower := by
    rw [← read_toLower log log, ← read_toLower log' log, same]
  cases first : (read log a).1 with
  | ok f =>
    cases second : (read log' b).1 with
    | ok g =>
      rw [first, second] at alike
      obtain rfl := Except.ok.inj alike
      exact .inl ⟨f, f, rfl, rfl, rfl, rfl, rfl⟩
    | error fault' =>
      rw [first, second] at alike
      cases alike
  | error fault =>
    cases second : (read log' b).1 with
    | ok g =>
      rw [first, second] at alike
      cases alike
    | error fault' =>
      rw [first, second] at alike
      exact .inr ⟨fault, fault', rfl, rfl, Fault.eq_or_of_lower (Except.error.inj alike)⟩

/-- names and exponents in either case, and a mark without digits -/
theorem read_letter_case_exponent :
    "Ab1*2E3-e5".toLower = "aB1*2e3-E5".toLower ∧
      (∃ f g, (read (.blank .off) "Ab1*2E3-e5").1 = .ok f ∧ (read (.blank .off) "aB1*2e3-E5").1 = .ok g ∧
        f.tokens = g.tokens ∧ f.canonical = g.canonical ∧ f.names = g.names) ∧
      "2E+é".toLower = "2e+é".toLower ∧ (read (.blank .off) "2E+é").1 = .error (.unreadable 1 'E') ∧
      ∃ fault, (read (.blank .off) "2e+é").1 = .error fault ∧
        (.unreadable 1 'E' = fault ∨ ∃ position c d, Fault.unreadable 1 'E' = .unreadable position c ∧
          fault = .unreadable position d ∧ c.toLower = d.toLower) := by
  have same : "Ab1*2E3-e5".toLower = "aB1*2e3-E5".toLower := by
    rw [← String.toList_inj, toList_toLower, toList_toLower]
    decide
  have same' : "2E+é".toLower = "2e+é".toLower := by
    rw [← String.toList_inj, toList_toLower, toList_toLower]
    decide
  have accepted : (read (.blank .off) "Ab1*2E3-e5").1.isOk = true := by decide +kernel
  have refused : (read (.blank .off) "2E+é").1 = .error (.unreadable 1 'E') := read_eq_error_of_finish (by decide +kernel)
  refine ⟨same, ?_, same', refused, ?_⟩
  · rcases read_letter_case same (.blank .off) (.blank .off) with found | ⟨fault, -, wrong, -⟩
    · exact found
    · rw [wrong] at accepted
      cases accepted
  · rcases read_letter_case same' (.blank .off) (.blank .off) with
      ⟨f, -, wrong, -⟩ | ⟨fault, fault', first, second, shown⟩
    · rw [refused] at wrong
      cases wrong
    · obtain rfl := Except.error.inj (refused.symm.trans first)
      exact ⟨fault', second, shown⟩

end Formula

end CellFormula
