/-
A fault lies where its cause stands.

The position of a fault is a byte offset at which the text can be cut between two characters. What is named by the fault
stands from there on: the character that starts no token, the span that is refused, or the blanks behind the last span,
where right parentheses are missing. A run of letters is shown at its first letter: no token ends in a letter, so no
letter stands in front of the run.

- `Fault.PointsAt`: what stands in front of a fault and from it on, for each cause.
- `Token.Spelled.getLast?_isAlpha`, `Laid.getLast?_isAlpha`: no token ends in a letter, and no text laid out in tokens.
- `Tiled.exists_of_spans`: what stands in front of an item that has only spans before it.
- `Formula.read_points_at`: a text that is refused is cut at the position of its fault.
-/
import CellFormula.Proofs.Continuation

namespace CellFormula

open Text

/-- what is named by a fault stands from its position on, or right in front of it: the text is cut there, and these are
its spans before the first character that cannot be read -/
inductive Fault.PointsAt (spans : List Span) (front behind : List Char) : Fault → Prop where
  /-- a visible character: a stray one, the first letter of a run, or the first digit of a numeral that overflows -/
  | unreadable {position : ℕ} {found : Char} {more after : List Char} : behind = found :: more ++ after →
      isBlank found = false → Unreadable (found :: more) after →
      (found.isAlpha = true → ∀ c ∈ front.getLast?, c.isAlpha = false) →
      PointsAt spans front behind (.unreadable position found)
  /-- nothing but blanks -/
  | empty : Blank (front ++ behind) → PointsAt spans front behind .empty
  /-- a span with nothing but blanks in front -/
  | badStart {s : Span} {after : List Char} : s ∈ spans → behind = s.text.toList ++ after → Blank front →
      PointsAt spans front behind (.badStart s.offset s.kind)
  /-- a span with nothing but blanks behind -/
  | badEnd {s : Span} {after : List Char} : s ∈ spans → behind = s.text.toList ++ after → Blank after →
      PointsAt spans front behind (.badEnd s.offset s.kind)
  | operandExpected {s : Span} {after : List Char} : s ∈ spans → behind = s.text.toList ++ after →
      PointsAt spans front behind (.operandExpected s.offset s.kind)
  | operatorExpected {s : Span} {after : List Char} : s ∈ spans → behind = s.text.toList ++ after →
      PointsAt spans front behind (.operatorExpected s.offset s.kind)
  | unopened {position : ℕ} {after : List Char} : behind = ')' :: after →
      PointsAt spans front behind (.unopened position)
  /-- the end of the last span, with nothing but blanks behind, and parentheses left open -/
  | unclosed {s : Span} {missing : ℕ} : spans.getLast? = some s → Blank behind → 0 < missing →
      PointsAt spans front behind (.unclosed (s.offset + s.text.utf8ByteSize) missing)

/-! ## In front of an item -/

/-- digits end in a digit, whatever stands before them -/
theorem Numeral.IsDigits.getLast?_append {ds : List Char} (digits : IsDigits ds) (before : List Char) :
    ∀ c ∈ (before ++ ds).getLast?, c.isAlpha = false := by
  intro c mem
  rw [List.getLast?_append_of_ne_nil _ digits.1] at mem
  exact isAlpha_eq_false_of_isDigit (digits.2 c (List.mem_of_getLast? mem))

theorem Numeral.WellFormed.getLast?_chars {n : Numeral} (shape : n.WellFormed) :
    ∀ c ∈ n.chars.getLast?, c.isAlpha = false := by
  obtain ⟨whole, fraction, exponent⟩ := n
  cases exponent with
  | some e =>
    have text : chars ⟨whole, fraction, some e⟩ =
        (whole ++ fraction.elim [] ('.' :: ·) ++ e.mark :: e.sign.toList) ++ e.digits := by
      simp [chars, Exponent.chars]
    rw [text]
    exact (shape.digits e rfl).getLast?_append _
  | none =>
    cases fraction with
    | some ds =>
      have text : chars ⟨whole, some ds, none⟩ = (whole ++ ['.']) ++ ds := by simp [chars]
      rw [text]
      exact (shape.fraction ds rfl).getLast?_append _
    | none =>
      have text : chars ⟨whole, none, none⟩ = [] ++ whole := by simp [chars]
      rw [text]
      exact shape.whole.getLast?_append _

/-- no token ends in a letter -/
theorem Token.Spelled.getLast?_isAlpha {t : Token} {x : List Char} (h : t.Spelled x) :
    ∀ c ∈ x.getLast?, c.isAlpha = false := by
  cases h with
  | number shape _ => exact shape.getLast?_chars
  | var _ _ digits => exact digits.getLast?_append _
  | operator op =>
    rintro c ⟨⟩
    exact (Piece.plain_of_symbol? (Piece.symbol?_char op)).2.1
  | leftParen =>
    rintro c ⟨⟩
    decide
  | rightParen =>
    rintro c ⟨⟩
    decide

theorem Cut.span_eq {offset : ℕ} {x rest : List Char} {s : Span} (h : Cut offset x rest (.ok s)) :
    s.token.Spelled x ∧ s.text.toList = x := by
  cases h with
  | span _ spelled => exact ⟨spelled, String.toList_ofList⟩

theorem Laid.getLast?_isAlpha {ts : List Token} {cs : List Char} (h : Laid ts cs) :
    ∀ c ∈ cs.getLast?, c.isAlpha = false := by
  induction h with
  | blank blank =>
    intro c mem
    by_contra alpha
    have visible := isBlank_eq_false_of_isAlpha (Bool.eq_true_of_not_eq_false alpha)
    rw [blank c (List.mem_of_getLast? mem)] at visible
    cases visible
  | @token t ts gap x cs blank spelled behind ih =>
    rw [← List.append_assoc]
    by_cases ended : cs = []
    · subst ended
      rw [List.append_nil, List.getLast?_append_of_ne_nil _ spelled.ne_nil]
      exact spelled.getLast?_isAlpha
    · rwa [List.getLast?_append_of_ne_nil _ ended]

/-- what stands in front of an item that has only spans before it is laid out in their tokens -/
theorem Tiled.exists_of_spans {offset : ℕ} {cs : List Char} {spans : List Span} {i : Item} {items : List Item}
    (h : Tiled offset cs (spans.map .ok ++ i :: items)) :
    ∃ front x rest, cs = front ++ (x ++ rest) ∧ Laid (spans.map Span.token) front ∧
      Cut (offset + byteSize front) x rest i ∧ Tiled (offset + byteSize front + byteSize x) rest items := by
  induction spans generalizing offset cs with
  | nil =>
    cases h with
    | @piece _ gap x rest _ _ blank cut behind => exact ⟨gap, x, rest, rfl, .blank blank, cut, behind⟩
  | cons s spans ih =>
    cases h with
    | @piece _ gap token _ _ _ blank cut behind =>
      obtain ⟨spelled, -⟩ := cut.span_eq
      obtain ⟨front, x, rest, rfl, laid, cut, tiled⟩ := ih behind
      have size : offset + byteSize gap + byteSize token + byteSize front =
          offset + byteSize (gap ++ (token ++ front)) := by
        rw [byteSize_append, byteSize_append]
        simp only [Nat.add_assoc]
      rw [size] at cut tiled
      exact ⟨gap ++ (token ++ front), x, rest, by simp, .token blank spelled laid, cut, tiled⟩

theorem Unreadable.visible {first : Char} {more rest : List Char} (h : Unreadable (first :: more) rest) :
    isBlank first = false := by
  generalize text : first :: more = x at h
  cases h with
  | stray rest visible =>
    obtain ⟨rfl, -⟩ := List.cons.inj text
    exact visible
  | letters _ letters => exact isBlank_eq_false_of_isAlpha (letters first (text ▸ List.mem_cons_self))
  | overflow shape =>
    obtain ⟨c, digits, chars, digit⟩ := shape.exists_cons
    obtain ⟨rfl, -⟩ := List.cons.inj (text.trans chars)
    exact isBlank_eq_false_of_isDigit digit

/-- a text is cut in front of an item that has only spans before it, at the position of the item -/
theorem Cursor.exists_of_spans {raw : String} {spans : List Span} {i : Item} {items : List Item}
    (h : (start raw).items = spans.map .ok ++ i :: items) :
    ∃ front x rest, raw.toList = front ++ (x ++ rest) ∧ byteSize front = Item.position i ∧
      Laid (spans.map Span.token) front ∧ Cut (byteSize front) x rest i ∧
      Tiled (byteSize front + byteSize x) rest items := by
  have tiled : Tiled 0 raw.toList (start raw).items := (start raw).tiled
  rw [h] at tiled
  obtain ⟨front, x, rest, text, laid, cut, behind⟩ := tiled.exists_of_spans
  rw [Nat.zero_add] at cut behind
  exact ⟨front, x, rest, text, cut.position_eq.symm, laid, cut, behind⟩

/-! ## Where a text is refused -/

namespace Formula

/-- a span that clashes stands where its fault lies -/
theorem exists_points_at_of_bad {raw : String} {i : ℕ} {fault : Fault}
    (bad : Bad (leading (Cursor.start raw).items) i fault) :
    ∃ front behind, raw.toList = front ++ behind ∧ byteSize front = fault.position ∧
      fault.PointsAt (leading (Cursor.start raw).items) front behind := by
  obtain ⟨s, at_i, clash⟩ := bad
  obtain ⟨more, items⟩ := eq_take_of_leading at_i
  obtain ⟨front, x, rest, text, place, laid, cut, -⟩ := Cursor.exists_of_spans items
  have here : s ∈ leading (Cursor.start raw).items := List.mem_of_getElem? at_i
  obtain ⟨spelled, rfl⟩ := cut.span_eq
  refine ⟨front, s.text.toList ++ rest, text, place.trans clash.position_eq.symm, ?_⟩
  cases clash with
  | start none_before continues =>
    rw [none_before] at laid
    cases laid with
    | blank blank => exact .badStart here rfl blank
  | operand last expects continues => exact .operandExpected here rfl
  | operator last ended begins => exact .operatorExpected here rfl
  | unopened last ended right full =>
    have parenthesis : s.token = .rightParen := Token.kind_rightParen_iff.mp right
    rw [parenthesis] at spelled
    generalize s.text.toList = x at spelled
    cases spelled
    exact .unopened rfl

/-- a character that cannot be read, with only spans before it, stands where its fault lies -/
theorem exists_points_at_of_firstFault? {raw : String} {fault : Fault}
    (unread : firstFault? (Cursor.start raw).items = some fault) :
    ∃ front behind, raw.toList = front ++ behind ∧ byteSize front = fault.position ∧
      fault.PointsAt (leading (Cursor.start raw).items) front behind := by
  obtain ⟨more, items⟩ := exists_eq_leading_of_some unread
  obtain ⟨front, x, rest, text, place, laid, cut, -⟩ := Cursor.exists_of_spans items
  refine ⟨front, x ++ rest, text, place, ?_⟩
  cases cut with
  | fault unreadable => exact .unreadable rfl unreadable.visible unreadable fun _ => laid.getLast?_isAlpha

/-- where the text ends too early, its last span or the blanks behind it stand where the fault lies -/
theorem exists_points_at_of_verdict {raw : String} {fault : Fault} {spans : List Span}
    (items : (Cursor.start raw).items = spans.map .ok) (sound : ∀ i other, ¬ Bad spans i other)
    (ended : verdict spans none = .error fault) :
    ∃ front behind, raw.toList = front ++ behind ∧ byteSize front = fault.position ∧
      fault.PointsAt spans front behind := by
  have balance := Draft.count_le_of_not_bad sound
  cases last : spans.getLast? with
  | none =>
    obtain rfl := List.getLast?_eq_none_iff.mp last
    obtain rfl : Fault.empty = fault := by simpa [verdict] using ended
    have blank : Blank raw.toList := Cursor.blank_of_next? (Cursor.next?_of_items_nil items)
    exact ⟨[], raw.toList, rfl, rfl, .empty blank⟩
  | some p =>
    obtain ⟨earlier, rfl⟩ := List.getLast?_eq_some_iff.mp last
    rw [List.map_append] at items
    obtain ⟨front, x, rest, text, place, -, cut, nothing⟩ := Cursor.exists_of_spans items
    obtain ⟨-, rfl⟩ := cut.span_eq
    have blank : Blank rest := by
      cases nothing with
      | gap blank => exact blank
    simp only [verdict, last] at ended
    split_ifs at ended with expects uneven
    · obtain rfl := Except.error.inj ended
      exact ⟨front, p.text.toList ++ rest, text, place, .badEnd (by simp) rfl blank⟩
    · obtain rfl := Except.error.inj ended
      refine ⟨front ++ p.text.toList, rest, by rw [text, List.append_assoc], ?_, .unclosed last blank (by omega)⟩
      rw [byteSize_append, place, byteSize_toList]
      rfl

/-- **Faults point at what they name.** If a text is refused, it can be cut at the position of the fault, which is no
larger than its size, and what the fault names stands there: the character shown, the first of a piece that spells no
token; the span of the kind shown, the first or the last one where the fault says so; a right parenthesis; or the end of
the last span, with parentheses left open. -/
theorem read_points_at {log : Log} {raw : String} {fault : Fault} (h : (read log raw).1 = .error fault) :
    ∃ front behind : List Char, raw.toList = front ++ behind ∧ (String.ofList front).utf8ByteSize = fault.position ∧
      fault.position ≤ raw.utf8ByteSize ∧ fault.PointsAt (leading (Cursor.start raw).items) front behind := by
  have cut : ∃ front behind, raw.toList = front ++ behind ∧ byteSize front = fault.position ∧
      fault.PointsAt (leading (Cursor.start raw).items) front behind := by
    rcases error_cases h with ⟨i, bad, -⟩ | ⟨sound, ended⟩
    · exact exists_points_at_of_bad bad
    · cases lexical : firstFault? (Cursor.start raw).items with
      | some other =>
        rw [lexical] at ended
        obtain rfl := Except.error.inj ended
        exact exists_points_at_of_firstFault? lexical
      | none =>
        rw [lexical] at ended
        exact exists_points_at_of_verdict (eq_leading_of_none lexical) sound ended
  obtain ⟨front, behind, text, place, points⟩ := cut
  refine ⟨front, behind, text, ?_, ?_, points⟩
  · rw [utf8ByteSize_ofList, place]
  · rw [← place, ← byteSize_toList, text, byteSize_append]
    exact Nat.le_add_right _ _

/-- letters without a digit behind a wide blank and a name, and a right parenthesis too many -/
theorem read_points_at_letters :
    (read (.blank .off) "　a1+xy é").1 = .error (.unreadable 6 'x') ∧
      (∃ front behind : List Char, "　a1+xy é".toList = front ++ behind ∧ (String.ofList front).utf8ByteSize = 6 ∧
        (Fault.unreadable 6 'x').PointsAt (leading (Cursor.start "　a1+xy é").items) front behind) ∧
      (read (.blank .off) "(a1) ) 2").1 = .error (.unopened 5) ∧
      ∃ front behind : List Char, "(a1) ) 2".toList = front ++ behind ∧ (String.ofList front).utf8ByteSize = 5 ∧
        (Fault.unopened 5).PointsAt (leading (Cursor.start "(a1) ) 2").items) front behind := by
  have letters : (read (.blank .off) "　a1+xy é").1 = .error (.unreadable 6 'x') :=
    read_eq_error_of_finish (by decide +kernel)
  have closing : (read (.blank .off) "(a1) ) 2").1 = .error (.unopened 5) :=
    read_eq_error_of_finish (by decide +kernel)
  obtain ⟨front, behind, text, place, -, points⟩ := read_points_at letters
  obtain ⟨front', behind', text', place', -, points'⟩ := read_points_at closing
  exact ⟨letters, ⟨front, behind, text, place, points⟩, closing, front', behind', text', place', points'⟩

end Formula

end CellFormula
