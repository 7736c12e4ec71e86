/-
Of all that is wrong with a text, the first violation is reported.

A stream of items is the spans before its first fault, then that fault, if there is one. A span clashes with the spans
before it if it cannot stand where they leave off: this is said of the spans alone, by the kinds of two neighbours and
by counting parentheses. A draft that has met no clash remembers just enough of its spans to tell whether the next one
clashes, and so the first clash is what it reports; without a clash it is the fault of the stream, and without that
either the end is wrong or the text is accepted.

- `Clash`, `Bad`: what makes a span wrong where it stands.
- `Draft.After.objection?_eq_some_iff`: a draft objects exactly to the spans that clash.
- `Draft.After.consume_append`: spans without a clash are all taken.
- `Formula.read_first_violation`: the outcome of reading any text.
-/
import CellFormula.Proofs.Check

namespace CellFormula

/-! ## The stream of items -/

/-- the spans before the first fault -/
def leading : List Item → List Span
  | .ok s :: rest => s :: leading rest
  | _ => []

def firstFault? : List Item → Option Fault
  | [] => none
  | .error fault :: _ => some fault
  | .ok _ :: rest => firstFault? rest

theorem eq_leading_of_none {items : List Item} (h : firstFault? items = none) : items = (leading items).map .ok := by
  induction items with
  | nil => rfl
  | cons item rest ih =>
    cases item with
    | error fault => cases h
    | ok s => exact congrArg (.ok s :: ·) (ih h)

theorem exists_eq_leading_of_some {items : List Item} {fault : Fault} (h : firstFault? items = some fault) :
    ∃ more, items = (leading items).map .ok ++ .error fault :: more := by
  induction items with
  | nil => cases h
  | cons item rest ih =>
    cases item with
    | error other =>
      obtain rfl := Option.some.inj h
      exact ⟨rest, rfl⟩
    | ok s =>
      obtain ⟨more, eq⟩ := ih h
      exact ⟨more, congrArg (.ok s :: ·) eq⟩

theorem exists_eq_leading (items : List Item) : ∃ more, items = (leading items).map .ok ++ more := by
  cases h : firstFault? items with
  | none => exact ⟨[], by simpa using eq_leading_of_none h⟩
  | some fault =>
    obtain ⟨more, eq⟩ := exists_eq_leading_of_some h
    exact ⟨_, eq⟩

/-! ## Clashes -/

def count (kind : Token.Kind) (ss : List Span) : ℕ := (ss.map Span.kind).count kind

/-- a span cannot stand behind the spans before it, and this is why -/
inductive Clash (before : List Span) (s : Span) : Fault → Prop where
  /-- the first token is an operator or a right parenthesis -/
  | start : before = [] → s.kind ∈ [.operator, .rightParen] → Clash before s (.badStart s.offset s.kind)
  /-- behind a left parenthesis or an operator stands an operator or a right parenthesis -/
  | operand {p : Span} : before.getLast? = some p → p.kind ∈ [.leftParen, .operator] →
      s.kind ∈ [.operator, .rightParen] → Clash before s (.operandExpected s.offset s.kind)
  /-- behind a number, a variable or a right parenthesis stands a number, a variable or a left parenthesis -/
  | operator {p : Span} : before.getLast? = some p → p.kind ∈ [.number, .var, .rightParen] →
      s.kind ∈ [.number, .var, .leftParen] → Clash before s (.operatorExpected s.offset s.kind)
  /-- a right parenthesis stands where every left one before it has been closed -/
  | unopened {p : Span} : before.getLast? = some p → p.kind ∈ [.number, .var, .rightParen] →
      s.kind = .rightParen → count .rightParen before = count .leftParen before → Clash before s (.unopened s.offset)

/-- the span at this index clashes with those before it -/
def Bad (ss : List Span) (i : ℕ) (fault : Fault) : Prop := ∃ s, ss[i]? = some s ∧ Clash (ss.take i) s fault

/-- what comes of spans of which none clashes, followed by a fault or by the end of the text -/
def verdict (ss : List Span) : Option Fault → Except Fault Formula
  | some fault => .error fault
  | none =>
    match ss.getLast? with
    | none => .error .empty
    | some last =>
      if last.kind ∈ [.leftParen, .operator] then .error (.badEnd last.offset last.kind)
      else if count .leftParen ss ≠ count .rightParen ss then
        .error (.unclosed (last.offset + last.text.utf8ByteSize) (count .leftParen ss - count .rightParen ss))
      else .ok ⟨ss.map Span.token⟩

theorem Token.Kind.mem_starts_iff (k : Kind) : k ∈ [.number, .var, .leftParen] ↔ k.startsOperand = true := by
  cases k <;> decide

theorem Token.Kind.mem_continues_iff (k : Kind) : k ∈ [.operator, .rightParen] ↔ k.startsOperand = false := by
  cases k <;> decide

theorem Token.Kind.mem_ends_iff (k : Kind) : k ∈ [.number, .var, .rightParen] ↔ k.endsOperand = true := by
  cases k <;> decide

theorem Token.Kind.mem_expects_iff (k : Kind) : k ∈ [.leftParen, .operator] ↔ k.endsOperand = false := by
  cases k <;> decide

theorem count_append_singleton (kind : Token.Kind) (ss : List Span) (s : Span) :
    count kind (ss ++ [s]) = count kind ss + if s.kind = kind then 1 else 0 := by
  simp [count, List.count_singleton]

/-! ## What a draft remembers -/

namespace Draft

/-- a draft that has taken these spans and refused none -/
structure After (d : Draft) (done : List Span) : Prop where
  free : d.refusal = none
  tokens : d.tokens.toList = done.map Span.token
  opened : d.opened = count .leftParen done
  closed : d.closed = count .rightParen done
  balance : d.closed ≤ d.opened
  previous : d.previous = done.getLast?.map Span.kind
  lastOffset : ∀ last ∈ done.getLast?, d.lastOffset = last.offset
  stop : ∀ last ∈ done.getLast?, d.stop = last.offset + last.text.utf8ByteSize

theorem after_start (log : Log) : (start log).After [] where
  free := rfl
  tokens := rfl
  opened := rfl
  closed := rfl
  balance := le_rfl
  previous := rfl
  lastOffset _ none := by cases none
  stop _ none := by cases none

/-- no room is left for a right parenthesis where as many are closed as are opened -/
theorem After.opened_le_closed_iff {d : Draft} {done : List Span} (h : d.After done) :
    d.opened ≤ d.closed ↔ count .rightParen done = count .leftParen done := by
  have balance := h.balance
  rw [← h.opened, ← h.closed]
  omega

theorem After.objection?_of_clash {d : Draft} {done : List Span} (h : d.After done) {s : Span} {fault : Fault}
    (clash : Clash done s fault) : d.objection? s = some fault := by
  unfold objection? misplaced?
  rw [h.previous]
  cases clash with
  | start first continues =>
    have starts := s.kind.mem_continues_iff.mp continues
    simp [first, starts]
  | operand last expects continues =>
    have ends := (Token.Kind.mem_expects_iff _).mp expects
    have starts := s.kind.mem_continues_iff.mp continues
    simp [last, ends, starts]
  | operator last ended begins =>
    have ends := (Token.Kind.mem_ends_iff _).mp ended
    have starts := s.kind.mem_starts_iff.mp begins
    simp [last, ends, starts]
  | unopened last ended right same =>
    have ends := (Token.Kind.mem_ends_iff _).mp ended
    have full := h.opened_le_closed_iff.mpr same
    simp [last, ends, right, full, Token.Kind.startsOperand]

theorem After.clash_of_objection? {d : Draft} {done : List Span} (h : d.After done) {s : Span} {fault : Fault}
    (objection : d.objection? s = some fault) : Clash done s fault := by
  have other : s.kind.startsOperand = true → s.kind ≠ .rightParen := by
    intro starts right
    simp [right, Token.Kind.startsOperand] at starts
  unfold objection? misplaced? at objection
  rw [h.previous] at objection
  cases last : done.getLast? with
  | none =>
    have first : done = [] := List.getLast?_eq_none_iff.mp last
    cases starts : s.kind.startsOperand with
    | true => simp [last, starts, other starts] at objection
    | false =>
      obtain rfl : Fault.badStart s.offset s.kind = fault := by simpa [last, starts] using objection
      exact .start first (s.kind.mem_continues_iff.mpr starts)
  | some p =>
    cases ends : p.kind.endsOperand with
    | false =>
      have expects := p.kind.mem_expects_iff.mpr ends
      cases starts : s.kind.startsOperand with
      | true => simp [last, ends, starts, other starts] at objection
      | false =>
        obtain rfl : Fault.operandExpected s.offset s.kind = fault := by simpa [last, ends, starts] using objection
        exact .operand last expects (s.kind.mem_continues_iff.mpr starts)
    | true =>
      have ended := p.kind.mem_ends_iff.mpr ends
      cases starts : s.kind.startsOperand with
      | true =>
        obtain rfl : Fault.operatorExpected s.offset s.kind = fault := by simpa [last, ends, starts] using objection
        exact .operator last ended (s.kind.mem_starts_iff.mpr starts)
      | false =>
        simp only [last, Option.map_some, ends, starts, Bool.false_eq_true, ite_true, ite_false,
          Option.ite_none_right_eq_some, Option.some.injEq] at objection
        obtain ⟨⟨right, full⟩, rfl⟩ := objection
        exact .unopened last ended right (h.opened_le_closed_iff.mp full)

/-- a draft objects exactly to the spans that clash -/
theorem After.objection?_eq_some_iff {d : Draft} {done : List Span} (h : d.After done) {s : Span} {fault : Fault} :
    d.objection? s = some fault ↔ Clash done s fault :=
  ⟨h.clash_of_objection?, h.objection?_of_clash⟩

theorem After.push {d : Draft} {done : List Span} {s : Span} (h : d.After done) (placed : d.objection? s = none) :
    (d.push s).After (done ++ [s]) where
  free := h.free
  tokens := by simp [h.tokens]
  opened := by
    rw [count_append_singleton, ← h.opened]
    by_cases left : s.kind = .leftParen <;> simp [Draft.push, left]
  closed := by
    rw [count_append_singleton, ← h.closed]
    by_cases right : s.kind = .rightParen <;> simp [Draft.push, right]
  balance := closed_push_le h.balance placed
  previous := by simp [Draft.push]
  lastOffset last mem := by
    obtain rfl : s = last := by simpa using mem
    rfl
  stop last mem := by
    obtain rfl : s = last := by simpa using mem
    rfl

/-! ## A run -/

theorem After.consume_append {d : Draft} {done spans : List Span} (h : d.After done)
    (sound : ∀ before s later, spans = before ++ s :: later → ∀ fault, ¬ Clash (done ++ before) s fault) :
    ∃ e : Draft, e.After (done ++ spans) ∧ ∀ rest : List Item, d.consume (spans.map .ok ++ rest) = e.consume rest := by
  induction spans generalizing d done with
  | nil => exact ⟨d, by simpa using h, fun _ => rfl⟩
  | cons s spans ih =>
    have placed : d.objection? s = none := by
      rw [Option.eq_none_iff_forall_ne_some]
      intro fault objection
      exact sound [] s spans rfl fault (by simpa using h.objection?_eq_some_iff.mp objection)
    obtain ⟨e, after, eq⟩ := ih (h.push placed) fun before t later split fault => by
      simpa using sound (s :: before) t later (congrArg (s :: ·) split) fault
    refine ⟨e, by simpa using after, fun rest => ?_⟩
    rw [List.map_cons, List.cons_append, consume_cons_of_no_objection h.free placed, eq]

theorem After.finish_of_clash {d : Draft} {done : List Span} (h : d.After done) {s : Span} {fault : Fault}
    (clash : Clash done s fault) (rest : List Item) : (d.consume (.ok s :: rest)).1.finish = .error fault :=
  finish_consume_of_refused (refusal_take_of_objection h.free (h.objection?_eq_some_iff.mpr clash)) rest

theorem After.finish_eq {d : Draft} {done : List Span} (h : d.After done) :
    d.finish.map Formula.mk = verdict done none := by
  unfold finish verdict
  rw [h.free, h.previous, h.tokens, h.opened, h.closed]
  cases last : done.getLast? with
  | none => rfl
  | some p =>
    rw [h.lastOffset p last, h.stop p last]
    simp only [Option.map_some, p.kind.mem_expects_iff, Bool.not_eq_true', ne_eq]
    split
    · rfl
    · split <;> rfl

end Draft

/-! ## Any text -/

/-- before the first bad index no span clashes -/
theorem not_clash_of_not_bad {ss : List Span} {n : ℕ} (sound : ∀ i < n, ∀ fault, ¬ Bad ss i fault)
    {before : List Span} {s : Span} {later : List Span} (split : ss.take n = before ++ s :: later) (fault : Fault) :
    ¬ Clash before s fault := by
  intro clash
  have within : before.length < (ss.take n).length := by simp [split]
  rw [List.length_take, lt_min_iff] at within
  refine sound before.length within.1 fault ⟨s, ?_, ?_⟩
  · rw [← List.getElem?_take_of_lt within.1, split]
    simp
  · have shorter : (ss.take n).take before.length = ss.take before.length := by
      rw [List.take_take, min_eq_left within.1.le]
    rw [← shorter, split, List.take_left]
    exact clash

/-- up to a bad index all spans are taken, if no earlier one is bad -/
theorem Draft.exists_after_take (log : Log) {ss : List Span} {n : ℕ} (sound : ∀ i < n, ∀ fault, ¬ Bad ss i fault) :
    ∃ e : Draft, e.After (ss.take n) ∧
      ∀ rest : List Item, (start log).consume ((ss.take n).map .ok ++ rest) = e.consume rest :=
  (after_start log).consume_append fun _ _ _ split => not_clash_of_not_bad sound split

theorem Draft.exists_after_of_not_bad (log : Log) {ss : List Span} (sound : ∀ i fault, ¬ Bad ss i fault) :
    ∃ e : Draft, e.After ss ∧ ∀ rest : List Item, (start log).consume (ss.map .ok ++ rest) = e.consume rest := by
  have taken := exists_after_take log (n := ss.length) fun i _ => sound i
  rwa [List.take_length] at taken

theorem Draft.count_le_of_not_bad {ss : List Span} (sound : ∀ i fault, ¬ Bad ss i fault) :
    count .rightParen ss ≤ count .leftParen ss := by
  obtain ⟨e, after, -⟩ := exists_after_of_not_bad (.blank .off) sound
  rw [← after.opened, ← after.closed]
  exact after.balance

theorem Draft.finish_of_bad (log : Log) {items : List Item} {i : ℕ} {fault : Fault} (bad : Bad (leading items) i fault)
    (first : ∀ j < i, ∀ other, ¬ Bad (leading items) j other) :
    ((start log).consume items).1.finish = .error fault := by
  obtain ⟨s, at_i, clash⟩ := bad
  obtain ⟨short, rfl⟩ := List.getElem?_eq_some_iff.mp at_i
  obtain ⟨more, eq⟩ := exists_eq_leading items
  obtain ⟨e, after, run⟩ := exists_after_take log first
  have split := List.take_append_drop i (leading items)
  rw [List.drop_eq_getElem_cons short] at split
  rw [eq]
  conv_lhs => rw [← split, List.map_append, List.append_assoc, run, List.map_cons, List.cons_append]
  exact after.finish_of_clash clash _

theorem Draft.finish_of_not_bad (log : Log) {items : List Item} (sound : ∀ i fault, ¬ Bad (leading items) i fault) :
    ((start log).consume items).1.finish.map Formula.mk = verdict (leading items) (firstFault? items) ∧
      count .rightParen (leading items) ≤ count .leftParen (leading items) := by
  obtain ⟨e, after, run⟩ := exists_after_of_not_bad log sound
  refine ⟨?_, count_le_of_not_bad sound⟩
  cases lexical : firstFault? items with
  | none =>
    have whole := run []
    rw [List.append_nil, ← eq_leading_of_none lexical] at whole
    rw [whole]
    exact after.finish_eq
  | some fault =>
    obtain ⟨more, eq⟩ := exists_eq_leading_of_some lexical
    have whole := run (.error fault :: more)
    rw [← eq] at whole
    rw [whole, finish_consume_of_refused (refusal_take_error after.free fault)]
    rfl

namespace Formula

/-- **The first violation is reported.** If a span is bad and none before it is, its fault is the outcome. If none is
bad, the outcome is the fault of the stream; without one, a text with no tokens is empty, a last token that ends no
operand is the fault, then parentheses left open are, as many as there are more left than right ones; and otherwise the
text is accepted. -/
theorem read_first_violation (log : Log) (raw : String) :
    let items := (Cursor.start raw).items
    (∀ i fault, Bad (leading items) i fault → (∀ j < i, ∀ other, ¬ Bad (leading items) j other) →
        (read log raw).1 = .error fault) ∧
      ((∀ i fault, ¬ Bad (leading items) i fault) →
        (read log raw).1 = verdict (leading items) (firstFault? items) ∧
          count .rightParen (leading items) ≤ count .leftParen (leading items)) := by
  intro items
  rw [read_eq]
  refine ⟨?_, ?_⟩
  · intro i fault bad first
    rw [Draft.finish_of_bad log bad first]
    rfl
  · exact Draft.finish_of_not_bad log

/-- a right parenthesis too many is reported before an unreadable character behind it -/
theorem read_first_violation_pair :
    (read (.blank .off) "a1) $").1 = .error (.unopened 2) ∧
      (read (.blank .off) "a1 $").1 = .error (.unreadable 3 '$') := by
  have closing : leading (Cursor.start "a1) $").items = [⟨.var "A1", "a1", 0⟩, ⟨.rightParen, ")", 2⟩] := by
    decide +kernel
  have single : leading (Cursor.start "a1 $").items = [⟨.var "A1", "a1", 0⟩] := by decide +kernel
  have fault : firstFault? (Cursor.start "a1 $").items = some (.unreadable 3 '$') := by decide +kernel
  have alone : ∀ other, ¬ Clash [] ⟨.var "A1", "a1", 0⟩ other := by
    intro other h
    rcases h with ⟨-, continues⟩ | ⟨last, -, -⟩ | ⟨last, -, -⟩ | ⟨last, -, -, -⟩
    · simp [Span.kind, Token.kind] at continues
    all_goals cases last
  refine ⟨?_, ?_⟩
  · refine (read_first_violation (.blank .off) "a1) $").1 1 (.unopened 2) ?_ ?_
    · rw [closing]
      exact ⟨_, rfl, .unopened rfl (by decide) rfl (by decide)⟩
    · rw [closing]
      intro j below other h
      rcases h with ⟨s, at_j, clash⟩
      obtain rfl : j = 0 := by omega
      obtain rfl := Option.some.inj at_j
      exact alone other clash
  · have placed : ∀ i other, ¬ Bad (leading (Cursor.start "a1 $").items) i other := by
      rw [single]
      intro i other h
      rcases h with ⟨s, at_i, clash⟩
      obtain ⟨rfl, rfl⟩ : i = 0 ∧ ⟨.var "A1", "a1", 0⟩ = s := by simpa [List.getElem?_singleton] using at_i
      exact alone other clash
    rw [((read_first_violation (.blank .off) "a1 $").2 placed).1, fault]
    rfl

end Formula

end CellFormula
