/-
A formula with an operator and more text behind it.

What comes of the whole is known from what comes of the text behind the operator alone. The formula in front ends an
operand with every parenthesis closed, so the operator is accepted, and from there on a draft goes on as a fresh one does
from the start: it accepts the same spans and refuses the same ones, at offsets as far behind as the text in front is long.
Only where the fresh draft has nothing to look back on does it find another fault: a first token that starts no operand is
one that no operand stands before, and where there is no token at all, the operator is the last one.

- `Draft.Follows`: what ties the two drafts together.
- `Draft.Follows.objection?_shift`, `Draft.Follows.push`: one span.
- `Draft.Follows.finish_consume`: a whole stream.
- `Formula.read_operator_eq`: the outcome for the whole text, given by that for the text behind the operator.
- `Formula.read_operator`: the same case by case, with the canonical text and the names; and parentheses.
-/
import CellFormula.Proofs.Completion
import CellFormula.Proofs.Locality
import CellFormula.Proofs.Sentence

namespace CellFormula

open Text

/-- what a fault of the text behind the operator is in the whole text, where the formula in front has so many bytes -/
def Fault.behind (n : ℕ) : Fault → Fault
  | .empty => .badEnd n .operator
  | .badStart position kind => .operandExpected (position + (n + 1)) kind
  | fault => fault.shift (n + 1)

namespace Draft

/-! ## Two drafts -/

/-- the first draft has taken these tokens, with so many parentheses opened and closed and an operator at the end at the
given offset, and then the same spans as the second, as far behind as the text in front is long -/
structure Follows (front : List Token) (pairs n : ℕ) (d e : Draft) : Prop where
  free : d.refusal = none
  fresh : e.refusal = none
  tokens : d.tokens.toList = front ++ e.tokens.toList
  opened : d.opened = pairs + e.opened
  closed : d.closed = pairs + e.closed
  previous : d.previous = some (e.previous.getD .operator)
  lastOffset : d.lastOffset = if e.previous = none then n else e.lastOffset + (n + 1)
  stop : e.previous ≠ none → d.stop = e.stop + (n + 1)

theorem Follows.misplaced?_shift {front : List Token} {pairs n : ℕ} {d e : Draft} (h : Follows front pairs n d e)
    (position : ℕ) (kind : Token.Kind) :
    misplaced? d.previous (position + (n + 1)) kind = (misplaced? e.previous position kind).map (Fault.behind n) := by
  rw [h.previous]
  unfold misplaced?
  cases e.previous with
  | none => cases kind.startsOperand <;> simp [Token.Kind.endsOperand, Fault.behind]
  | some before => cases ends : before.endsOperand <;> cases kind.startsOperand <;> simp [ends, Fault.behind, Fault.shift]

theorem Follows.objection?_shift {front : List Token} {pairs n : ℕ} {d e : Draft} (h : Follows front pairs n d e)
    (s : Span) : d.objection? (s.shift (n + 1)) = (e.objection? s).map (Fault.behind n) := by
  unfold objection?
  rw [Span.kind_shift, show (s.shift (n + 1)).offset = s.offset + (n + 1) from rfl, h.misplaced?_shift]
  cases misplaced? e.previous s.offset s.kind with
  | some fault => rfl
  | none =>
    have room : d.opened ≤ d.closed ↔ e.opened ≤ e.closed := by
      rw [h.opened, h.closed]
      omega
    simp only [room, Option.map_none]
    split
    · rfl
    · rfl

theorem Follows.push {front : List Token} {pairs n : ℕ} {d e : Draft} (h : Follows front pairs n d e) (s : Span) :
    Follows front pairs n (d.push (s.shift (n + 1))) (e.push s) where
  free := h.free
  fresh := h.fresh
  tokens := by simp [h.tokens, Span.shift]
  opened := by
    simp only [Draft.push, Span.kind_shift, h.opened]
    split <;> omega
  closed := by
    simp only [Draft.push, Span.kind_shift, h.closed]
    split <;> omega
  previous := by simp [Draft.push]
  lastOffset := by simp [Draft.push, Span.shift]
  stop _ := by simp [Draft.push]

theorem Follows.finish_eq {front : List Token} {pairs n : ℕ} {d e : Draft} (h : Follows front pairs n d e) :
    d.finish = (e.finish.map (front ++ ·)).mapError (Fault.behind n) := by
  unfold finish
  rw [h.free, h.fresh, h.previous, h.lastOffset, h.tokens, h.opened, h.closed]
  cases last : e.previous with
  | none => simp [Token.Kind.endsOperand, Except.map, Except.mapError, Fault.behind]
  | some p =>
    rw [h.stop (by simp [last])]
    cases ends : p.endsOperand with
    | false => simp [ends, Except.map, Except.mapError, Fault.behind, Fault.shift]
    | true =>
      by_cases even : e.opened = e.closed
      · simp [ends, even, Except.map, Except.mapError]
      · simp [ends, even, Except.map, Except.mapError, Fault.behind, Fault.shift, Nat.add_sub_add_left]

theorem simulation_behind (front : List Token) (pairs n : ℕ) :
    Simulation (Follows front pairs n) (Span.shift (n + 1)) (Fault.behind n) (front ++ ·) where
  free h := ⟨h.free, h.fresh⟩
  objection s h := h.objection?_shift s
  push s h := h.push s
  finish h := h.finish_eq

theorem Follows.finish_consume {front : List Token} {pairs n : ℕ} {d e : Draft} (h : Follows front pairs n d e)
    {items : List Item} (lexical : ∀ fault, .error fault ∈ items → ∃ position found, fault = .unreadable position found) :
    (d.consume (items.map (Item.shift (n + 1)))).1.finish =
      ((e.consume items).1.finish.map (front ++ ·)).mapError (Fault.behind n) := by
  apply (simulation_behind front pairs n).finish_consume (fun s => rfl) _ h
  intro fault mem
  obtain ⟨position, found, rfl⟩ := lexical fault mem
  rfl

/-- behind the spans of a formula no operand is due, and every parenthesis is closed -/
theorem feed_of_fits (log : Log) {spans : List Span} (fits : Fits true 0 (spans.map Span.token)) :
    ((start log).feed spans).After spans ∧ ((start log).feed spans).due = false ∧
      ((start log).feed spans).opened = ((start log).feed spans).closed := by
  have completes : (start log).Completes spans := (completes_iff_fits rfl le_rfl).mpr fits
  have free : ((start log).feed spans).refusal = none := (takes_iff rfl).mp completes.1
  have after := (after_start log).feed free
  rw [← List.append_nil (spans.map Span.token)] at fits
  obtain ⟨ready, level⟩ := fits_nil_iff.mp ((fits_append_iff (d := start log) free le_rfl).mp fits)
  exact ⟨after, ready, le_antisymm (Nat.sub_eq_zero_iff_le.mp level) after.balance⟩

/-- a draft that has taken the spans of a formula takes an operator, and then stands to them as a fresh draft does to
nothing -/
theorem After.follows {d : Draft} {spans : List Span} (h : d.After spans) (ready : d.due = false)
    (even : d.opened = d.closed) {op : Operator} {s : Span} (token : s.token = .operator op) (log : Log) :
    Follows (spans.map Span.token ++ [.operator op]) d.closed s.offset (d.take (.ok s)) (start log) := by
  have kind : s.kind = .operator := by rw [Span.kind, token, Token.kind]
  have placed : d.objection? s = none := by
    rw [objection?_eq_none_iff, kind, ready]
    exact ⟨rfl, by simp⟩
  rw [show d.take (.ok s) = d.push s from accept_of_no_objection h.free placed]
  exact {
    free := h.free
    fresh := rfl
    tokens := by simp [h.tokens, token, start]
    opened := by simp [Draft.push, kind, even, start]
    closed := by simp [Draft.push, kind, start]
    previous := by simp [Draft.push, kind, start]
    lastOffset := by simp [Draft.push, start]
    stop := by simp [start] }

end Draft

/-! ## Two texts -/

theorem Cursor.items_operator (offset : ℕ) (op : Operator) (cs : List Char) :
    (Cursor.mk offset (op.char :: cs)).items =
      .ok ⟨.operator op, String.ofList [op.char], offset⟩ :: (Cursor.mk (offset + 1) cs).items := by
  refine items_of_some ?_
  rw [← List.nil_append (op.char :: cs), next?_of_append offset cs blank_nil (by cases op <;> decide)]
  simp only [Piece.read, Piece.symbol?_char, item]
  cases op <;> rfl

namespace Formula

/-- the items are the spans of the formula, the operator, and the items of the other text, shifted -/
theorem exists_items_operator {ts : List Token} {raw : String} (laid : Laid ts raw.toList) (fits : Fits true 0 ts)
    (op : Operator) (more : String) :
    ∃ (spans : List Span) (s : Span), spans.map Span.token = ts ∧ s.token = .operator op ∧
      s.offset = raw.utf8ByteSize ∧
      (Cursor.start (raw ++ String.singleton op.char ++ more)).items =
        spans.map .ok ++ .ok s :: (Cursor.start more).items.map (Item.shift (raw.utf8ByteSize + 1)) := by
  have apart : Apart (op.char :: more.toList) := Piece.apart_cons_of_symbol? _ (Piece.symbol?_char op)
  obtain ⟨spans, items, tokens⟩ := Cursor.items_append_of_laid laid fits apart 0
  have whole : Cursor.start (raw ++ String.singleton op.char ++ more) = ⟨0, raw.toList ++ op.char :: more.toList⟩ := by
    simp [Cursor.start]
  have size : byteSize raw.toList = raw.utf8ByteSize := byteSize_toList raw
  have shifted := Cursor.items_shift (Cursor.start more) (raw.utf8ByteSize + 1)
  rw [show (Cursor.start more).offset = 0 from rfl, Nat.zero_add] at shifted
  refine ⟨spans, ⟨.operator op, String.ofList [op.char], raw.utf8ByteSize⟩, tokens, rfl, rfl, ?_⟩
  rw [whole, items, Cursor.items_operator, Nat.zero_add, size, ← shifted]
  rfl

/-- what comes of a formula, an operator and another text -/
theorem read_operator_eq {log : Log} {raw : String} {f : Formula} (h : (read log raw).1 = .ok f) (log' : Log)
    (op : Operator) (more : String) :
    (read log' (raw ++ String.singleton op.char ++ more)).1 =
      ((read log' more).1.map fun g => ⟨f.tokens ++ .operator op :: g.tokens⟩).mapError
        (Fault.behind raw.utf8ByteSize) := by
  obtain ⟨laid, fits⟩ := read_eq_ok_iff_laid.mp h
  obtain ⟨spans, s, tokens, operator, offset, items⟩ := exists_items_operator laid fits op more
  rw [← tokens] at fits
  obtain ⟨after, ready, even⟩ := Draft.feed_of_fits log' fits
  have follows := after.follows ready even operator log'
  have lexical : ∀ fault, .error fault ∈ (Cursor.start more).items →
      ∃ position found, fault = .unreadable position found := fun fault mem => Cursor.eq_unreadable_of_mem mem
  rw [read_eq, read_eq, items, Draft.consume_append_of_free after.free, Draft.consume_cons_of_free follows.free,
    ← offset, follows.finish_consume lexical, tokens]
  cases ((Draft.start log').consume (Cursor.start more).items).1.finish with
  | error fault => rfl
  | ok ts =>
    simp only [Except.map, Except.mapError]
    rw [List.append_assoc]
    rfl

theorem canonical_append (ts us : List Token) : canonical ⟨ts ++ us⟩ = canonical ⟨ts⟩ ++ canonical ⟨us⟩ := by
  rw [canonical, List.flatMap_append, String.ofList_append]
  rfl

theorem mem_names_iff {f : Formula} {name : String} : name ∈ f.names ↔ .var name ∈ f.tokens := by
  rw [names, Std.TreeSet.mem_ofList, List.contains_iff_mem, List.mem_filterMap]
  refine ⟨?_, ?_⟩
  · intro h
    rcases h with ⟨t, mem, named⟩
    cases t with
    | var other =>
      obtain rfl := Option.some.inj named
      exact mem
    | number value => cases named
    | operator op => cases named
    | leftParen => cases named
    | rightParen => cases named
  · intro mem
    exact ⟨_, mem, rfl⟩

theorem read_parentheses {log : Log} {raw : String} {f : Formula} (h : (read log raw).1 = .ok f) (log' : Log) :
    (read log' ("(" ++ raw ++ ")")).1 = .ok ⟨[.leftParen] ++ f.tokens ++ [.rightParen]⟩ := by
  obtain ⟨laid, fits⟩ := read_eq_ok_iff_laid.mp h
  obtain ⟨t, tokens⟩ := fits_iff_tree.mp fits
  rw [read_eq_ok_iff_laid, String.toList_append, String.toList_append]
  refine ⟨?_, ?_⟩
  · exact laid.group
  · exact fits_iff_tree.mpr ⟨.formula (.group t) .done, by simp [Tree.tokens, tokens]⟩

/-- **Composition.** Behind a formula and an operator a text makes a formula exactly if it is one. The tokens, the
canonical text and the names of the whole are then those of the parts. If the text is refused, the whole is refused for
the same fault, so many bytes later; but where the text alone starts wrongly, the whole has a token behind an operator
that cannot stand there, and where the text alone has no tokens, the whole ends with the operator. A formula in
parentheses is a formula too. -/
theorem read_operator {log : Log} {raw : String} {f : Formula} (h : (read log raw).1 = .ok f) (log' : Log)
    (op : Operator) (more : String) :
    let whole := raw ++ String.singleton op.char ++ more
    ((∃ k, (read log' whole).1 = .ok k) ↔ ∃ g, (read log' more).1 = .ok g) ∧
      (∀ g, (read log' more).1 = .ok g → ∃ k, (read log' whole).1 = .ok k ∧
        k.tokens = f.tokens ++ [.operator op] ++ g.tokens ∧
        k.canonical = f.canonical ++ String.singleton op.char ++ g.canonical ∧
        ∀ name, name ∈ k.names ↔ name ∈ f.names ∨ name ∈ g.names) ∧
      (∀ fault, (read log' more).1 = .error fault →
        (read log' whole).1 = .error (fault.behind raw.utf8ByteSize)) ∧
      ∃ k, (read log' ("(" ++ raw ++ ")")).1 = .ok k ∧ k.tokens = [.leftParen] ++ f.tokens ++ [.rightParen] := by
  intro whole
  have outcome := read_operator_eq h log' op more
  refine ⟨?_, ?_, ?_, _, read_parentheses h log', rfl⟩
  · rw [outcome]
    cases (read log' more).1 with
    | error fault => simp [Except.map, Except.mapError]
    | ok g => simp [Except.map, Except.mapError]
  · intro g accepted
    rw [accepted] at outcome
    refine ⟨_, outcome, by simp, ?_, ?_⟩
    · rw [canonical_append, ← List.singleton_append, canonical_append, ← String.append_assoc]
      rfl
    · intro name
      simp only [mem_names_iff]
      simp
  · intro fault refused
    rw [refused] at outcome
    exact outcome

/-- a product with a second factor, with one that starts wrongly, and with none -/
theorem read_operator_product :
    let f : Formula := ⟨[.var "A1"]⟩
    (read (.blank .off) "a1").1 = .ok f ∧
      (∃ k, (read (.blank .off) ("a1" ++ String.singleton '*' ++ "(b2)")).1 = .ok k ∧
        k.tokens = [.var "A1", .operator .times, .leftParen, .var "B2", .rightParen] ∧ k.canonical = "A1*(B2)") ∧
      (read (.blank .off) ("a1" ++ String.singleton '*' ++ ") $")).1 = .error (.operandExpected 3 .rightParen) ∧
      (read (.blank .off) ("a1" ++ String.singleton '*' ++ " ")).1 = .error (.badEnd 2 .operator) ∧
      (read (.blank .off) ("a1" ++ String.singleton '*' ++ "1 $")).1 = .error (.unreadable 5 '$') := by
  intro f
  have product : (read (.blank .off) "a1").1 = .ok f := read_eq_ok_of_tokens (by decide +kernel)
  have factor : (read (.blank .off) "(b2)").1 = .ok ⟨[.leftParen, .var "B2", .rightParen]⟩ :=
    read_eq_ok_of_tokens (by decide +kernel)
  have closing : (read (.blank .off) ") $").1 = .error (.badStart 0 .rightParen) :=
    read_eq_error_of_finish (by decide +kernel)
  have nothing : (read (.blank .off) " ").1 = .error .empty := read_eq_error_of_finish (by decide +kernel)
  have dollar : (read (.blank .off) "1 $").1 = .error (.unreadable 2 '$') :=
    read_eq_error_of_finish (by decide +kernel)
  obtain ⟨k, accepted, tokens, canonical_eq, -⟩ := (read_operator product (.blank .off) .times "(b2)").2.1 _ factor
  refine ⟨product, ⟨k, accepted, tokens, canonical_eq.trans (by decide +kernel)⟩, ?_, ?_, ?_⟩
  · exact (read_operator product (.blank .off) .times ") $").2.2.1 _ closing
  · exact (read_operator product (.blank .off) .times " ").2.2.1 _ nothing
  · exact (read_operator product (.blank .off) .times "1 $").2.2.1 _ dollar

end Formula

end CellFormula
