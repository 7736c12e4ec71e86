/-
The structure check of a stream of items, measured against the one-pass reading of its tokens.

What a draft remembers is enough to know whether an operand is due and how many parentheses are open; it takes a span
exactly where the token fits. So a draft finishes exactly the streams of spans whose tokens fit, and gives those tokens
back. A reader hands its items to the draft one by one, which comes to the same as reading them all beforehand.

- `Draft.fits_cons_iff`: a draft takes a span where its token fits.
- `Draft.finish_consume_eq_ok_iff`: a draft finishes the streams of spans whose tokens fit.
- `Draft.Simulation.finish_consume`: two drafts in step over two streams.
- `Reader.check_eq_consume`: checking a text is checking its items.
-/
import CellFormula.Formula
import CellFormula.Proofs.Structure

namespace CellFormula

namespace Draft

/-! ## One span -/

/-- whether the next span must start an operand -/
def due (d : Draft) : Bool := d.previous.all (!·.endsOperand)

/-- the number of parentheses left open -/
def depth (d : Draft) : ℕ := d.opened - d.closed

theorem misplaced?_eq_none_iff (d : Draft) (position : ℕ) (kind : Token.Kind) :
    misplaced? d.previous position kind = none ↔ kind.startsOperand = d.due := by
  unfold misplaced? due
  cases d.previous with
  | none => cases kind.startsOperand <;> simp
  | some before => cases before.endsOperand <;> cases kind.startsOperand <;> simp

theorem objection?_eq_none_iff {d : Draft} {s : Span} :
    d.objection? s = none ↔ s.kind.startsOperand = d.due ∧ (s.kind = .rightParen → d.closed < d.opened) := by
  unfold objection?
  rw [← misplaced?_eq_none_iff d s.offset s.kind]
  split
  · rename_i fault misplaced
    simp [misplaced]
  · rename_i placed
    simp only [placed, ite_eq_right_iff, reduceCtorEq, imp_false, true_and, not_and, Nat.not_le]

@[simp] theorem due_push (d : Draft) (s : Span) : (d.push s).due = !s.kind.endsOperand := by simp [push, due]

@[simp] theorem refusal_push (d : Draft) (s : Span) : (d.push s).refusal = d.refusal := rfl

@[simp] theorem toList_tokens_push (d : Draft) (s : Span) :
    (d.push s).tokens.toList = d.tokens.toList ++ [s.token] := by simp [push]

theorem closed_push_le {d : Draft} {s : Span} (balance : d.closed ≤ d.opened) (placed : d.objection? s = none) :
    (d.push s).closed ≤ (d.push s).opened := by
  have room := (objection?_eq_none_iff.mp placed).2
  unfold push
  cases kind : s.kind with
  | rightParen => simpa [kind] using room kind
  | leftParen => simpa [kind] using Nat.le_succ_of_le balance
  | number => simpa [kind] using balance
  | var => simpa [kind] using balance
  | operator => simpa [kind] using balance

theorem depth_push {d : Draft} {s : Span} (balance : d.closed ≤ d.opened) :
    (d.push s).depth = s.kind.depthBehind d.depth := by
  unfold depth push
  cases kind : s.kind with
  | rightParen => exact Nat.sub_add_eq d.opened d.closed 1
  | leftParen => exact Nat.sub_add_comm balance
  | number => rfl
  | var => rfl
  | operator => rfl

/-- a draft takes a span exactly where its token fits -/
theorem fits_cons_iff {d : Draft} {s : Span} {ts : List Token} (balance : d.closed ≤ d.opened) :
    Fits d.due d.depth (s.token :: ts) ↔ d.objection? s = none ∧ Fits (d.push s).due (d.push s).depth ts := by
  have kind_eq : s.token.kind = s.kind := rfl
  rw [objection?_eq_none_iff, due_push, depth_push balance, CellFormula.fits_cons_iff, kind_eq, depth,
    Nat.sub_pos_iff_lt, and_assoc]

/-! ## A stream of items -/

theorem finish_of_refused {d : Draft} {fault : Fault} (h : d.refusal = some fault) : d.finish = .error fault := by
  simp [finish, h]

theorem finish_eq_ok_iff {d : Draft} {ts : List Token} (free : d.refusal = none) (balance : d.closed ≤ d.opened) :
    d.finish = .ok ts ↔ Fits d.due d.depth [] ∧ ts = d.tokens.toList := by
  have even : d.opened - d.closed = 0 ↔ d.opened = d.closed := by omega
  rw [fits_nil_iff, due, depth, even]
  unfold finish
  rw [free]
  cases d.previous with
  | none => simp
  | some last =>
    cases ends : last.endsOperand with
    | false => simp [ends]
    | true =>
      by_cases eq : d.opened = d.closed
      · simpa [ends, eq] using eq_comm
      · simp [ends, eq]

theorem consume_cons_of_refused {d : Draft} {item : Item} {rest : List Item} (h : (d.take item).refusal ≠ none) :
    d.consume (item :: rest) = (d.take item, rest) := by
  rw [consume, if_pos (Option.isSome_iff_ne_none.mpr h)]

theorem finish_consume_of_refused {d : Draft} {item : Item} {fault : Fault} (h : (d.take item).refusal = some fault)
    (rest : List Item) : (d.consume (item :: rest)).1.finish = .error fault := by
  rw [consume_cons_of_refused (by simp [h]), finish_of_refused h]

theorem refusal_take_error {d : Draft} (free : d.refusal = none) (fault : Fault) :
    (d.take (.error fault)).refusal = some fault := by
  simp [take, refuse, free]

theorem refusal_take_of_objection {d : Draft} (free : d.refusal = none) {s : Span} {fault : Fault}
    (h : d.objection? s = some fault) : (d.take (.ok s)).refusal = some fault := by
  simp [take, accept_of_objection free h]

theorem consume_cons_of_free {d : Draft} {item : Item} {rest : List Item} (h : (d.take item).refusal = none) :
    d.consume (item :: rest) = (d.take item).consume rest := by
  rw [consume, if_neg (by simp [h])]

theorem consume_cons_of_no_objection {d : Draft} {s : Span} (free : d.refusal = none) (h : d.objection? s = none)
    (rest : List Item) : d.consume (.ok s :: rest) = (d.push s).consume rest := by
  have taken : d.take (.ok s) = d.push s := accept_of_no_objection free h
  rw [consume_cons_of_free (by rw [taken]; exact free), taken]

/-- a draft finishes exactly the streams of spans whose tokens fit, and gives back all its tokens -/
theorem finish_consume_eq_ok_iff {d : Draft} {items : List Item} {ts : List Token} (free : d.refusal = none)
    (balance : d.closed ≤ d.opened) :
    (d.consume items).1.finish = .ok ts ↔
      ∃ spans : List Span, items = spans.map .ok ∧ Fits d.due d.depth (spans.map Span.token) ∧
        ts = d.tokens.toList ++ spans.map Span.token := by
  induction items generalizing d with
  | nil =>
    rw [consume, finish_eq_ok_iff free balance]
    refine ⟨?_, ?_⟩
    · intro h
      rcases h with ⟨fits, rfl⟩
      exact ⟨[], rfl, fits, by simp⟩
    · intro h
      rcases h with ⟨spans, none, fits, rfl⟩
      obtain rfl := List.map_eq_nil_iff.mp none.symm
      exact ⟨fits, by simp⟩
  | cons item rest ih =>
    cases item with
    | error fault =>
      rw [finish_consume_of_refused (refusal_take_error free fault)]
      refine ⟨?_, ?_⟩
      · intro h
        cases h
      · intro h
        rcases h with ⟨spans, eq, -⟩
        cases spans <;> simp at eq
    | ok s =>
      cases placed : d.objection? s with
      | some fault =>
        rw [finish_consume_of_refused (refusal_take_of_objection free placed)]
        refine ⟨?_, ?_⟩
        · intro h
          cases h
        · intro h
          rcases h with ⟨spans, eq, fits, -⟩
          obtain ⟨first, more, rfl, same, -⟩ := List.map_eq_cons_iff.mp eq.symm
          obtain rfl : first = s := by simpa using same
          simp [((fits_cons_iff balance).mp fits).1] at placed
      | none =>
        rw [consume_cons_of_no_objection free placed, ih (d := d.push s) free (closed_push_le balance placed)]
        refine ⟨?_, ?_⟩
        · intro h
          rcases h with ⟨spans, rfl, fits, rfl⟩
          exact ⟨s :: spans, rfl, (fits_cons_iff balance).mpr ⟨placed, fits⟩, by simp⟩
        · intro h
          rcases h with ⟨spans, eq, fits, rfl⟩
          obtain ⟨first, more, rfl, same, rfl⟩ := List.map_eq_cons_iff.mp eq.symm
          obtain rfl : first = s := by simpa using same
          exact ⟨more, rfl, ((fits_cons_iff balance).mp fits).2, by simp⟩

/-! ## Two streams -/

/-- drafts that are related take and refuse the same spans and come to the same end, said for the first in other terms:
these functions give the terms for a span, a fault and the tokens at the end -/
structure Simulation (related : Draft → Draft → Prop) (span : Span → Span) (fault : Fault → Fault)
    (result : List Token → List Token) : Prop where
  free {d e : Draft} : related d e → d.refusal = none ∧ e.refusal = none
  objection {d e : Draft} (s : Span) : related d e → d.objection? (span s) = (e.objection? s).map fault
  push {d e : Draft} (s : Span) : related d e → related (d.push (span s)) (e.push s)
  finish {d e : Draft} : related d e → d.finish = (e.finish.map result).mapError fault

/-- a stream and the same in other terms bring such drafts to the same end -/
theorem Simulation.finish_consume {related : Draft → Draft → Prop} {span : Span → Span} {fault : Fault → Fault}
    {result : List Token → List Token} (sim : Simulation related span fault result) {turn : Item → Item}
    (spans : ∀ s, turn (.ok s) = .ok (span s)) {items : List Item}
    (faults : ∀ other, .error other ∈ items → turn (.error other) = .error (fault other)) {d e : Draft}
    (h : related d e) :
    (d.consume (items.map turn)).1.finish = ((e.consume items).1.finish.map result).mapError fault := by
  induction items generalizing d e with
  | nil => exact sim.finish h
  | cons item items ih =>
    obtain ⟨free, fresh⟩ := sim.free h
    rw [List.map_cons]
    cases item with
    | error other =>
      rw [faults other List.mem_cons_self, finish_consume_of_refused (refusal_take_error fresh other),
        finish_consume_of_refused (refusal_take_error free _)]
      rfl
    | ok s =>
      have objection := sim.objection s h
      rw [spans]
      cases placed : e.objection? s with
      | some other =>
        rw [placed] at objection
        rw [finish_consume_of_refused (refusal_take_of_objection fresh placed),
          finish_consume_of_refused (refusal_take_of_objection free objection)]
        rfl
      | none =>
        rw [placed] at objection
        rw [consume_cons_of_no_objection fresh placed, consume_cons_of_no_objection free objection]
        exact ih (fun other mem => faults other (List.mem_cons_of_mem _ mem)) (sim.push s h)

end Draft

/-! ## A text -/

theorem Cursor.items_of_none {c : Cursor} (h : c.next? = none) : c.items = [] := by
  rw [items]
  split
  · rfl
  · simp_all

theorem Cursor.items_of_some {c next : Cursor} {item : Item} (h : c.next? = some (item, next)) :
    c.items = item :: next.items := by
  rw [items]
  split
  · simp_all
  · rename_i other after found
    rw [h] at found
    obtain ⟨rfl, rfl⟩ := Prod.mk.inj (Option.some.inj found)
    rfl

/-- if every next item is that of another cursor in other terms, so are all items -/
theorem Cursor.items_map (place : Cursor → Cursor) {turn : Item → Item}
    (step : ∀ c, (place c).next? = c.next?.map fun (i, d) => (turn i, place d)) (c : Cursor) :
    (place c).items = c.items.map turn := by
  fun_induction Cursor.items c with
  | case1 c ended =>
    apply items_of_none
    rw [step, ended, Option.map_none]
  | case2 c item next found ih =>
    have moved : (place c).next? = some (turn item, place next) := by rw [step, found, Option.map_some]
    rw [items_of_some moved, ih, List.map_cons]

theorem Cursor.next?_of_items_nil {c : Cursor} (h : c.items = []) : c.next? = none := by
  cases next : c.next? with
  | none => rfl
  | some found =>
    rw [items_of_some next] at h
    cases h

theorem Cursor.exists_of_items_cons {c : Cursor} {i : Item} {items : List Item} (h : c.items = i :: items) :
    ∃ d, c.next? = some (i, d) ∧ d.items = items := by
  cases next : c.next? with
  | none =>
    rw [items_of_none next] at h
    cases h
  | some found =>
    obtain ⟨j, d⟩ := found
    rw [items_of_some next] at h
    obtain ⟨rfl, rfl⟩ := List.cons.inj h
    exact ⟨d, rfl, rfl⟩

/-- pulling the items one by one, up to a refusal, comes to the same as reading them all beforehand -/
theorem Reader.check_eq_consume (c : Cursor) {d : Draft} (free : d.refusal = none) :
    ((Reader.mk c false).check d).1 = (d.consume c.items).1 := by
  fun_induction Cursor.items c generalizing d with
  | case1 c ended =>
    rw [check]
    split
    · rfl
    · simp_all [pull]
  | case2 c item next found ih =>
    have pulled : (Reader.mk c false).pull = some (item, ⟨next, !item.isOk⟩) := by simp [pull, found]
    rw [check]
    split
    · simp_all
    · rename_i other reader eq
      rw [pulled] at eq
      obtain ⟨rfl, rfl⟩ := Prod.mk.inj (Option.some.inj eq)
      by_cases refused : (d.take item).refusal = none
      · -- a draft that is still free has not met a fault, so the stream goes on
        have sound : item.isOk = true := by
          cases item with
          | ok s => rfl
          | error fault => simp [Draft.take, Draft.refuse, free] at refused
        rw [Draft.consume_cons_of_free refused]
        simp only [refused, sound, Bool.not_true, Option.isSome_none, Bool.false_eq_true, ite_false]
        exact ih refused
      · rw [Draft.consume_cons_of_refused refused]
        simp [Option.isSome_iff_ne_none.mpr refused]

theorem Formula.read_eq (log : Log) (raw : String) :
    (read log raw).1 = (((Draft.start log).consume (Cursor.start raw).items).1.finish).map Formula.mk := by
  simp only [read, Reader.start]
  rw [Reader.check_eq_consume _ (show (Draft.start log).refusal = none from rfl)]

/-- a text is accepted exactly if it is cut into spans without a fault and their tokens are those of a tree -/
theorem Formula.read_eq_ok_iff {log : Log} {raw : String} {ts : List Token} :
    (read log raw).1 = .ok ⟨ts⟩ ↔
      ∃ spans : List Span, (Cursor.start raw).items = spans.map .ok ∧ Fits true 0 (spans.map Span.token) ∧
        ts = spans.map Span.token := by
  have mapped (result : Except Fault (List Token)) : result.map Formula.mk = .ok ⟨ts⟩ ↔ result = .ok ts := by
    cases result <;> simp [Except.map]
  rw [read_eq, mapped, Draft.finish_consume_eq_ok_iff rfl le_rfl]
  rfl

theorem Formula.read_eq_error_of_finish {log : Log} {raw : String} {fault : Fault}
    (h : ((Draft.start log).consume (Cursor.start raw).items).1.finish = .error fault) :
    (read log raw).1 = .error fault := by
  rw [read_eq, h]
  rfl

theorem Formula.read_eq_ok_of_tokens {log : Log} {raw : String} {f : Formula}
    (h : (read log raw).1.toOption.map tokens = some f.tokens) : (read log raw).1 = .ok f := by
  cases outcome : (read log raw).1 with
  | error fault => simp [outcome, Except.toOption] at h
  | ok g =>
    have tokens_eq : g.tokens = f.tokens := by simpa [outcome, Except.toOption] using h
    exact congrArg (fun ts => Except.ok (Formula.mk ts)) tokens_eq

end CellFormula
