/-
The stream of a reader, and how far a check goes through it.

A stream gives the items of the text up to the first fault, and the fault with them. Gathered, it is the list of its spans,
or that fault. A check goes through a stream item by item, as long as it gets spans that can stand behind those before
them. The first item that is refused ends it: its fault is the outcome, and the items behind it are not pulled. Only where
nothing is refused the end of the stream is looked at. So a text that cannot be gathered is refused by a check too, for the
character that cannot be read or for a token in front of it, but never for the way in which it ends.

- `Reader.stream_eq`: the stream is made of the items up to the first fault.
- `Reader.gather_eq_ok_iff`, `Reader.gather_eq_error_iff`: what gathering tells of the items.
- `Draft.consume_stream`: a check needs no more than the stream.
- `Draft.finish_check_of_firstFault?`: what a check makes of a text that cannot be gathered.
- `Draft.consume_first_refusal`: how far any list of items is read, and the check of a text.
-/
import CellFormula.Proofs.Continuation
import CellFormula.Proofs.Equality
import CellFormula.Proofs.Requests

namespace CellFormula

/-! ## Up to the first fault -/

def upToFault : List Item → List Item
  | [] => []
  | .ok s :: rest => .ok s :: upToFault rest
  | .error fault :: _ => [.error fault]

theorem upToFault_append (spans : List Span) (items : List Item) :
    upToFault (spans.map .ok ++ items) = spans.map .ok ++ upToFault items := by
  induction spans with
  | nil => rfl
  | cons s spans ih => exact congrArg (.ok s :: ·) ih

@[simp] theorem firstFault?_map_ok (spans : List Span) : firstFault? (spans.map .ok) = none := by
  induction spans with
  | nil => rfl
  | cons s spans ih => exact ih

theorem firstFault?_append (items more : List Item) :
    firstFault? (items ++ more) = (firstFault? items).or (firstFault? more) := by
  induction items with
  | nil => rfl
  | cons item items ih =>
    cases item with
    | ok s => exact ih
    | error fault => rfl

namespace Reader

/-- the items that the stream still gives -/
def stream (r : Reader) : List Item :=
  match _taken : r.pull with
  | none => []
  | some (i, q) => i :: q.stream
termination_by r.cursor.rest.length
decreasing_by exact length_rest_lt_of_pull (by assumption)

theorem stream_of_pull_eq_none {r : Reader} (h : r.pull = none) : r.stream = [] := by
  rw [stream]
  split
  · rfl
  · simp_all

theorem stream_of_pull {r q : Reader} {i : Item} (h : r.pull = some (i, q)) : r.stream = i :: q.stream := by
  rw [stream]
  split
  · simp_all
  · rename_i other after found
    rw [h] at found
    obtain ⟨rfl, rfl⟩ := Prod.mk.inj (Option.some.inj found)
    rfl

theorem stream_eq (c : Cursor) : (Reader.mk c false).stream = upToFault c.items := by
  fun_induction Cursor.items c with
  | case1 c ended => exact stream_of_pull_eq_none (by simp [pull, ended])
  | case2 c item next found ih =>
    have pulled : (Reader.mk c false).pull = some (item, ⟨next, !item.isOk⟩) := by simp [pull, found]
    rw [stream_of_pull pulled]
    cases item with
    | ok s => exact congrArg (.ok s :: ·) ih
    | error fault => rw [stream_of_pull_eq_none (pull_of_halted rfl), upToFault]

/-! ## Gathering -/

theorem gather_eq_ok_iff {c : Cursor} {spans : List Span} :
    (Reader.mk c false).gather.1 = .ok spans ↔ c.items = spans.map .ok := by
  refine ⟨?_, gather_eq_ok⟩
  intro h
  obtain ⟨pulled, -, served, -⟩ := exists_gather (r := ⟨c, false⟩) rfl
  rw [h] at served
  cases served with
  | spans _ all_spans => exact all_spans

theorem gather_eq_error_iff {c : Cursor} {fault : Fault} :
    (Reader.mk c false).gather.1 = .error fault ↔ firstFault? c.items = some fault := by
  obtain ⟨pulled, -, served, -⟩ := exists_gather (r := ⟨c, false⟩) rfl
  cases gathered : (Reader.mk c false).gather.1 with
  | ok spans => simp [gather_eq_ok_iff.mp gathered]
  | error other =>
    rw [gathered] at served
    cases served with
    | fault spans split =>
      rw [show c.items = _ from split, firstFault?_append, firstFault?_map_ok, Option.none_or, firstFault?,
        Option.some.injEq, Except.error.injEq]

end Reader

/-! ## How far a check reads -/

namespace Draft

/-- an item that the draft does not take, and why: a fault as it is, and a span that is not accepted -/
inductive Refuses (d : Draft) : Item → Fault → Prop where
  | fault (fault : Fault) : Refuses d (.error fault) fault
  | span {s : Span} {fault : Fault} : (d.accept s).refusal = some fault → Refuses d (.ok s) fault

theorem refuses_of_take {d : Draft} (free : d.refusal = none) {item : Item} {fault : Fault}
    (h : (d.take item).refusal = some fault) : d.Refuses item fault := by
  cases item with
  | ok s => exact .span h
  | error other =>
    rw [refusal_take_error free, Option.some.injEq] at h
    exact h ▸ .fault other

/-- what stands behind the first fault of a stream has no part in its check -/
theorem consume_stream {d : Draft} (free : d.refusal = none) (items : List Item) :
    (d.consume (upToFault items)).1 = (d.consume items).1 := by
  induction items generalizing d with
  | nil => rfl
  | cons item items ih =>
    cases item with
    | ok s =>
      rw [upToFault]
      cases taken : (d.take (.ok s)).refusal with
      | none => rw [consume_cons_of_free taken, consume_cons_of_free taken, ih taken]
      | some fault => rw [consume_cons_of_refused (by simp [taken]), consume_cons_of_refused (by simp [taken])]
    | error fault =>
      have refused : (d.take (.error fault)).refusal ≠ none := by simp [refusal_take_error free]
      rw [upToFault, consume_cons_of_refused refused, consume_cons_of_refused refused]

/-- the check of a text that cannot be gathered ends with the fault of the stream, or with a token in front of it -/
theorem finish_check_of_firstFault? (log : Log) {c : Cursor} {fault : Fault} (h : firstFault? c.items = some fault) :
    ∃ other, ((start log).consume c.items).1.finish = .error other ∧
      (other = fault ∨ other.Misplaced ∧ other.position < fault.position) := by
  rcases consume_cases (show (start log).refusal = none from rfl) c.items with
    ⟨spans, all_spans, -, -⟩ | ⟨spans, item, rest, other, split, free, refused, checked⟩
  · simp [all_spans] at h
  · rw [checked]
    refine ⟨other, finish_of_refused refused, ?_⟩
    rw [split, firstFault?_append, firstFault?_map_ok, Option.none_or] at h
    cases item with
    | error lexical =>
      rw [refusal_take_error free, Option.some.injEq] at refused
      exact .inl (refused.symm.trans (Option.some.inj h))
    | ok s =>
      have after : ((start log).feed spans).After spans := (after_start log).feed free
      have clash : Clash spans s other := after.objection?_eq_some_iff.mp ((refusal_accept free s).symm.trans refused)
      have behind : c.items = (spans.map .ok ++ [.ok s]) ++ rest := by rw [split, List.append_assoc, List.singleton_append]
      refine .inr ⟨clash.misplaced, ?_⟩
      rw [clash.position_eq]
      exact Cursor.position_lt behind (List.mem_append_right _ List.mem_cons_self) (mem_of_firstFault? h)

/-- **The first refusal ends a check.** Of any items either all are spans, each of them accepted, and then all are pulled
and the outcome is that of the end; or there is a first one that is refused behind the spans before it, its fault is the
outcome, and the items behind it are left. The check of a text is that of its stream. If the stream can be gathered, it is
the check of the spans gathered; otherwise it ends with the fault of the stream, or with a token that is refused where it
stands, in front of the fault. -/
theorem consume_first_refusal (log : Log) :
    (∀ items : List Item,
      (∃ spans : List Span, items = spans.map .ok ∧ (start log).Takes spans ∧
          ((start log).consume items).1.finish = ((start log).feed spans).finish ∧
          ((start log).consume items).2 = []) ∨
        ∃ (spans : List Span) (item : Item) (rest : List Item) (fault : Fault), items = spans.map .ok ++ item :: rest ∧
          (start log).Takes spans ∧ ((start log).feed spans).Refuses item fault ∧
          ((start log).consume items).1.finish = .error fault ∧ ((start log).consume items).2 = rest) ∧
      ∀ raw : String,
        let checked := ((Reader.start raw).check (start log)).1
        checked = ((start log).consume (Reader.start raw).stream).1 ∧
          (∀ spans, tokenize raw = .ok spans → checked.finish = ((start log).consume (spans.map .ok)).1.finish) ∧
          ∀ fault, tokenize raw = .error fault →
            (∃ position found, fault = .unreadable position found) ∧
              ∃ other, checked.finish = .error other ∧
                (other = fault ∨ other.cause ∈ [.badStart, .operandExpected, .operatorExpected, .unopened] ∧
                  other.position < fault.position) ∧
                other.cause ∉ [.empty, .badEnd, .unclosed] := by
  have fresh : (start log).refusal = none := rfl
  refine ⟨?_, ?_⟩
  · intro items
    rcases consume_cases fresh items with
      ⟨spans, all_spans, free, checked⟩ | ⟨spans, item, rest, fault, split, free, refused, checked⟩
    · exact .inl ⟨spans, all_spans, (takes_iff fresh).mpr free, by rw [checked], by rw [checked]⟩
    · exact .inr ⟨spans, item, rest, fault, split, (takes_iff fresh).mpr free, refuses_of_take free refused,
        by rw [checked, finish_of_refused refused], by rw [checked]⟩
  · intro raw checked
    have same : checked = ((start log).consume (Cursor.start raw).items).1 := Reader.check_eq_consume _ fresh
    refine ⟨?_, ?_, ?_⟩
    · rw [same, Reader.start, Reader.stream_eq, consume_stream fresh]
    · intro spans gathered
      rw [same, Reader.gather_eq_ok_iff.mp gathered]
    · intro fault gathered
      have first := Reader.gather_eq_error_iff.mp gathered
      obtain ⟨position, found, rfl⟩ := Cursor.eq_unreadable_of_mem (mem_of_firstFault? first)
      obtain ⟨other, refused, cases⟩ := finish_check_of_firstFault? log first
      refine ⟨⟨position, found, rfl⟩, other, by rw [same, refused], cases, ?_⟩
      rcases cases with rfl | ⟨misplaced, -⟩
      · simp [Fault.cause]
      · cases other <;> simp [Fault.Misplaced, Fault.cause] at misplaced ⊢

/-- a product, and a second number in front of a currency sign -/
theorem consume_first_refusal_number :
    let spans : List Span := [⟨.var "A1", "a1", 0⟩, ⟨.operator .times, "*", 3⟩, ⟨.var "B2", "B2", 4⟩]
    (tokenize "a1 *B2" = .ok spans ∧
        ((Reader.start "a1 *B2").check (start (.blank .off))).1.finish =
          ((start (.blank .off)).consume (spans.map .ok)).1.finish) ∧
      tokenize "1 2 $" = .error (.unreadable 4 '$') ∧
      ∃ other, ((Reader.start "1 2 $").check (start (.blank .off))).1.finish = .error other ∧
        (other = .unreadable 4 '$' ∨ other.cause ∈ [.badStart, .operandExpected, .operatorExpected, .unopened] ∧
          other.position < 4) := by
  intro spans
  have product : tokenize "a1 *B2" = .ok spans := by decide +kernel
  have dollar : tokenize "1 2 $" = .error (.unreadable 4 '$') := by decide +kernel
  obtain ⟨-, texts⟩ := consume_first_refusal (.blank .off)
  obtain ⟨-, gathered, -⟩ := texts "a1 *B2"
  obtain ⟨-, -, faulty⟩ := texts "1 2 $"
  obtain ⟨-, other, refused, place, -⟩ := faulty _ dollar
  exact ⟨⟨product, gathered _ product⟩, dollar, other, refused, place⟩

end Draft

end CellFormula
