/-
Spans fed to a draft one by one.

A draft may be fed after a refusal, but nothing comes of it: the last state tells whether every span was accepted. A
fresh draft accepts all the spans of a list and finishes exactly if their tokens are the leaves of a derivation tree.
There is only one such tree, and what the draft hands back are the tokens it was fed.

- `Draft.takes_iff`: all spans are accepted exactly if there is no refusal in the end.
- `Draft.finish_feed_eq_ok_iff`: a draft fed spans finishes if their tokens fit, with all its tokens.
- `Draft.After.feed_induction`: what holds behind spans that are all accepted.
- `Draft.After.feed`: what a draft remembers of them.
- `Draft.completes_iff_tree`: the lists that a fresh draft accepts and finishes.
-/
import CellFormula.Proofs.FirstFault

namespace CellFormula

namespace Draft

/-! ## Feeding -/

/-- the draft after these spans; those behind a refusal are fed too -/
def feed (d : Draft) (ss : List Span) : Draft := ss.foldl accept d

/-- each of these spans is accepted when its turn comes -/
def Takes (d : Draft) (ss : List Span) : Prop :=
  ∀ before s later, ss = before ++ s :: later → ((d.feed before).accept s).refusal = none

/-- each of these spans is accepted, and the draft then finishes -/
def Completes (d : Draft) (ss : List Span) : Prop := d.Takes ss ∧ ∃ ts, (d.feed ss).finish = .ok ts

@[simp] theorem feed_nil (d : Draft) : d.feed [] = d := rfl

@[simp] theorem feed_cons (d : Draft) (s : Span) (ss : List Span) : d.feed (s :: ss) = (d.accept s).feed ss := rfl

theorem feed_append (d : Draft) (ss more : List Span) : d.feed (ss ++ more) = (d.feed ss).feed more :=
  List.foldl_append

theorem feed_of_refused {d : Draft} {fault : Fault} (h : d.refusal = some fault) (ss : List Span) : d.feed ss = d := by
  induction ss with
  | nil => rfl
  | cons s ss ih => rwa [feed_cons, accept_of_refused h]

/-- a span is refused for the objection to it, if there is one -/
theorem refusal_accept {d : Draft} (free : d.refusal = none) (s : Span) : (d.accept s).refusal = d.objection? s := by
  cases objection : d.objection? s with
  | none => rw [accept_of_no_objection free objection, refusal_push, free]
  | some fault => rw [accept_of_objection free objection]

theorem refusal_of_feed {d : Draft} {ss : List Span} (h : (d.feed ss).refusal = none) : d.refusal = none := by
  cases refused : d.refusal with
  | none => rfl
  | some fault =>
    rw [feed_of_refused refused, refused] at h
    cases h

/-- without a refusal in the end, the first span has been taken -/
theorem feed_cons_of_free {d : Draft} {s : Span} {ss : List Span} (h : (d.feed (s :: ss)).refusal = none) :
    d.objection? s = none ∧ d.feed (s :: ss) = (d.push s).feed ss := by
  have free : d.refusal = none := refusal_of_feed h
  have placed : d.objection? s = none := (refusal_accept free s).symm.trans (refusal_of_feed h)
  exact ⟨placed, by rw [feed_cons, accept_of_no_objection free placed]⟩

theorem takes_iff {d : Draft} (free : d.refusal = none) {ss : List Span} :
    d.Takes ss ↔ (d.feed ss).refusal = none := by
  refine ⟨?_, ?_⟩
  · intro taken
    rcases List.eq_nil_or_concat ss with rfl | ⟨before, last, rfl⟩
    · exact free
    · rw [List.concat_eq_append] at taken ⊢
      rw [feed_append]
      exact taken before last [] rfl
  · intro h before s later split
    rw [split, feed_append] at h
    exact refusal_of_feed h

theorem feed_eq_consume {d : Draft} (free : d.refusal = none) (ss : List Span) :
    d.feed ss = (d.consume (ss.map .ok)).1 := by
  induction ss generalizing d with
  | nil => rfl
  | cons s ss ih =>
    rw [List.map_cons]
    cases taken : (d.take (.ok s)).refusal with
    | none =>
      rw [consume_cons_of_free taken, ← ih taken]
      rfl
    | some fault =>
      rw [consume_cons_of_refused (by simp [taken])]
      exact feed_of_refused taken ss

/-- a stream with spans in front that are all accepted goes on behind them -/
theorem consume_append_of_free {d : Draft} {ss : List Span} (h : (d.feed ss).refusal = none) (rest : List Item) :
    d.consume (ss.map .ok ++ rest) = (d.feed ss).consume rest := by
  induction ss generalizing d with
  | nil => rfl
  | cons s ss ih =>
    have taken : (d.take (.ok s)).refusal = none := refusal_of_feed h
    rw [List.map_cons, List.cons_append, consume_cons_of_free taken]
    exact ih h

theorem finish_feed_eq_ok_iff {d : Draft} {ss : List Span} {ts : List Token} (free : d.refusal = none)
    (balance : d.closed ≤ d.opened) :
    (d.feed ss).finish = .ok ts ↔
      Fits d.due d.depth (ss.map Span.token) ∧ ts = d.tokens.toList ++ ss.map Span.token := by
  rw [feed_eq_consume free, finish_consume_eq_ok_iff free balance]
  refine ⟨?_, ?_⟩
  · intro h
    rcases h with ⟨spans, same, fits, rfl⟩
    obtain rfl : ss = spans := List.map_injective_iff.mpr (fun _ _ => Except.ok.inj) same
    exact ⟨fits, rfl⟩
  · intro h
    rcases h with ⟨fits, rfl⟩
    exact ⟨ss, rfl, fits, rfl⟩

theorem completes_iff_fits {d : Draft} {ss : List Span} (free : d.refusal = none) (balance : d.closed ≤ d.opened) :
    d.Completes ss ↔ Fits d.due d.depth (ss.map Span.token) := by
  refine ⟨?_, ?_⟩
  · intro h
    rcases h with ⟨-, ts, finished⟩
    exact ((finish_feed_eq_ok_iff free balance).mp finished).1
  · intro fits
    have finished := (finish_feed_eq_ok_iff free balance).mpr ⟨fits, rfl⟩
    refine ⟨(takes_iff free).mpr ?_, _, finished⟩
    -- a refused draft would not finish
    cases refused : (d.feed ss).refusal with
    | none => rfl
    | some fault =>
      rw [finish_of_refused refused] at finished
      cases finished

/-! ## What is remembered of the spans fed -/

/-- what is kept with each span that is taken still holds behind a run of them -/
theorem After.feed_induction {motive : Draft → List Span → Prop}
    (step : ∀ {d done s}, d.After done → d.objection? s = none → motive d done → motive (d.push s) (done ++ [s]))
    {d : Draft} {done ss : List Span} (h : d.After done) (holds : motive d done) (free : (d.feed ss).refusal = none) :
    motive (d.feed ss) (done ++ ss) := by
  induction ss generalizing d done with
  | nil => simpa using holds
  | cons s ss ih =>
    obtain ⟨placed, pushed⟩ := feed_cons_of_free free
    rw [pushed] at free ⊢
    simpa using ih (h.push placed) (step h placed holds) free

theorem After.feed {d : Draft} {done ss : List Span} (h : d.After done) (free : (d.feed ss).refusal = none) :
    (d.feed ss).After (done ++ ss) :=
  feed_induction (fun after placed _ => after.push placed) h h free

/-! ## A fresh draft -/

/-- **What a draft accepts are the sentences of the grammar.** A fresh draft accepts all the spans of a list and
finishes exactly if their tokens are those of a derivation tree; a list of tokens has one tree if it has any; and a
draft that finishes hands back the tokens of the spans, in order. -/
theorem completes_iff_tree (log : Log) (ss : List Span) :
    ((start log).Completes ss ↔ ∃ t : Tree .formula, t.tokens = ss.map Span.token) ∧
      (∀ ts : List Token, (∃ t : Tree .formula, t.tokens = ts) ↔ ∃! t : Tree .formula, t.tokens = ts) ∧
      ∀ ts, ((start log).feed ss).finish = .ok ts → ts = ss.map Span.token := by
  refine ⟨?_, ?_, ?_⟩
  · rw [completes_iff_fits rfl le_rfl, ← fits_iff_tree]
    rfl
  · intro ts
    refine ⟨?_, ExistsUnique.exists⟩
    intro h
    rcases h with ⟨t, rfl⟩
    exact ⟨t, rfl, fun u same => Tree.tokens_injective same⟩
  · intro ts finished
    exact ((finish_feed_eq_ok_iff rfl le_rfl).mp finished).2

/-- texts and offsets play no part -/
theorem completes_iff_tree_group :
    let ss : List Span := [⟨.leftParen, "", 7⟩, ⟨.var "x", "?", 0⟩, ⟨.rightParen, "]", 7⟩]
    (start (.blank .trace)).Completes ss ∧ (∃! t : Tree .formula, t.tokens = ss.map Span.token) ∧
      ((start (.blank .trace)).feed ss).finish = .ok [.leftParen, .var "x", .rightParen] := by
  intro ss
  obtain ⟨sentences, unique, same⟩ := completes_iff_tree (.blank .trace) ss
  have tree : ∃ t : Tree .formula, t.tokens = ss.map Span.token :=
    ⟨.formula (.group (.formula (.var "x") .done)) .done, rfl⟩
  have completes := sentences.mpr tree
  obtain ⟨ts, finished⟩ := completes.2
  refine ⟨completes, (unique _).mp tree, ?_⟩
  rw [finished, same ts finished]
  rfl

end Draft

end CellFormula
