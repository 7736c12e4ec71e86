/-
A refusal changes nothing else, and it is final.

A draft that refuses a span keeps its tokens, its counts, its places and its log as they are, and remembers the fault.
From then on every span is answered with this fault, whatever it is, and so is the end. So the spans behind a refusal
might as well not have been fed, and feeding spans one by one comes to the same as checking them as a stream, which
stops there.

- `Draft.reply`: what a draft answers to a span.
- `Draft.eq_of_reply_error`: what a refusal changes.
- `Draft.feed_cases`: spans fed one by one are accepted up to the first refusal.
- `Draft.reply_final`: a refusal is final, and spans fed one by one come to the same as the stream of them.
-/
import CellFormula.Proofs.Feeding

namespace CellFormula

namespace Draft

/-! ## The answer to one span -/

/-- what a draft answers to a span: nothing if it is accepted, otherwise the fault that is remembered -/
def reply (d : Draft) (s : Span) : Except Fault Unit :=
  match (d.accept s).refusal with
  | none => .ok ()
  | some fault => .error fault

theorem reply_eq_ok_iff {d : Draft} {s : Span} : d.reply s = .ok () ↔ (d.accept s).refusal = none := by
  unfold reply
  cases (d.accept s).refusal <;> simp

theorem reply_eq_error_iff {d : Draft} {s : Span} {fault : Fault} :
    d.reply s = .error fault ↔ (d.accept s).refusal = some fault := by
  unfold reply
  cases (d.accept s).refusal <;> simp

/-! ## One refusal -/

theorem objection?_of_reply_error {d : Draft} {s : Span} {fault : Fault} (free : d.refusal = none)
    (h : d.reply s = .error fault) : d.objection? s = some fault :=
  (refusal_accept free s).symm.trans (reply_eq_error_iff.mp h)

/-- a draft that refuses a span is left as it was, but for the fault -/
theorem eq_of_reply_error {d : Draft} {s : Span} {fault : Fault} (free : d.refusal = none)
    (h : d.reply s = .error fault) : d.accept s = { d with refusal := some fault } :=
  accept_of_objection free (objection?_of_reply_error free h)

/-! ## All that comes behind -/

theorem feed_append_of_reply_error {d : Draft} {before : List Span} {s : Span} {fault : Fault}
    (h : (d.feed before).reply s = .error fault) (more : List Span) :
    d.feed (before ++ s :: more) = (d.feed before).accept s := by
  rw [feed_append, feed_cons]
  exact feed_of_refused (reply_eq_error_iff.mp h) more

/-- spans fed one by one are all accepted, or are fed up to the first that is refused -/
theorem feed_cases {d : Draft} (free : d.refusal = none) (ss : List Span) :
    (d.feed ss).refusal = none ∨
      ∃ done s later fault, ss = done ++ s :: later ∧ (d.feed done).refusal = none ∧
        (d.feed done).reply s = .error fault ∧ d.feed ss = { d.feed done with refusal := some fault } := by
  induction ss generalizing d with
  | nil => exact .inl free
  | cons s ss ih =>
    cases taken : (d.accept s).refusal with
    | some fault =>
      have refused : d.reply s = .error fault := reply_eq_error_iff.mpr taken
      refine .inr ⟨[], s, ss, fault, rfl, free, refused, ?_⟩
      rw [feed_cons, feed_of_refused taken, eq_of_reply_error free refused, feed_nil]
    | none =>
      rcases ih taken with accepted | ⟨done, t, later, fault, rfl, accepted, refused, same⟩
      · exact .inl accepted
      · exact .inr ⟨s :: done, t, later, fault, rfl, accepted, refused, same⟩

/-- **A refusal is final.** Let a draft accept some spans and refuse the next. It is left as it was, its log included,
but for the fault; spans behind it change nothing at all, whatever they are, and they and the end are answered with the
same fault. And so any number of spans, fed one by one, come to the same end and write the same log as the stream of
them, of which nothing is read behind a refusal. -/
theorem reply_final (log : Log) :
    (∀ (before : List Span) (s : Span) (fault : Fault),
      let d := (start log).feed before
      (start log).Takes before → d.reply s = .error fault →
        d.accept s = { d with refusal := some fault } ∧
          ∀ more : List Span,
            let e := (start log).feed (before ++ s :: more)
            e = d.accept s ∧ (∀ t, e.reply t = .error fault ∧ e.accept t = e) ∧ e.finish = .error fault) ∧
      ∀ (ss : List Span) (k : ℕ),
        let fed := (start log).feed (ss.take k)
        let checked := ((start log).consume ((ss.take k).map .ok)).1
        fed.finish = checked.finish ∧ fed.log = checked.log := by
  refine ⟨?_, ?_⟩
  · intro before s fault d taken refused
    have free : d.refusal = none := (takes_iff rfl).mp taken
    refine ⟨eq_of_reply_error free refused, ?_⟩
    intro more e
    have stays : e = d.accept s := feed_append_of_reply_error refused more
    have remembered : e.refusal = some fault := by rw [stays, reply_eq_error_iff.mp refused]
    refine ⟨stays, fun t => ?_, finish_of_refused remembered⟩
    have same : e.accept t = e := accept_of_refused remembered t
    exact ⟨reply_eq_error_iff.mpr (by rw [same, remembered]), same⟩
  · intro ss k fed checked
    have same : fed = checked := feed_eq_consume rfl (ss.take k)
    exact ⟨congrArg finish same, congrArg Draft.log same⟩

/-- behind `(a1` a number is refused, and then a right parenthesis too, which would have been accepted without it -/
theorem reply_final_number :
    let ss : List Span := [⟨.leftParen, "(", 0⟩, ⟨.var "A1", "a1", 1⟩]
    let d := (start (.blank .trace)).feed ss
    let two : Span := ⟨.number ⟨false, 0x4000000000000000, by decide⟩, "2", 4⟩
    (start (.blank .trace)).Takes ss ∧ d.reply two = .error (.operatorExpected 4 .number) ∧
      d.accept two = { d with refusal := some (.operatorExpected 4 .number) } ∧
      (d.accept two).log.entries = #[.token "(" 0 1, .token "a1" 1 1] ∧
      d.reply ⟨.rightParen, ")", 5⟩ = .ok () ∧
      (d.accept two).reply ⟨.rightParen, ")", 5⟩ = .error (.operatorExpected 4 .number) ∧
      ((start (.blank .trace)).feed (ss ++ [two, ⟨.rightParen, ")", 5⟩])).finish =
        .error (.operatorExpected 4 .number) := by
  intro ss d two
  have taken : (start (.blank .trace)).Takes ss := (takes_iff rfl).mpr rfl
  have refused : d.reply two = .error (.operatorExpected 4 .number) := rfl
  obtain ⟨atomic, behind⟩ := (reply_final (.blank .trace)).1 ss two _ taken refused
  obtain ⟨-, later, -⟩ := behind []
  obtain ⟨-, -, ended⟩ := behind [⟨.rightParen, ")", 5⟩]
  exact ⟨taken, refused, atomic, rfl, rfl, (later _).1, ended⟩

end Draft

end CellFormula
