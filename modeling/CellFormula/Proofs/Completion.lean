/-
How a draft that has refused nothing so far can be finished.

From a point where an operand is due or not, and where some parentheses are open, a formula cannot come to its end
before every one of them is closed, nor before the operand that is due; and an operand and that many right parentheses
bring it there. So whatever a draft has accepted is the beginning of a formula, and it is known how much is missing at
least. What it refuses, on the other hand, fits nowhere: no formula begins with the spans accepted and the one refused.

- `Fits.length_le`, `fits_completion`: how few tokens bring a formula to its end.
- `Draft.After.due_eq`, `Draft.After.depth_eq`: what is missing, said of the spans accepted.
- `Draft.fits_append_iff`: a list fits behind the spans accepted exactly if it fits together with them.
- `Draft.viable_prefix`: what is accepted can be finished, how soon, and what is refused cannot.
-/
import CellFormula.Proofs.Feeding

namespace CellFormula

/-! ## The shortest end -/

/-- an end takes an operand, if one is due, and a right parenthesis for each one open -/
theorem Fits.length_le {due : Bool} {depth : ℕ} {ts : List Token} (h : Fits due depth ts) :
    depth + due.toNat ≤ ts.length := by
  induction h with
  | done => exact le_rfl
  | number value _ ih => exact Nat.succ_le_succ ih
  | var name _ ih => exact Nat.succ_le_succ ih
  | opening _ ih => exact Nat.le_succ_of_le (Nat.le_of_succ_le ih)
  | closing _ ih => exact Nat.succ_le_succ ih
  | operator op _ ih => exact Nat.le_succ_of_le (Nat.le_of_succ_le ih)

/-- an operand, if one is due, and a right parenthesis for each one open -/
def completion (due : Bool) (depth : ℕ) : List Span :=
  (if due then [⟨.var "A1", "A1", 0⟩] else []) ++ List.replicate depth ⟨.rightParen, ")", 0⟩

theorem length_completion (due : Bool) (depth : ℕ) : (completion due depth).length = depth + due.toNat := by
  cases due <;> simp [completion]

theorem fits_completion (due : Bool) (depth : ℕ) : Fits due depth ((completion due depth).map Span.token) := by
  have closing : Fits false depth (List.replicate depth .rightParen) := by
    induction depth with
    | zero => exact .done
    | succ depth ih => exact .closing ih
  cases due with
  | false => simpa [completion] using closing
  | true => simpa [completion] using Fits.var "A1" closing

namespace Draft

/-! ## What is missing -/

theorem After.due_eq {d : Draft} {done : List Span} (h : d.After done) :
    d.due = !done.getLast?.any (·.kind.endsOperand) := by
  rw [due, h.previous]
  cases done.getLast? <;> rfl

theorem After.depth_eq {d : Draft} {done : List Span} (h : d.After done) :
    d.depth = count .leftParen done - count .rightParen done := by
  rw [depth, h.opened, h.closed]

/-- behind spans that a draft has accepted fits what fits together with them -/
theorem fits_append_iff {d : Draft} {ss : List Span} {ts : List Token} (free : (d.feed ss).refusal = none)
    (balance : d.closed ≤ d.opened) :
    Fits d.due d.depth (ss.map Span.token ++ ts) ↔ Fits (d.feed ss).due (d.feed ss).depth ts := by
  induction ss generalizing d with
  | nil => rfl
  | cons s ss ih =>
    obtain ⟨placed, pushed⟩ := feed_cons_of_free free
    rw [pushed] at free ⊢
    rw [List.map_cons, List.cons_append, fits_cons_iff balance, ih free (closed_push_le balance placed)]
    exact and_iff_right placed

/-- the ends of what a draft has accepted are as long as that of `completion`, or longer -/
theorem After.isLeast_completes {d : Draft} {done : List Span} (h : d.After done) :
    IsLeast {n | ∃ more, d.Completes more ∧ more.length = n} (d.depth + d.due.toNat) := by
  refine ⟨⟨completion d.due d.depth, ?_, length_completion d.due d.depth⟩, ?_⟩
  · exact (completes_iff_fits h.free h.balance).mpr (fits_completion d.due d.depth)
  · intro n finished
    rcases finished with ⟨more, completes, rfl⟩
    have fits := (completes_iff_fits h.free h.balance).mp completes
    simpa using fits.length_le

/-- no formula begins with the spans accepted and one that is refused behind them -/
theorem tokens_ne_of_refused {log : Log} {ss : List Span} (free : ((start log).feed ss).refusal = none) {s : Span}
    (refused : (((start log).feed ss).accept s).refusal ≠ none) (more : List Token) (t : Tree .formula) :
    t.tokens ≠ ss.map Span.token ++ s.token :: more := by
  intro same
  have whole : Fits true 0 (ss.map Span.token ++ s.token :: more) := fits_iff_tree.mpr ⟨t, same⟩
  have behind := (fits_append_iff (d := start log) free le_rfl).mp whole
  have balance := ((after_start log).feed free).balance
  exact refused ((refusal_accept free s).trans ((fits_cons_iff balance).mp behind).1)

/-- **Nothing is refused too early or too late.** Of the spans that a fresh draft has accepted no more are right than
left parentheses. They can be completed, and the shortest completions have as many spans as parentheses are left open,
and one more where the last span does not end an operand. A span refused behind them cannot follow them in any
formula. -/
theorem viable_prefix (log : Log) {ss : List Span} (taken : (start log).Takes ss) :
    (count .rightParen ss ≤ count .leftParen ss ∧
      IsLeast {n | ∃ more, ((start log).feed ss).Completes more ∧ more.length = n}
        (count .leftParen ss - count .rightParen ss + if ss.getLast?.any (·.kind.endsOperand) then 0 else 1)) ∧
      ∀ s, (((start log).feed ss).accept s).refusal ≠ none →
        ∀ (more : List Token) (t : Tree .formula), t.tokens ≠ ss.map Span.token ++ s.token :: more := by
  have free : ((start log).feed ss).refusal = none := (takes_iff rfl).mp taken
  have after : ((start log).feed ss).After ss := (after_start log).feed free
  refine ⟨⟨?_, ?_⟩, fun s refused => tokens_ne_of_refused free refused⟩
  · rw [← after.opened, ← after.closed]
    exact after.balance
  · have least := after.isLeast_completes
    rw [after.depth_eq, after.due_eq] at least
    cases ended : ss.getLast?.any (·.kind.endsOperand) with
    | false => simpa [ended] using least
    | true => simpa [ended] using least

/-- behind `(a1+` the shortest completion has two spans, and a right parenthesis is refused for good -/
theorem viable_prefix_sum :
    let ss : List Span := [⟨.leftParen, "(", 0⟩, ⟨.var "A1", "a1", 1⟩, ⟨.operator .plus, "+", 3⟩]
    (start (.blank .off)).Takes ss ∧
      IsLeast {n | ∃ more, ((start (.blank .off)).feed ss).Completes more ∧ more.length = n} 2 ∧
      ∀ (more : List Token) (t : Tree .formula), t.tokens ≠ ss.map Span.token ++ .rightParen :: more := by
  intro ss
  have taken : (start (.blank .off)).Takes ss := (takes_iff rfl).mpr rfl
  obtain ⟨⟨-, least⟩, never⟩ := viable_prefix (.blank .off) taken
  exact ⟨taken, least, never ⟨.rightParen, ")", 4⟩ (by decide)⟩

end Draft

end CellFormula
