/-
Parentheses left open are mended exactly as the fault says.

A text that is refused only because parentheses are left open lacks as many right parentheses as the fault counts, at the
end of its last token. Every one put there closes one more: with fewer the fault counts the rest, behind those added; with
just as many the text is accepted; with more, the first that closes nothing is refused. What stands behind the last token
are blanks, and the token does not change by a right parenthesis behind it.

- `LeftOpen`: spans that leave parentheses open at their end, and nothing else to object to.
- `LeftOpen.push`, `LeftOpen.clash`: what one right parenthesis does.
- `Draft.After.finish_closers`: what any number of them does.
- `Cursor.exists_items_closers`: put in at the end of the last span, they are read one by one.
- `Formula.read_closed`: a text refused for open parentheses, and right parentheses put in.
-/
import CellFormula.Proofs.Continuation
import CellFormula.Proofs.Equality

namespace CellFormula

open Text

/-- the spans end in an operand that stops here, and so many of their left parentheses are still open -/
structure LeftOpen (ss : List Span) (stop missing : ℕ) : Prop where
  last : ∃ p, ss.getLast? = some p ∧ p.kind ∈ [.number, .var, .rightParen] ∧ p.offset + p.text.utf8ByteSize = stop
  balance : count .leftParen ss = count .rightParen ss + missing

def closer (offset : ℕ) : Span := ⟨.rightParen, ")", offset⟩

@[simp] theorem kind_closer (offset : ℕ) : (closer offset).kind = .rightParen := rfl

/-- so many right parentheses in a row, from this offset on -/
def closers (offset : ℕ) : ℕ → List Span
  | 0 => []
  | m + 1 => closer offset :: closers (offset + 1) m

theorem map_token_closers (offset m : ℕ) : (closers offset m).map Span.token = List.replicate m .rightParen := by
  induction m generalizing offset with
  | zero => rfl
  | succ m ih => rw [closers, List.map_cons, ih, List.replicate_succ, closer]

/-! ## One right parenthesis -/

theorem LeftOpen.push {ss : List Span} {stop missing : ℕ} (h : LeftOpen ss stop (missing + 1)) :
    LeftOpen (ss ++ [closer stop]) (stop + 1) missing where
  last := ⟨closer stop, List.getLast?_concat, by simp, rfl⟩
  balance := by
    rw [count_append_singleton, count_append_singleton, h.balance]
    simp only [kind_closer, reduceCtorEq, ite_true, ite_false]
    omega

/-- no right parenthesis clashes as long as one is missing -/
theorem LeftOpen.not_clash {ss : List Span} {stop missing : ℕ} (h : LeftOpen ss stop (missing + 1)) (fault : Fault) :
    ¬ Clash ss (closer stop) fault := by
  obtain ⟨p, last, ended, -⟩ := h.last
  intro clash
  cases clash with
  | start first continues =>
    rw [first] at last
    cases last
  | operand last' expects continues =>
    obtain rfl := Option.some.inj (last.symm.trans last')
    rw [Token.Kind.mem_ends_iff] at ended
    rw [Token.Kind.mem_expects_iff, ended] at expects
    cases expects
  | operator last' ended' begins => simp at begins
  | unopened last' ended' right full =>
    have uneven := h.balance
    omega

/-- the first right parenthesis that closes nothing clashes -/
theorem LeftOpen.clash {ss : List Span} {stop : ℕ} (h : LeftOpen ss stop 0) :
    Clash ss (closer stop) (.unopened stop) := by
  obtain ⟨p, last, ended, -⟩ := h.last
  exact .unopened last ended rfl h.balance.symm

/-! ## The end -/

theorem LeftOpen.verdict_eq {ss : List Span} {stop missing : ℕ} (h : LeftOpen ss stop missing) :
    verdict ss none = if missing = 0 then .ok ⟨ss.map Span.token⟩ else .error (.unclosed stop missing) := by
  obtain ⟨p, last, ended, rfl⟩ := h.last
  have done : p.kind ∉ [.leftParen, .operator] := by
    rw [Token.Kind.mem_ends_iff] at ended
    rw [Token.Kind.mem_expects_iff, ended]
    exact Bool.noConfusion
  simp only [verdict, last, if_neg done, h.balance, Nat.add_sub_cancel_left]
  by_cases none : missing = 0
  · rw [if_pos none, if_neg (by omega)]
  · rw [if_neg none, if_pos (by omega)]

/-- spans that are refused for open parentheses leave these open, and one at least -/
theorem leftOpen_of_verdict {ss : List Span} {stop missing : ℕ} (balance : count .rightParen ss ≤ count .leftParen ss)
    (h : verdict ss none = .error (.unclosed stop missing)) : LeftOpen ss stop missing ∧ 0 < missing := by
  cases last : ss.getLast? with
  | none => simp [verdict, last] at h
  | some p =>
    simp only [verdict, last] at h
    split_ifs at h with expects uneven
    · cases h
    · obtain ⟨rfl, rfl⟩ := Fault.unclosed.inj (Except.error.inj h)
      refine ⟨⟨⟨p, last, ?_, rfl⟩, by omega⟩, by omega⟩
      rw [Token.Kind.mem_expects_iff] at expects
      rw [Token.Kind.mem_ends_iff]
      exact Bool.eq_true_of_not_eq_false expects

/-! ## Any number of right parentheses -/

/-- what comes of spans with open parentheses and so many right ones behind them -/
theorem Draft.After.finish_closers {d : Draft} {ss : List Span} {stop missing : ℕ} (h : d.After ss)
    (left : LeftOpen ss stop missing) (m : ℕ) :
    ((d.consume ((closers stop m).map .ok)).1.finish).map Formula.mk =
      if m < missing then .error (.unclosed (stop + m) (missing - m))
      else if m = missing then .ok ⟨(ss ++ closers stop m).map Span.token⟩
      else .error (.unopened (stop + missing)) := by
  induction m generalizing d ss stop missing with
  | zero =>
    rw [closers, List.map_nil, consume, h.finish_eq, left.verdict_eq, List.append_nil, Nat.add_zero, Nat.sub_zero]
    rcases Nat.eq_zero_or_pos missing with rfl | pos
    · rfl
    · rw [if_neg pos.ne', if_pos pos]
  | succ m ih =>
    rw [closers, List.map_cons]
    cases missing with
    | zero =>
      rw [h.finish_of_clash left.clash, if_neg (Nat.not_lt_zero _), if_neg (Nat.succ_ne_zero m)]
      rfl
    | succ missing =>
      have placed : d.objection? (closer stop) = none := by
        rw [Option.eq_none_iff_forall_ne_some]
        exact fun fault objection => left.not_clash fault (h.clash_of_objection? objection)
      have rest := ih (h.push placed) left.push
      rw [consume_cons_of_no_objection h.free placed, rest]
      simp only [Nat.succ_lt_succ_iff, Nat.succ_inj, Nat.add_sub_add_right, List.append_assoc, List.singleton_append,
        Nat.add_assoc, Nat.add_comm 1]

namespace Cursor

theorem items_closers (offset m : ℕ) (rest : List Char) :
    (Cursor.mk offset (List.replicate m ')' ++ rest)).items =
      (closers offset m).map .ok ++ (Cursor.mk (offset + m) rest).items := by
  induction m generalizing offset with
  | zero => rfl
  | succ m ih =>
    have step := next?_of_append offset (List.replicate m ')' ++ rest) blank_nil (show isBlank ')' = false by decide)
    have piece (cs : List Char) : Piece.read ')' cs = ⟨some .rightParen, [')'], cs⟩ := rfl
    rw [piece, byteSize_nil, Nat.add_zero, List.nil_append] at step
    rw [List.replicate_succ, List.cons_append, items_of_some step]
    simp only [show byteSize [')'] = 1 from rfl]
    rw [ih, closers, Nat.add_assoc, Nat.add_comm 1]
    rfl

theorem apart_closers {behind : List Char} (blank : Blank behind) (m : ℕ) :
    Apart (List.replicate m ')' ++ behind) := by
  cases m with
  | succ m => exact Piece.apart_cons_of_symbol? _ (show Piece.symbol? ')' = some _ from rfl)
  | zero =>
    cases behind with
    | nil => exact apart_nil
    | cons c behind => exact apart_cons_of_isBlank _ (blank c List.mem_cons_self)

/-- right parentheses put in at the end of the last span are read behind the spans, and nothing else changes -/
theorem exists_items_closers {raw : String} {spans : List Span} {p : Span} (items : (start raw).items = spans.map .ok)
    (last : spans.getLast? = some p) :
    ∃ front behind : String, raw = front ++ behind ∧ front.utf8ByteSize = p.offset + p.text.utf8ByteSize ∧
      ∀ m, (start (front ++ String.ofList (List.replicate m ')') ++ behind)).items =
        spans.map .ok ++ (closers (p.offset + p.text.utf8ByteSize) m).map .ok := by
  obtain ⟨earlier, rfl⟩ := List.getLast?_eq_some_iff.mp last
  rw [List.map_append] at items
  obtain ⟨front, behind, text, size, nothing, same⟩ := exists_cut_apart items
  have blank : Blank behind := blank_of_next? (next?_of_items_nil nothing)
  refine ⟨String.ofList front, String.ofList behind, eq_append_of_toList text, ?_, ?_⟩
  · rw [utf8ByteSize_ofList, ← size]
    exact (Nat.zero_add _).symm
  · intro m
    have ended : (Cursor.mk (p.offset + p.text.utf8ByteSize + m) behind).items = [] :=
      items_of_none (next?_of_blank blank)
    have inserted : start (String.ofList front ++ String.ofList (List.replicate m ')') ++ String.ofList behind) =
        ⟨(start raw).offset, front ++ (List.replicate m ')' ++ behind)⟩ := by simp [start]
    rw [inserted, same _ (apart_closers blank m), items_closers, ended]
    simp

end Cursor

namespace Formula

/-- **Open parentheses are mended as the fault says.** Let a text be refused because parentheses are left open at its end.
It is cut at the position of the fault, and right parentheses are put there: with as many as are missing the text is
accepted, with its tokens and the parentheses behind them; with fewer it is refused for the rest, behind those put in; and
with more, for the first that closes nothing. -/
theorem read_closed {log : Log} {raw : String} {position missing : ℕ}
    (h : (read log raw).1 = .error (.unclosed position missing)) :
    ∃ (front behind : String) (spans : List Span), raw = front ++ behind ∧ front.utf8ByteSize = position ∧
      tokenize raw = .ok spans ∧
      ∀ (log' : Log) (m : ℕ),
        let closed := front ++ String.ofList (List.replicate m ')') ++ behind
        (m = missing →
          (read log' closed).1 = .ok ⟨spans.map Span.token ++ List.replicate missing .rightParen⟩) ∧
        (m < missing → (read log' closed).1 = .error (.unclosed (position + m) (missing - m))) ∧
        (missing < m → (read log' closed).1 = .error (.unopened (position + missing))) := by
  obtain ⟨spans, items, sound, ended⟩ := exists_spans_of_unfinished h (by simp [Fault.Unfinished, Fault.cause])
  obtain ⟨left, -⟩ := leftOpen_of_verdict (Draft.count_le_of_not_bad sound) ended
  obtain ⟨p, last, -, rfl⟩ := left.last
  obtain ⟨front, behind, text, size, inserted⟩ := Cursor.exists_items_closers items last
  refine ⟨front, behind, spans, text, size, Reader.gather_eq_ok items, ?_⟩
  intro log' m closed
  obtain ⟨e, after, run⟩ := Draft.exists_after_of_not_bad log' sound
  have outcome := after.finish_closers left m
  rw [← run, ← inserted, ← read_eq] at outcome
  rw [outcome]
  refine ⟨?_, ?_, ?_⟩
  · rintro rfl
    rw [if_neg (Nat.lt_irrefl m), if_pos rfl, List.map_append, map_token_closers]
  · intro fewer
    rw [if_pos fewer]
  · intro more
    rw [if_neg (Nat.not_lt_of_gt more), if_neg more.ne']

/-- two parentheses open in front of a wide blank, and one, two and three put in -/
theorem read_closed_nested :
    (read (.blank .off) "2*((a1 　").1 = .error (.unclosed 6 2) ∧
      ∃ (front behind : String) (spans : List Span), "2*((a1 　" = front ++ behind ∧ front.utf8ByteSize = 6 ∧
        tokenize "2*((a1 　" = .ok spans ∧
        (read (.blank .off) (front ++ ")" ++ behind)).1 = .error (.unclosed 7 1) ∧
        (read (.blank .off) (front ++ "))" ++ behind)).1 =
          .ok ⟨spans.map Span.token ++ [.rightParen, .rightParen]⟩ ∧
        (read (.blank .off) (front ++ ")))" ++ behind)).1 = .error (.unopened 8) := by
  have open_end : (read (.blank .off) "2*((a1 　").1 = .error (.unclosed 6 2) :=
    read_eq_error_of_finish (by decide +kernel)
  obtain ⟨front, behind, spans, text, size, lexed, closed⟩ := read_closed open_end
  refine ⟨open_end, front, behind, spans, text, size, lexed, ?_, ?_, ?_⟩
  · exact (closed (.blank .off) 1).2.1 (by decide)
  · exact (closed (.blank .off) 2).1 rfl
  · exact (closed (.blank .off) 3).2.2 (by decide)

end Formula

end CellFormula
