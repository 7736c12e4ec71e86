/-
What more text can mend, and what it cannot.

A refused text may just not have come to its end yet: there is no token so far, or an operand or a right parenthesis is
still missing. Then some text behind it makes a formula of both. But where a token stands that cannot stand there, no text
behind it helps. The token itself may grow with that text, and `2` turn into `2e999`, which cannot be read at all; but
whatever it becomes, it is refused where it stands.

- `Formula.error_cases`: a refusal is either that of the first span that clashes, or that of the end.
- `Formula.exists_accepted_append`: a text that has not come to its end can be brought to it.
- `Clash.position_eq`, `Clash.of_grown`: a clash lies where its span does, and stays one when the span grows.
- `Formula.read_append_of_refused`: the two together.
-/
import CellFormula.Proofs.Completion
import CellFormula.Proofs.Locality
import CellFormula.Proofs.Sentence

namespace CellFormula

open Text

/-! ## Why a text is refused -/

namespace Fault

/-- the text has not come to its end -/
def Unfinished (fault : Fault) : Prop := fault.cause ∈ [.empty, .badEnd, .unclosed]

def Misplaced (fault : Fault) : Prop := fault.cause ∈ [.badStart, .operandExpected, .operatorExpected, .unopened]

theorem Misplaced.not_unfinished {fault : Fault} (h : fault.Misplaced) : ¬ fault.Unfinished := by
  cases fault <;> simp [Unfinished, Misplaced, cause] at h ⊢

end Fault

theorem Clash.misplaced {before : List Span} {s : Span} {fault : Fault} (h : Clash before s fault) :
    fault.Misplaced := by
  cases h <;> simp [Fault.Misplaced, Fault.cause]

theorem Clash.position_eq {before : List Span} {s : Span} {fault : Fault} (h : Clash before s fault) :
    fault.position = s.offset := by
  cases h <;> rfl

/-- a clash is one of place and kind only -/
theorem Clash.of_grown {before : List Span} {s t : Span} {fault : Fault} (h : Clash before s fault)
    (offset : t.offset = s.offset) (kind : t.kind = s.kind) : Clash before t fault := by
  cases h with
  | start first continues =>
    rw [← offset, ← kind] at *
    exact .start first continues
  | operand last expects continues =>
    rw [← offset, ← kind] at *
    exact .operand last expects continues
  | operator last ended begins =>
    rw [← offset, ← kind] at *
    exact .operator last ended begins
  | unopened last ended right full =>
    rw [← offset]
    exact .unopened last ended (kind.trans right) full

theorem unfinished_of_verdict {ss : List Span} {fault : Fault} (h : verdict ss none = .error fault) :
    fault.Unfinished := by
  cases last : ss.getLast? with
  | none =>
    simp only [verdict, last, Except.error.injEq] at h
    subst h
    simp [Fault.Unfinished, Fault.cause]
  | some p =>
    simp only [verdict, last] at h
    split_ifs at h
    · obtain rfl := Except.error.inj h
      simp [Fault.Unfinished, Fault.cause]
    · obtain rfl := Except.error.inj h
      simp [Fault.Unfinished, Fault.cause]

theorem mem_of_firstFault? {items : List Item} {fault : Fault} (h : firstFault? items = some fault) :
    .error fault ∈ items := by
  obtain ⟨more, eq⟩ := exists_eq_leading_of_some h
  rw [eq]
  simp

namespace Formula

/-- a refusal is that of the first span that clashes or, if none does, that of a character that cannot be read or of the
end -/
theorem error_cases {log : Log} {raw : String} {fault : Fault} (h : (read log raw).1 = .error fault) :
    (∃ i, Bad (leading (Cursor.start raw).items) i fault ∧
        ∀ j < i, ∀ other, ¬ Bad (leading (Cursor.start raw).items) j other) ∨
      (∀ i other, ¬ Bad (leading (Cursor.start raw).items) i other) ∧
        verdict (leading (Cursor.start raw).items) (firstFault? (Cursor.start raw).items) = .error fault := by
  classical
  rw [read_eq] at h
  by_cases bad : ∃ i other, Bad (leading (Cursor.start raw).items) i other
  · obtain ⟨other, first⟩ := Nat.find_spec bad
    have none_before : ∀ j < Nat.find bad, ∀ other, ¬ Bad (leading (Cursor.start raw).items) j other :=
      fun j below other clash => Nat.find_min bad below ⟨other, clash⟩
    rw [Draft.finish_of_bad log first none_before] at h
    obtain rfl := Except.error.inj h
    exact .inl ⟨_, first, none_before⟩
  · have sound : ∀ i other, ¬ Bad (leading (Cursor.start raw).items) i other :=
      fun i other clash => bad ⟨i, other, clash⟩
    rw [(Draft.finish_of_not_bad log sound).1] at h
    exact .inr ⟨sound, h⟩

/-! ## What can be mended -/

/-- an unfinished text is read without a fault, none of its spans clashes, and the verdict is that of its end -/
theorem exists_spans_of_unfinished {log : Log} {raw : String} {fault : Fault} (h : (read log raw).1 = .error fault)
    (unfinished : fault.Unfinished) :
    ∃ spans : List Span, (Cursor.start raw).items = spans.map .ok ∧ (∀ i other, ¬ Bad spans i other) ∧
      verdict spans none = .error fault := by
  set items := (Cursor.start raw).items with items_def
  rcases error_cases h with ⟨i, ⟨s, -, clash⟩, -⟩ | ⟨sound, ended⟩
  · exact absurd unfinished clash.misplaced.not_unfinished
  · cases lexical : firstFault? items with
    | some other =>
      obtain ⟨position, found, rfl⟩ := Cursor.eq_unreadable_of_mem (mem_of_firstFault? lexical)
      rw [lexical] at ended
      obtain rfl := Except.error.inj ended
      simp [Fault.Unfinished, Fault.cause] at unfinished
    | none =>
      rw [lexical] at ended
      exact ⟨leading items, eq_leading_of_none lexical, sound, ended⟩

/-- an unfinished text is read without a fault, and all its spans are accepted -/
theorem exists_feed_of_unfinished {log : Log} {raw : String} {fault : Fault} (h : (read log raw).1 = .error fault)
    (unfinished : fault.Unfinished) :
    ∃ spans : List Span, (Cursor.start raw).items = spans.map .ok ∧ ((Draft.start log).feed spans).refusal = none := by
  obtain ⟨spans, items, sound, -⟩ := exists_spans_of_unfinished h unfinished
  obtain ⟨e, after, run⟩ := Draft.exists_after_of_not_bad log sound
  have whole := run []
  rw [List.append_nil] at whole
  refine ⟨spans, items, ?_⟩
  rw [Draft.feed_eq_consume rfl, whole]
  exact after.free

theorem laid_flatMap_chars {ts : List Token} (h : ∀ t ∈ ts, t.Spelled t.chars) : Laid ts (ts.flatMap Token.chars) := by
  induction ts with
  | nil => exact .blank blank_nil
  | cons t ts ih =>
    have behind := ih fun u mem => h u (List.mem_cons_of_mem t mem)
    exact .token blank_nil (h t List.mem_cons_self) behind

theorem spelled_completion (due : Bool) (depth : ℕ) : ∀ t ∈ (completion due depth).map Span.token, t.Spelled t.chars := by
  have name : Token.Spelled (.var "A1") ['A', '1'] :=
    Piece.spelled_of_token (show (Piece.read 'A' ['1']).token = some (.var "A1") by decide)
  intro t mem
  obtain ⟨s, added, rfl⟩ := List.mem_map.mp mem
  rcases List.mem_append.mp added with operand | closing
  · cases due with
    | false => simp at operand
    | true =>
      obtain rfl := List.mem_singleton.mp operand
      exact name
  · obtain rfl := List.eq_of_mem_replicate closing
    exact .rightParen

/-- a text that has not come to its end can be brought to it -/
theorem exists_accepted_append {log : Log} {raw : String} {fault : Fault} (h : (read log raw).1 = .error fault)
    (unfinished : fault.Unfinished) : ∃ more f, (read log (raw ++ more)).1 = .ok f := by
  obtain ⟨spans, items, free⟩ := exists_feed_of_unfinished h unfinished
  set d := (Draft.start log).feed spans
  set added := (completion d.due d.depth).map Span.token
  have fits : Fits true 0 (spans.map Span.token ++ added) :=
    (Draft.fits_append_iff (d := Draft.start log) free le_rfl).mpr (fits_completion d.due d.depth)
  have laid : Laid (spans.map Span.token ++ added) (raw.toList ++ added.flatMap Token.chars) :=
    (Cursor.laid_of_items items).1.append (laid_flatMap_chars (spelled_completion d.due d.depth))
  refine ⟨String.ofList (added.flatMap Token.chars), ⟨spans.map Span.token ++ added⟩, ?_⟩
  rw [read_eq_ok_iff_laid, String.toList_append, String.toList_ofList]
  exact ⟨laid, fits⟩

/-! ## What cannot -/

/-- the item in place of a span that clashes is refused where the span was, whatever stands behind it -/
theorem exists_error_of_clash {log : Log} {raw : String} {spans : List Span} {i : Item} {later : List Item}
    (items : (Cursor.start raw).items = spans.map .ok ++ i :: later)
    (sound : ∀ before s later, spans = before ++ s :: later → ∀ fault, ¬ Clash before s fault) {s : Span}
    {fault : Fault} (clash : Clash spans s fault) (position : Item.position i = s.offset)
    (kind : ∀ s', i = .ok s' → s'.kind = s.kind) :
    ∃ other, (read log raw).1 = .error other ∧ other.position = s.offset := by
  obtain ⟨e, after, run⟩ := (Draft.after_start log).consume_append sound
  rw [List.nil_append] at after
  rw [read_eq, items, run]
  cases i with
  | error other =>
    refine ⟨other, ?_, position⟩
    rw [Draft.finish_consume_of_refused (Draft.refusal_take_error after.free other)]
    rfl
  | ok s' =>
    refine ⟨fault, ?_, clash.position_eq⟩
    rw [after.finish_of_clash (clash.of_grown position (kind s' rfl))]
    rfl

/-- a stream has the spans before one of the leading ones in front of it -/
theorem eq_take_of_leading {items : List Item} {i : ℕ} {s : Span} (h : (leading items)[i]? = some s) :
    ∃ more, items = ((leading items).take i).map .ok ++ .ok s :: more := by
  obtain ⟨more, eq⟩ := exists_eq_leading items
  obtain ⟨short, rfl⟩ := List.getElem?_eq_some_iff.mp h
  have split : leading items = (leading items).take i ++ (leading items)[i] :: (leading items).drop (i + 1) := by
    rw [← List.drop_eq_getElem_cons short, List.take_append_drop]
  refine ⟨((leading items).drop (i + 1)).map .ok ++ more, ?_⟩
  calc items = (leading items).map .ok ++ more := eq
    _ = ((leading items).take i ++ (leading items)[i] :: (leading items).drop (i + 1)).map .ok ++ more := by rw [← split]
    _ = _ := by rw [List.map_append, List.map_cons, List.append_assoc, List.cons_append]

/-- a misplaced token clashes with the spans before it, and none of those does -/
theorem exists_clash_of_misplaced {log : Log} {raw : String} {fault : Fault} (h : (read log raw).1 = .error fault)
    (misplaced : fault.Misplaced) :
    ∃ (spans : List Span) (s : Span) (later : List Item), (Cursor.start raw).items = spans.map .ok ++ .ok s :: later ∧
      Clash spans s fault ∧ ∀ before t behind, spans = before ++ t :: behind → ∀ other, ¬ Clash before t other := by
  rcases error_cases h with ⟨i, ⟨s, at_i, clash⟩, first⟩ | ⟨-, ended⟩
  · obtain ⟨later, items⟩ := eq_take_of_leading at_i
    exact ⟨_, s, later, items, clash, fun _ _ _ split => not_clash_of_not_bad first split⟩
  · cases lexical : firstFault? (Cursor.start raw).items with
    | some other =>
      obtain ⟨position, found, rfl⟩ := Cursor.eq_unreadable_of_mem (mem_of_firstFault? lexical)
      rw [lexical] at ended
      obtain rfl := Except.error.inj ended
      simp [Fault.Misplaced, Fault.cause] at misplaced
    | none =>
      rw [lexical] at ended
      exact absurd (unfinished_of_verdict ended) misplaced.not_unfinished

/-- no two items lie in one place -/
theorem Cursor.eq_of_position_eq {c : Cursor} {i j : Item} (hi : i ∈ c.items) (hj : j ∈ c.items)
    (h : Item.position i = Item.position j) : i = j := by
  have distinct : (c.items.map Item.position).Nodup := c.tiled.pairwise_position.imp fun below => below.ne
  exact List.inj_on_of_nodup_map distinct hi hj h

/-- **Typing more.** A text that is refused for want of tokens, of an operand at its end or of right parentheses becomes a
formula with some text behind it. But if a token is refused, then with the text cut off behind it, and whatever stands
there instead, the refusal is in the same place. -/
theorem read_append_of_refused {log : Log} {raw : String} {fault : Fault} (h : (read log raw).1 = .error fault) :
    (fault.cause ∈ [.empty, .badEnd, .unclosed] → ∃ more f, (read log (raw ++ more)).1 = .ok f) ∧
      (fault.cause ∈ [.badStart, .operandExpected, .operatorExpected, .unopened] →
        ∃ s, (∀ i, i ∈ (Cursor.start raw).items ∧ Item.position i = fault.position ↔ i = .ok s) ∧
          ∃ front behind, raw = front ++ behind ∧ front.utf8ByteSize = s.offset + s.text.utf8ByteSize ∧
            ∀ more, ∃ other, (read log (front ++ more)).1 = .error other ∧ other.position = fault.position) := by
  refine ⟨exists_accepted_append h, ?_⟩
  intro misplaced
  obtain ⟨spans, s, later, items, clash, sound⟩ := exists_clash_of_misplaced h misplaced
  have position := clash.position_eq
  obtain ⟨front, behind, text, size, -, cut⟩ := Cursor.exists_cut items
  refine ⟨s, ?_, String.ofList front, String.ofList behind, eq_append_of_toList text, ?_, ?_⟩
  · intro i
    have mem : .ok s ∈ (Cursor.start raw).items := by simp [items]
    refine ⟨?_, ?_⟩
    · intro h
      exact Cursor.eq_of_position_eq h.1 mem (h.2.trans position)
    · rintro rfl
      exact ⟨mem, position.symm⟩
  · rw [utf8ByteSize_ofList, ← size]
    exact (Nat.zero_add _).symm
  · intro more
    obtain ⟨i, later', items', place, kind⟩ := cut more.toList
    have start : Cursor.start (String.ofList front ++ more) = ⟨(Cursor.start raw).offset, front ++ more.toList⟩ := by
      simp [Cursor.start]
    rw [position]
    exact exists_error_of_clash (start ▸ items') sound clash place kind

/-- what is missing behind `(a1 +` can be added; the second number of `1 2` cannot be mended, though it may overflow -/
theorem read_append_of_refused_pair :
    (read (.blank .off) "(a1 +").1 = .error (.badEnd 4 .operator) ∧
      (∃ more f, (read (.blank .off) ("(a1 +" ++ more)).1 = .ok f) ∧
      (read (.blank .off) "1 2 3").1 = .error (.operatorExpected 2 .number) ∧
      ∃ (s : Span) (front behind : String), s.offset = 2 ∧ "1 2 3" = front ++ behind ∧
        front.utf8ByteSize = s.offset + s.text.utf8ByteSize ∧
        ∃ other, (read (.blank .off) (front ++ "e999")).1 = .error other ∧ other.position = 2 := by
  have open_end : (read (.blank .off) "(a1 +").1 = .error (.badEnd 4 .operator) :=
    read_eq_error_of_finish (by decide +kernel)
  have second : (read (.blank .off) "1 2 3").1 = .error (.operatorExpected 2 .number) :=
    read_eq_error_of_finish (by decide +kernel)
  obtain ⟨s, here, front, behind, text, size, same⟩ := (read_append_of_refused second).2 (by decide)
  exact ⟨open_end, (read_append_of_refused open_end).1 (by decide), second, s, front, behind, ((here _).mpr rfl).2, text,
    size, same "e999"⟩

end Formula

end CellFormula
