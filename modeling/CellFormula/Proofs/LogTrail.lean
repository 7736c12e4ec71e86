/-
What the reading of a text leaves in the log.

Every span accepted leaves an entry with its text, its offset and the number of parentheses open behind it, and one last
entry tells what came of the text. The depth in an entry is the number of left parentheses so far less that of right
ones, which is never negative; so the last depth is 0 behind a formula, and says how many right parentheses are missing
where nothing else is wrong. A log of fewer levels gets just those of these entries that it keeps. Neither the outcome
nor the spans accepted depend on the log.

- `Log.filter_keeps`: what a log of any level keeps of the entries of spans and the last one.
- `trail`: the entries that spans leave, one behind the other.
- `Draft.log_feed`: what a run of spans that are accepted writes.
- `Draft.exists_consume_withLog`: the log has no say in what is accepted.
- `Formula.exists_trail`: what is written for a text, and the two ways in which its reading ends.
- `Formula.read_trail`: the entries for any text, and for a log of any level.
-/
import CellFormula.Proofs.Invariant
import CellFormula.Proofs.Repair
import CellFormula.Proofs.Requests

namespace CellFormula

/-! ## Spans in front of a fault -/

theorem leading_append (spans : List Span) (items : List Item) :
    leading (spans.map .ok ++ items) = spans ++ leading items := by
  induction spans with
  | nil => rfl
  | cons s spans ih => exact congrArg (s :: ·) ih

theorem leading_map_ok (spans : List Span) : leading (spans.map .ok) = spans := by
  simpa [leading] using leading_append spans []

/-! ## Several entries -/

namespace Log

def addAll (log : Log) (entries : List Entry) : Log := entries.foldl add log

@[simp] theorem addAll_cons (log : Log) (entry : Entry) (entries : List Entry) :
    log.addAll (entry :: entries) = (log.add entry).addAll entries := rfl

theorem addAll_append (log : Log) (entries more : List Entry) :
    log.addAll (entries ++ more) = (log.addAll entries).addAll more :=
  List.foldl_append

theorem keeps_add (log : Log) (entry : Entry) : (log.add entry).keeps = log.keeps := by
  funext other
  rw [keeps, keeps, limit_add]

theorem toList_addAll (log : Log) (entries : List Entry) :
    (log.addAll entries).entries.toList = log.entries.toList ++ entries.filter log.keeps := by
  induction entries generalizing log with
  | nil => simp [addAll]
  | cons entry entries ih =>
    rw [addAll_cons, ih, toList_add, keeps_add, List.filter_cons, List.append_assoc]
    cases log.keeps entry <;> rfl

theorem keeps_of_level (log : Log) {entry : Entry} {level : Level} (h : entry.level = level) :
    log.keeps entry = decide (level.detail ≤ log.limit.detail) := by
  rw [keeps, h]

/-- of entries about tokens and a last one about the outcome, a log keeps all, only the last, or none -/
theorem filter_keeps {traces : List Entry} {last : Entry} (traced : ∀ entry ∈ traces, entry.level = .trace)
    (told : last.level = .debug) (log : Log) :
    (traces ++ [last]).filter log.keeps =
      match log.limit with
      | .trace => traces ++ [last]
      | .debug => [last]
      | _ => [] := by
  have tokens : traces.filter log.keeps = traces.filter fun _ => decide (Level.trace.detail ≤ log.limit.detail) :=
    List.filter_congr fun entry mem => log.keeps_of_level (traced entry mem)
  have outcome : [last].filter log.keeps = [last].filter fun _ => decide (Level.debug.detail ≤ log.limit.detail) :=
    List.filter_congr fun entry mem => log.keeps_of_level (List.mem_singleton.mp mem ▸ told)
  rw [List.filter_append, tokens, outcome]
  cases log.limit <;> simp [Level.detail]

end Log

/-! ## The entries of spans -/

/-- the entries of spans that are accepted one after the other, and behind others; each tells how many more left than
right parentheses there are up to its span -/
def trail (before : List Span) : List Span → List Entry
  | [] => []
  | s :: ss =>
    .token s.text s.offset (count .leftParen (before ++ [s]) - count .rightParen (before ++ [s])) ::
      trail (before ++ [s]) ss

@[simp] theorem length_trail (before ss : List Span) : (trail before ss).length = ss.length := by
  induction ss generalizing before with
  | nil => rfl
  | cons s ss ih => rw [trail, List.length_cons, List.length_cons, ih]

theorem trail_append (before ss more : List Span) :
    trail before (ss ++ more) = trail before ss ++ trail (before ++ ss) more := by
  induction ss generalizing before with
  | nil => rw [List.append_nil, List.nil_append, trail, List.nil_append]
  | cons s ss ih => rw [List.cons_append, trail, ih, trail, List.cons_append, List.append_assoc, List.singleton_append]

theorem getElem?_trail (before ss : List Span) (i : ℕ) :
    (trail before ss)[i]? = ss[i]?.map fun s => .token s.text s.offset
      (count .leftParen (before ++ ss.take (i + 1)) - count .rightParen (before ++ ss.take (i + 1))) := by
  induction ss generalizing before i with
  | nil => rfl
  | cons s ss ih =>
    cases i with
    | zero => rfl
    | succ i =>
      rw [trail, List.getElem?_cons_succ, List.getElem?_cons_succ, ih, List.take_succ_cons, List.append_assoc]
      rfl

theorem getLast?_trail {ss : List Span} {p : Span} (last : ss.getLast? = some p) :
    (trail [] ss).getLast? = some (.token p.text p.offset (count .leftParen ss - count .rightParen ss)) := by
  obtain ⟨front, rfl⟩ := List.getLast?_eq_some_iff.mp last
  rw [trail_append, List.nil_append]
  exact List.getLast?_concat

theorem exists_of_mem_trail {before ss : List Span} {entry : Entry} (h : entry ∈ trail before ss) :
    ∃ s ∈ ss, ∃ depth, entry = .token s.text s.offset depth := by
  obtain ⟨i, at_i⟩ := List.mem_iff_getElem?.mp h
  rw [getElem?_trail] at at_i
  obtain ⟨s, found, rfl⟩ := Option.map_eq_some_iff.mp at_i
  exact ⟨s, List.mem_of_getElem? found, _, rfl⟩

theorem level_of_mem_trail {before ss : List Span} {entry : Entry} (h : entry ∈ trail before ss) :
    entry.level = .trace := by
  obtain ⟨s, -, depth, rfl⟩ := exists_of_mem_trail h
  rfl

namespace Draft

/-! ## What a draft writes -/

theorem After.log_push {d : Draft} {done : List Span} {s : Span} (h : d.After done) (placed : d.objection? s = none) :
    (d.push s).log = d.log.add
      (.token s.text s.offset (count .leftParen (done ++ [s]) - count .rightParen (done ++ [s]))) := by
  rw [← (h.push placed).opened, ← (h.push placed).closed]
  rfl

/-- spans that are accepted leave their entries, and nothing else -/
theorem log_feed {log : Log} {ss : List Span} (free : ((start log).feed ss).refusal = none) :
    ((start log).feed ss).log = log.addAll (trail [] ss) := by
  refine After.feed_induction (motive := fun d done => d.log = log.addAll (trail [] done)) ?_ (after_start log) rfl free
  intro d done s after placed written
  rw [after.log_push placed, written, trail_append, Log.addAll_append, List.nil_append]
  rfl

/-- no part of spans that are accepted, from the first on, has more right than left parentheses -/
theorem count_take_le {log : Log} {taken : List Span} (takes : (start log).Takes taken) (i : ℕ) :
    count .rightParen (taken.take i) ≤ count .leftParen (taken.take i) := by
  have free : ((start log).feed taken).refusal = none := (takes_iff rfl).mp takes
  have orderly : Orderly (taken.map Span.token) := (after_start log).orderly_feed orderly_nil free
  have balance := orderly.balance _ ((List.take_prefix i taken).map Span.token)
  rwa [count_token_leftParen, count_token_rightParen] at balance

theorem log_take_of_refused {d : Draft} (free : d.refusal = none) {item : Item} {fault : Fault}
    (h : (d.take item).refusal = some fault) : (d.take item).log = d.log := by
  cases item with
  | error other => simp [take, refuse, free]
  | ok s =>
    have refused : d.reply s = .error fault := reply_eq_error_iff.mpr h
    rw [take, eq_of_reply_error free refused]

/-! ## The log has no say -/

def withLog (d : Draft) (log : Log) : Draft := { d with log := log }

@[simp] theorem refusal_withLog (d : Draft) (log : Log) : (d.withLog log).refusal = d.refusal := rfl

@[simp] theorem finish_withLog (d : Draft) (log : Log) : (d.withLog log).finish = d.finish := rfl

theorem exists_take_withLog (d : Draft) (log : Log) (item : Item) :
    ∃ written, (d.withLog log).take item = (d.take item).withLog written := by
  cases refused : d.refusal with
  | some fault =>
    cases item with
    | error other => exact ⟨log, by simp [take, refuse, refused]⟩
    | ok s => exact ⟨log, by simp [take, accept, refused]⟩
  | none =>
    cases item with
    | error fault => exact ⟨log, by simp [take, refuse, refused, withLog]⟩
    | ok s =>
      cases objection : d.objection? s with
      | some fault =>
        refine ⟨log, ?_⟩
        rw [take, take, accept_of_objection refused objection,
          accept_of_objection (d := d.withLog log) refused objection]
        rfl
      | none =>
        refine ⟨((d.withLog log).push s).log, ?_⟩
        rw [take, take, accept_of_no_objection refused objection,
          accept_of_no_objection (d := d.withLog log) refused objection]
        rfl

/-- a stream is consumed as with another log, but for what is written -/
theorem exists_consume_withLog (d : Draft) (log : Log) (items : List Item) :
    ∃ written, ((d.withLog log).consume items).1 = (d.consume items).1.withLog written := by
  induction items generalizing d log with
  | nil => exact ⟨log, rfl⟩
  | cons item items ih =>
    obtain ⟨written, same⟩ := exists_take_withLog d log item
    have alike : ((d.withLog log).take item).refusal = (d.take item).refusal := by rw [same, refusal_withLog]
    by_cases free : (d.take item).refusal = none
    · rw [consume_cons_of_free free, consume_cons_of_free (alike.trans free), same]
      exact ih (d.take item) written
    · rw [consume_cons_of_refused free, consume_cons_of_refused (alike ▸ free)]
      exact ⟨written, same⟩

theorem finish_consume_start (log other : Log) (items : List Item) :
    ((start log).consume items).1.finish = ((start other).consume items).1.finish := by
  obtain ⟨written, same⟩ := exists_consume_withLog (start other) log items
  rw [show start log = (start other).withLog log from rfl, same, finish_withLog]

theorem takes_start_iff (log other : Log) (ss : List Span) : (start log).Takes ss ↔ (start other).Takes ss := by
  obtain ⟨written, same⟩ := exists_consume_withLog (start other) log (ss.map .ok)
  rw [takes_iff rfl, takes_iff rfl, feed_eq_consume rfl, feed_eq_consume rfl,
    show start log = (start other).withLog log from rfl, same, refusal_withLog]

theorem Taken.of_start {log : Log} {ss done : List Span} (h : (start log).Taken ss done) (other : Log) :
    (start other).Taken ss done where
  front := h.front
  takes := (takes_start_iff other log done).mpr h.takes
  longest more part taken := h.longest more part ((takes_start_iff log other more).mpr taken)

end Draft

/-! ## Where a reading stops -/

/-- where the check of items stops that has accepted these spans: behind the last item, or at the first one refused -/
inductive StopsBehind (items : List Item) (taken : List Span) : Except Fault Formula → Prop where
  | atEnd : items = taken.map .ok → StopsBehind items taken (verdict taken none)
  | before {item : Item} {more : List Item} {fault : Fault} : items = taken.map .ok ++ item :: more →
      fault.position = Item.position item → ¬ fault.Unfinished → StopsBehind items taken (.error fault)

/-- the spans of a formula are all accepted, and close all parentheses -/
theorem StopsBehind.accepted {items : List Item} {taken : List Span} {f : Formula}
    (h : StopsBehind items taken (.ok f)) :
    taken.map Span.token = f.tokens ∧ ∃ text offset, (trail [] taken).getLast? = some (.token text offset 0) := by
  generalize same : Except.ok f = result at h
  cases h with
  | before _ _ _ => cases same
  | atEnd _ =>
    cases last : taken.getLast? with
    | none => simp [verdict, last] at same
    | some p =>
      simp only [verdict, last] at same
      split_ifs at same with expects uneven
      obtain rfl := Except.ok.inj same
      refine ⟨rfl, p.text, p.offset, ?_⟩
      rw [getLast?_trail last, not_not.mp uneven, Nat.sub_self]

/-- where right parentheses are missing, the last depth tells how many -/
theorem StopsBehind.unclosed {items : List Item} {taken : List Span} {position missing : ℕ}
    (h : StopsBehind items taken (.error (.unclosed position missing)))
    (balance : count .rightParen taken ≤ count .leftParen taken) :
    ∃ text offset, (trail [] taken).getLast? = some (.token text offset missing) := by
  generalize same : Except.error (Fault.unclosed position missing) = result at h
  cases h with
  | before _ _ early =>
    obtain rfl := Except.error.inj same
    simp [Fault.Unfinished, Fault.cause] at early
  | atEnd _ =>
    have left : LeftOpen taken position missing := (leftOpen_of_verdict balance same.symm).1
    obtain ⟨p, last, -⟩ := left.last
    refine ⟨p.text, p.offset, ?_⟩
    rw [getLast?_trail last, left.balance, Nat.add_sub_cancel_left]

/-- the entries of spans are about what lies in front of an item that is refused -/
theorem StopsBehind.early {c : Cursor} {taken : List Span} {fault : Fault}
    (h : StopsBehind c.items taken (.error fault)) (early : ¬ fault.Unfinished) {text : String} {offset depth : ℕ}
    (mem : .token text offset depth ∈ trail [] taken) : offset < fault.position := by
  generalize same : Except.error fault = result at h
  cases h with
  | atEnd _ => exact absurd (unfinished_of_verdict same.symm) early
  | before split position _ =>
    obtain rfl := Except.error.inj same
    obtain ⟨s, accepted, depth', written⟩ := exists_of_mem_trail mem
    obtain ⟨-, rfl, -⟩ := Entry.token.inj written
    rw [position]
    exact Cursor.position_lt split (List.mem_map_of_mem accepted) List.mem_cons_self

/-- an item that is refused lies where its fault does, and the fault is not one of the end -/
theorem Draft.After.position_of_take {d : Draft} {done : List Span} (h : d.After done) {c : Cursor} {item : Item}
    (mem : item ∈ c.items) {fault : Fault} (refused : (d.take item).refusal = some fault) :
    fault.position = Item.position item ∧ ¬ fault.Unfinished := by
  cases item with
  | error other =>
    rw [refusal_take_error h.free, Option.some.injEq] at refused
    obtain ⟨position, found, rfl⟩ := Cursor.eq_unreadable_of_mem mem
    subst refused
    exact ⟨rfl, by simp [Fault.Unfinished, Fault.cause]⟩
  | ok s =>
    have clash : Clash done s fault := h.objection?_eq_some_iff.mp ((refusal_accept h.free s).symm.trans refused)
    exact ⟨clash.position_eq, clash.misplaced.not_unfinished⟩

/-- the check of a text writes the entries of the spans accepted -/
theorem Draft.exists_trail (log : Log) (c : Cursor) :
    ∃ taken, (start log).Taken (leading c.items) taken ∧
      ((start log).consume c.items).1.log = log.addAll (trail [] taken) ∧
      StopsBehind c.items taken (((start log).consume c.items).1.finish.map Formula.mk) := by
  have fresh : (start log).refusal = none := rfl
  rcases consume_cases fresh c.items with
    ⟨taken, all_spans, free, consumed⟩ | ⟨taken, item, more, fault, split, free, refused, consumed⟩
  · refine ⟨taken, ?_, ?_, ?_⟩
    · rw [all_spans, leading_map_ok]
      exact taken_self ((takes_iff fresh).mpr free)
    · rw [consumed]
      exact log_feed free
    · rw [consumed, ((after_start log).feed free).finish_eq]
      exact .atEnd all_spans
  · have takes : (start log).Takes taken := (takes_iff fresh).mpr free
    obtain ⟨position, early⟩ := ((after_start log).feed free).position_of_take (c := c) (by simp [split]) refused
    refine ⟨taken, ?_, ?_, ?_⟩
    · rw [split, leading_append]
      cases item with
      | error other => simpa [leading] using taken_self takes
      | ok s => exact taken_append takes (reply_eq_error_iff.mpr refused) (leading more)
    · rw [consumed, log_take_of_refused free refused]
      exact log_feed free
    · rw [consumed, finish_of_refused refused]
      exact .before split position early

namespace Formula

/-! ## The entries for a text -/

theorem level_outcome (raw : String) (result : Except Fault Formula) : (outcome raw result).level = .debug := by
  cases result <;> rfl

/-- what comes of a text does not depend on the log -/
theorem read_log (log other : Log) (raw : String) : (read log raw).1 = (read other raw).1 := by
  rw [read_eq, read_eq, Draft.finish_consume_start log other]

/-- the reading of a text writes the entries of the spans accepted, and then the outcome -/
theorem exists_trail (log : Log) (raw : String) :
    ∃ taken, (Draft.start log).Taken (leading (Cursor.start raw).items) taken ∧
      (read log raw).2.entries.toList =
        log.entries.toList ++ (trail [] taken ++ [outcome raw (read log raw).1]).filter log.keeps ∧
      StopsBehind (Cursor.start raw).items taken (read log raw).1 := by
  obtain ⟨taken, longest, written, stops⟩ := Draft.exists_trail log (Cursor.start raw)
  rw [← read_eq] at stops
  refine ⟨taken, longest, ?_, stops⟩
  have checked : ((Reader.start raw).check (.start log)).1 = ((Draft.start log).consume (Cursor.start raw).items).1 :=
    Reader.check_eq_consume _ rfl
  have all : (read log raw).2 = log.addAll (trail [] taken ++ [outcome raw (read log raw).1]) := by
    rw [Log.addAll_append, ← written, ← checked]
    rfl
  rw [all, Log.toList_addAll]

/-- **The log tells of each token that is accepted, and then of the outcome.** With all levels kept, the reading of a
text writes one entry for every span accepted, in their order and at the level of traces, and one for the outcome, at the
level for debugging. The entry of a span has its text, its offset and the difference of the left and the right
parentheses up to it, which is a true one. A formula has an entry for each of its tokens, the last one of depth 0, and
the outcome counts its names. Where right parentheses are missing, the last depth says how many; and where an item is
refused, all spans with an entry lie in front of it. With another log the outcome is the same and so are the spans
accepted, and of the entries those are written that this log keeps: all of them, that of the outcome alone, or none. -/
theorem read_trail (raw : String) :
    ∃ (taken : List Span) (traces : List Entry),
      let result := (read (.blank .trace) raw).1
      let records := (read (.blank .trace) raw).2.entries.toList
      records = traces ++ [outcome raw result] ∧ traces.length = taken.length ∧
        (∀ entry ∈ traces, entry.level = .trace) ∧ (outcome raw result).level = .debug ∧
        (∀ i s, taken[i]? = some s → ∃ depth, traces[i]? = some (.token s.text s.offset depth) ∧
          count .leftParen (taken.take (i + 1)) = count .rightParen (taken.take (i + 1)) + depth) ∧
        (∀ f, result = .ok f → outcome raw result = .accepted raw f.canonical f.names.toList.length ∧
          taken.map Span.token = f.tokens ∧ ∃ text offset, traces.getLast? = some (.token text offset 0)) ∧
        (∀ fault, result = .error fault → outcome raw result = .rejected raw fault ∧
          (∀ position missing, fault = .unclosed position missing →
            ∃ text offset, traces.getLast? = some (.token text offset missing)) ∧
          (fault.cause ∉ [.empty, .badEnd, .unclosed] →
            ∀ text offset depth, .token text offset depth ∈ traces → offset < fault.position)) ∧
        ∀ log, (Draft.start log).Taken (leading (Cursor.start raw).items) taken ∧ (read log raw).1 = result ∧
          (read log raw).2.entries.toList = log.entries.toList ++ records.filter log.keeps ∧
          records.filter log.keeps =
            match log.limit with
            | .trace => records
            | .debug => [outcome raw result]
            | _ => [] := by
  obtain ⟨taken, longest, written, stops⟩ := exists_trail (.blank .trace) raw
  refine ⟨taken, trail [] taken, ?_⟩
  intro result records
  change StopsBehind _ taken result at stops
  have traced : ∀ entry ∈ trail [] taken, entry.level = .trace := fun _ mem => level_of_mem_trail mem
  have told : (outcome raw result).level = .debug := level_outcome raw result
  have recorded : records = trail [] taken ++ [outcome raw result] := by
    rwa [Log.filter_keeps traced told] at written
  refine ⟨recorded, length_trail [] taken, traced, told, ?_, ?_, ?_, ?_⟩
  · intro i s at_i
    refine ⟨_, by rw [getElem?_trail, at_i]; rfl, ?_⟩
    exact (Nat.add_sub_cancel' (Draft.count_take_le longest.takes (i + 1))).symm
  · intro f accepted
    rw [accepted] at stops ⊢
    refine ⟨?_, stops.accepted⟩
    rw [Std.TreeSet.length_toList]
    rfl
  · intro fault rejected
    rw [rejected] at stops ⊢
    refine ⟨rfl, ?_, fun early _ _ _ => stops.early early⟩
    rintro position missing rfl
    have balance := Draft.count_take_le longest.takes taken.length
    rw [List.take_length] at balance
    exact stops.unclosed balance
  · intro log
    have alike : (read log raw).1 = result := read_log log _ raw
    obtain ⟨again, longest', written', -⟩ := exists_trail log raw
    obtain rfl := longest.unique (longest'.of_start (.blank .trace))
    refine ⟨longest', alike, ?_, ?_⟩
    · rw [written', alike, recorded]
    · rw [recorded]
      exact Log.filter_keeps traced told log

/-- two parentheses left open, at three levels, then a second operand in a row, and a formula -/
theorem read_trail_open :
    let records (raw : String) : List Entry := (read (.blank .trace) raw).2.entries.toList
    let f : Formula := ⟨[.leftParen, .var "A1", .rightParen]⟩
    (read (.blank .trace) "((a1").1 = .error (.unclosed 4 2) ∧
      (∃ (traces : List Entry) (text : String) (offset : ℕ),
        records "((a1" = traces ++ [.rejected "((a1" (.unclosed 4 2)] ∧
          traces.getLast? = some (.token text offset 2) ∧ ∀ entry ∈ traces, entry.level = .trace) ∧
      (read (.blank .debug) "((a1").2.entries.toList = [.rejected "((a1" (.unclosed 4 2)] ∧
      (read (.blank .info) "((a1").2.entries.toList = [] ∧
      (read (.blank .trace) "(a1 2").1 = .error (.operatorExpected 4 .number) ∧
      (∃ traces : List Entry, records "(a1 2" = traces ++ [.rejected "(a1 2" (.operatorExpected 4 .number)] ∧
        ∀ text offset depth, .token text offset depth ∈ traces → offset < 4) ∧
      (read (.blank .trace) "(a1)").1 = .ok f ∧
      ∃ (traces : List Entry) (text : String) (offset : ℕ),
        records "(a1)" = traces ++ [.accepted "(a1)" f.canonical f.names.toList.length] ∧
          traces.length = 3 ∧ traces.getLast? = some (.token text offset 0) := by
  intro records f
  have unclosed : (read (.blank .trace) "((a1").1 = .error (.unclosed 4 2) :=
    read_eq_error_of_finish (by decide +kernel)
  have second : (read (.blank .trace) "(a1 2").1 = .error (.operatorExpected 4 .number) :=
    read_eq_error_of_finish (by decide +kernel)
  have accepted : (read (.blank .trace) "(a1)").1 = .ok f := read_eq_ok_of_tokens (by decide +kernel)
  obtain ⟨taken, traces, written, -, traced, -, -, -, rejected, levels⟩ := read_trail "((a1"
  obtain ⟨told, missing, -⟩ := rejected _ unclosed
  rw [told] at written
  obtain ⟨text, offset, last⟩ := missing 4 2 rfl
  refine ⟨unclosed, ⟨traces, text, offset, written, last, traced⟩, ?_, ?_, second, ?_, accepted, ?_⟩
  · obtain ⟨-, -, kept, rest⟩ := levels (.blank .debug)
    rw [kept, rest, told]
    rfl
  · obtain ⟨-, -, kept, rest⟩ := levels (.blank .info)
    rw [kept, rest]
    rfl
  · obtain ⟨taken, traces, written, -, -, -, -, -, rejected, -⟩ := read_trail "(a1 2"
    obtain ⟨told, -, early⟩ := rejected _ second
    rw [told] at written
    exact ⟨traces, written, early (by decide)⟩
  · obtain ⟨taken, traces, written, length, -, -, -, formula, -, -⟩ := read_trail "(a1)"
    obtain ⟨told, tokens, text, offset, last⟩ := formula _ accepted
    rw [told] at written
    refine ⟨traces, text, offset, written, ?_, last⟩
    rw [length, ← List.length_map Span.token, tokens]
    rfl

end Formula

end CellFormula
